/-
  MmIotEsp32.Lib.StreamParser

  Machines that read a stream and now and then have a result.

  A machine is a step function `step : σ → β → σ × Option ρ`.  The stream may come in pieces,
  and a caller may stop at each result and go on behind it: neither changes what is found.
  `Reads step I w rs` is the unit that framing proofs are built of: from every state in `I` the
  word `w` gives the results `rs`, and the machine is in `I` again.
-/
import Mathlib.Data.List.Basic

namespace MmIotEsp32.Lib

variable {σ β ρ : Type*}

/-! ## Reading a list -/

/-- The state after a list, and what was found in it. -/
def feed (step : σ → β → σ × Option ρ) (s : σ) : List β → σ × List ρ
  | [] => (s, [])
  | b :: bs =>
    ((feed step (step s b).1 bs).1, (step s b).2.toList ++ (feed step (step s b).1 bs).2)

/-- Reads until a result comes: the state, the result, and how much was read. -/
def firstResult (step : σ → β → σ × Option ρ) (s : σ) : List β → σ × Option ρ × Nat
  | [] => (s, none, 0)
  | b :: bs =>
    match (step s b).2 with
    | some r => ((step s b).1, some r, 1)
    | none =>
      let (t, r, consumed) := firstResult step (step s b).1 bs
      (t, r, consumed + 1)

section

variable {step : σ → β → σ × Option ρ}

@[simp] theorem feed_nil (s : σ) : feed step s [] = (s, []) := rfl

theorem feed_cons (s : σ) (b : β) (bs : List β) :
    feed step s (b :: bs)
      = ((feed step (step s b).1 bs).1,
          (step s b).2.toList ++ (feed step (step s b).1 bs).2) := rfl

theorem feed_append (s : σ) (as bs : List β) :
    feed step s (as ++ bs)
      = ((feed step (feed step s as).1 bs).1,
          (feed step s as).2 ++ (feed step (feed step s as).1 bs).2) := by
  induction as generalizing s with
  | nil => rfl
  | cons a as ih =>
    rw [List.cons_append, feed_cons, ih, feed_cons, List.append_assoc]

/-- A step that has no result is passed over. -/
theorem feed_cons_none {s : σ} {b : β} {bs : List β} (h : (step s b).2 = none) :
    feed step s (b :: bs) = feed step (step s b).1 bs := by
  rw [feed_cons, h]
  rfl

/-! ## Stopping at each result -/

theorem firstResult_le (s : σ) (bs : List β) : (firstResult step s bs).2.2 ≤ bs.length := by
  induction bs generalizing s with
  | nil => exact Nat.le_refl 0
  | cons b bs ih =>
    unfold firstResult
    split
    · exact Nat.succ_le_succ (Nat.zero_le _)
    · exact Nat.succ_le_succ (ih _)

theorem firstResult_pos (s : σ) {bs : List β} (h : bs ≠ []) : 0 < (firstResult step s bs).2.2 := by
  cases bs with
  | nil => exact absurd rfl h
  | cons b bs =>
    unfold firstResult
    split
    · exact Nat.one_pos
    · exact Nat.succ_pos _

/-- What is read up to the first result, and what is left behind it. -/
theorem feed_firstResult (s : σ) (bs : List β) :
    feed step s bs
      = ((feed step (firstResult step s bs).1 (bs.drop (firstResult step s bs).2.2)).1,
          (firstResult step s bs).2.1.toList
            ++ (feed step (firstResult step s bs).1 (bs.drop (firstResult step s bs).2.2)).2) := by
  induction bs generalizing s with
  | nil => rfl
  | cons b bs ih =>
    unfold firstResult
    split
    · next r hr =>
        rw [feed_cons, hr]
        rfl
    · next hr =>
        rw [feed_cons_none hr, ih]
        rfl

/-- The loop of a caller that handles each result before it reads on; a part that is used up
without progress ends it. -/
def drain (step : σ → β → σ × Option ρ) (s : σ) (bs : List β) : σ × List ρ :=
  if bs = [] then (s, [])
  else if _h : (firstResult step s bs).2.2 = 0 then
    ((firstResult step s bs).1, (firstResult step s bs).2.1.toList)
  else
    let rest := drain step (firstResult step s bs).1 (bs.drop (firstResult step s bs).2.2)
    (rest.1, (firstResult step s bs).2.1.toList ++ rest.2)
termination_by bs.length
decreasing_by
  have hle : (firstResult step s bs).2.2 ≤ bs.length := firstResult_le s bs
  rw [List.length_drop]
  omega

theorem drain_eq_feed (s : σ) (bs : List β) : drain step s bs = feed step s bs := by
  -- on the length: what is behind the first result is shorter
  induction hlen : bs.length using Nat.strongRecOn generalizing s bs with
  | _ n ih =>
    unfold drain
    split
    · next hnil => rw [hnil, feed_nil]
    next hne =>
      -- a part that is not empty makes progress, so the loop ends at its end only
      have hpos : 0 < (firstResult step s bs).2.2 := firstResult_pos s hne
      have hle : (firstResult step s bs).2.2 ≤ bs.length := firstResult_le s bs
      rw [dif_neg (Nat.pos_iff_ne_zero.mp hpos)]
      have hrest := ih (bs.drop (firstResult step s bs).2.2).length
        (by rw [List.length_drop]; omega) (firstResult step s bs).1 _ rfl
      rw [feed_firstResult s bs]
      dsimp only
      rw [hrest]

/-- A stream that comes in pieces. -/
def drainAll (step : σ → β → σ × Option ρ) (s : σ) : List (List β) → σ × List ρ
  | [] => (s, [])
  | w :: ws =>
    ((drainAll step (drain step s w).1 ws).1,
      (drain step s w).2 ++ (drainAll step (drain step s w).1 ws).2)

/-- Where a stream is cut does not matter. -/
theorem drainAll_eq_feed (s : σ) (ws : List (List β)) :
    drainAll step s ws = feed step s ws.flatten := by
  induction ws generalizing s with
  | nil => rfl
  | cons w ws ih =>
    rw [List.flatten_cons, feed_append, drainAll, drain_eq_feed, ih]

/-! ## Words that read well -/

/-- From every state in `I` the word gives the results, and the machine is in `I` again. -/
def Reads (step : σ → β → σ × Option ρ) (I : σ → Prop) (w : List β) (rs : List ρ) : Prop :=
  ∀ s, I s → I (feed step s w).1 ∧ (feed step s w).2 = rs

variable {I : σ → Prop} {v w : List β} {qs rs : List ρ}

theorem Reads.nil : Reads step I [] [] := fun _ hs => ⟨hs, rfl⟩

theorem Reads.append (hv : Reads step I v qs) (hw : Reads step I w rs) :
    Reads step I (v ++ w) (qs ++ rs) := by
  intro s hs
  obtain ⟨hI, hqs⟩ := hv s hs
  obtain ⟨hI', hrs⟩ := hw _ hI
  rw [feed_append, hqs, hrs]
  exact ⟨hI', rfl⟩

/-- Items that the machine ignores. -/
theorem Reads.ignored (h : ∀ b ∈ w, ∀ s, I s → I (step s b).1 ∧ (step s b).2 = none) :
    Reads step I w [] := by
  induction w with
  | nil => exact Reads.nil
  | cons b w ih =>
    intro s hs
    obtain ⟨hI, hnone⟩ := h b (List.mem_cons_self ..) s hs
    -- the state may change inside `I`, so the rest is read from another one
    rw [feed_cons_none hnone]
    exact ih (fun c hc => h c (List.mem_cons_of_mem b hc)) _ hI

/-- A list of words, one behind the other. -/
theorem Reads.flatMap {α : Type*} {l : List α} {word : α → List β} {results : α → List ρ}
    (h : ∀ a ∈ l, Reads step I (word a) (results a)) :
    Reads step I (l.flatMap word) (l.flatMap results) := by
  induction l with
  | nil => exact Reads.nil
  | cons a l ih =>
    rw [List.flatMap_cons, List.flatMap_cons]
    refine (h a (List.mem_cons_self ..)).append (ih ?_)
    intro b hb
    exact h b (List.mem_cons_of_mem a hb)

end

end MmIotEsp32.Lib
