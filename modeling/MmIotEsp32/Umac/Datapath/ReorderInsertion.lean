/-
  MmIotEsp32.Umac.Datapath.ReorderInsertion

  Where a frame is put on the reorder list.
-/
import MmIotEsp32.Umac.Datapath.ReorderOrder

namespace MmIotEsp32.Umac.Datapath

open Dot11 Keys Ba Lib

/-! ## The list -/

/-- What becomes of the frame. -/
inductive ReorderOutcome
  | inserted
  | repeated
  | overflow
  deriving DecidableEq

/-- The frames that are left when the head is handed on to make room. -/
def roomedList (l : List Mmpkt) (maxlen : U8) : List Mmpkt :=
  if maxlen.toNat ≤ l.length then l.tail else l

/-- What `umac_datapath_add_rx_mpdu_to_reorder_list` does to the list, before the evaluation;
`none` is the assertion that there is an insertion point. -/
def reorderListAdd (l : List Mmpkt) (rxbuf : Mmpkt) (seqCtrl : U16) (maxlen : U8) :
    Option (ReorderOutcome × List Mmpkt) :=
  match l.head? with
  | none => some (.inserted, [rxbuf])
  | some head =>
    if seqOf head == seqCtrl then some (.repeated, l)
    else if dot11SequenceControlLt seqCtrl (seqOf head) then
      if maxlen.toNat ≤ l.length then some (.overflow, l) else some (.inserted, rxbuf :: l)
    else
      (reorderInsertWalk rxbuf seqCtrl (roomedList l maxlen)).map fun walked =>
        match walked with
        | none => (.repeated, roomedList l maxlen)
        | some l => (.inserted, l)

section Evaluate

variable {env : UmacEnv} {u u' : UmacData}

theorem evaluate_suffix (hchains : FragChainsOk u)
    (heq : umacDatapathEvaluateRxReorderList env u = some u') : buffered u' <:+ buffered u := by
  have hloop : ∀ {l : List Mmpkt} {v : UmacData}, FragChainsOk v → buffered v = l →
      evaluateRxReorderLoop env l v = some u' → buffered u' <:+ l := by
    intro l v hv hlist hrun
    induction l generalizing v with
    | nil =>
      cases hrun
      rw [hlist]
    | cons x rest ih =>
      have hdequeue := (rxReorderDequeue_stad env v x).1
      unfold evaluateRxReorderLoop at hrun
      generalize rxReorderDequeue env v x = answer at hrun hdequeue
      obtain ⟨v₁, leaves⟩ := answer
      have hv₁ : FragChainsOk v₁ := by
        unfold FragChainsOk
        rw [hdequeue]
        exact hv
      cases leaves with
      | false =>
        obtain rfl := Option.some.inj hrun
        have hsame : buffered v₁ = buffered v :=
          congrArg (fun stad => stad.datapath.rxReorderList) hdequeue
        rw [hsame, hlist]
      | true =>
        obtain ⟨v₂, hx, hrest⟩ := Option.bind_eq_some_iff.mp hrun
        have hv₁' : FragChainsOk (v₁.setRxReorderList rest) := hv₁
        obtain ⟨record, hspec⟩ := afterReorder_of_eq_some hx hv₁'
        exact (ih hspec.chains hspec.rxReorderList hrest).trans (List.suffix_cons x rest)
  exact hloop hchains rfl heq

theorem reorderInsert_list {x : Mmpkt} {s : U16} (hchains : FragChainsOk u)
    (heq : reorderInsert env u x s = some u') :
    ∃ walked, reorderInsertWalk x s (buffered u) = some walked
      ∧ buffered u' <:+ walked.getD (buffered u) := by
  unfold reorderInsert at heq
  split at heq
  · cases heq
  · next hwalk =>
      cases heq
      exact ⟨none, hwalk, List.suffix_rfl⟩
  · next l hwalk =>
      have hchains' : FragChainsOk (u.setRxReorderList l) := hchains
      exact ⟨some l, hwalk, evaluate_suffix hchains' heq⟩

theorem reorderListAdd_eq {x : Mmpkt} {s : U16} {maxlen : U8} (hchains : FragChainsOk u)
    (heq : umacDatapathAddRxMpduToReorderList env u x s maxlen = some u') :
    ∃ outcome l, reorderListAdd (buffered u) x s maxlen = some (outcome, l)
      ∧ buffered u' <:+ l := by
  unfold umacDatapathAddRxMpduToReorderList at heq
  unfold reorderListAdd roomedList
  dsimp only at heq
  cases hlist : buffered u with
  | nil =>
    rw [show u.stad.datapath.rxReorderList = [] from hlist] at heq
    cases heq
    exact ⟨.inserted, [x], rfl, List.suffix_rfl⟩
  | cons head rest =>
    rw [show u.stad.datapath.rxReorderList = head :: rest from hlist] at heq
    dsimp only [List.head?_cons, List.tail_cons] at heq ⊢
    by_cases hsame : (seqOf head == s) = true
    · rw [if_pos hsame]
      obtain rfl := Option.some.inj ((if_pos hsame).symm.trans heq)
      exact ⟨.repeated, _, rfl, hlist ▸ List.suffix_rfl⟩
    rw [if_neg hsame]
    have heq := (if_neg hsame).symm.trans heq
    by_cases hfront : dot11SequenceControlLt s (seqOf head) = true
    · rw [if_pos hfront]
      have heq := (if_pos hfront).symm.trans heq
      by_cases hfull : maxlen.toNat ≤ (head :: rest).length
      · rw [if_pos hfull]
        obtain rfl := Option.some.inj ((if_pos (decide_eq_true hfull)).symm.trans heq)
        exact ⟨.overflow, _, rfl, hlist ▸ List.suffix_rfl⟩
      rw [if_neg hfull]
      have hroom : ¬ decide (maxlen.toNat ≤ (head :: rest).length) = true :=
        fun h => hfull (of_decide_eq_true h)
      obtain rfl := Option.some.inj ((if_neg hroom).symm.trans heq)
      exact ⟨.inserted, _, rfl, List.suffix_rfl⟩
    rw [if_neg hfront]
    have heq := (if_neg hfront).symm.trans heq
    by_cases hfull : maxlen.toNat ≤ (head :: rest).length
    · -- The head is handed on first.
      rw [if_pos hfull]
      obtain ⟨v, hhead, hinsert⟩ :=
        Option.bind_eq_some_iff.mp ((if_pos (decide_eq_true hfull)).symm.trans heq)
      have hchains' : FragChainsOk (u.setRxReorderList rest) := hchains
      obtain ⟨record, hspec⟩ := afterReorder_of_eq_some hhead hchains'
      have hrest : buffered v = rest := hspec.rxReorderList
      obtain ⟨walked, hwalk, hsuffix⟩ := reorderInsert_list hspec.chains hinsert
      rw [hrest] at hwalk hsuffix
      rw [hwalk]
      cases walked with
      | none => exact ⟨.repeated, rest, rfl, hsuffix⟩
      | some l => exact ⟨.inserted, l, rfl, hsuffix⟩
    rw [if_neg hfull]
    have hroom : ¬ decide (maxlen.toNat ≤ (head :: rest).length) = true :=
      fun h => hfull (of_decide_eq_true h)
    obtain ⟨walked, hwalk, hsuffix⟩ :=
      reorderInsert_list hchains ((if_neg hroom).symm.trans heq)
    rw [hlist] at hwalk hsuffix
    rw [hwalk]
    cases walked with
    | none => exact ⟨.repeated, _, rfl, hsuffix⟩
    | some l => exact ⟨.inserted, l, rfl, hsuffix⟩

end Evaluate

/-! ## The walk -/

/-- Every frame is before all that follow. -/
def StrictlySorted (l : List Mmpkt) : Prop :=
  l.Pairwise fun a b => dot11SequenceControlLt (seqOf a) (seqOf b) = true

theorem StrictlySorted.nodup {l : List Mmpkt} (h : StrictlySorted l) : (l.map seqOf).Nodup := by
  apply List.pairwise_map.mpr
  refine h.imp fun {a b} hlt heq => ?_
  rw [heq] at hlt
  rw [dot11SequenceControlLt_self] at hlt
  cases hlt

theorem reorderInsertWalk_sorted {x walk : Mmpkt} {rest : List Mmpkt}
    (hsorted : StrictlySorted (walk :: rest))
    (hwalk : dot11SequenceControlLt (seqOf walk) (seqOf x) = true) :
    (reorderInsertWalk x (seqOf x) (walk :: rest) = some none
        ∧ ∃ y ∈ walk :: rest, seqOf y = seqOf x)
      ∨ ∃ before after, reorderInsertWalk x (seqOf x) (walk :: rest)
            = some (some (before ++ x :: after))
          ∧ walk :: rest = before ++ after ∧ StrictlySorted (before ++ x :: after) := by
  induction rest generalizing walk with
  | nil =>
    refine Or.inr ⟨[walk], [], rfl, rfl, List.pairwise_cons.mpr ⟨fun y hy => ?_, ?_⟩⟩
    · rw [List.mem_singleton.mp hy]
      exact hwalk
    · exact List.pairwise_singleton _ _
  | cons next rest ih =>
    obtain ⟨hfirst, htail⟩ := List.pairwise_cons.mp hsorted
    obtain ⟨hnext, _⟩ := List.pairwise_cons.mp htail
    have hstep : reorderInsertWalk x (seqOf x) (walk :: next :: rest)
        = if seqOf next == seqOf x then some none
          else if dot11SequenceControlLt (seqOf x) (seqOf next) then
            some (some (walk :: x :: next :: rest))
          else (reorderInsertWalk x (seqOf x) (next :: rest)).map (Option.map (walk :: ·)) := rfl
    rw [hstep]
    by_cases hsame : seqOf next = seqOf x
    · exact Or.inl ⟨if_pos (beq_iff_eq.mpr hsame), next, by simp, hsame⟩
    rw [if_neg fun h => hsame (beq_iff_eq.mp h)]
    by_cases hlt : dot11SequenceControlLt (seqOf x) (seqOf next) = true
    · -- The place is in front of the next frame, which is before all that follow.
      refine Or.inr ⟨[walk], next :: rest, if_pos hlt, rfl, ?_⟩
      refine List.pairwise_cons.mpr ⟨fun y hy => ?_, List.pairwise_cons.mpr ⟨fun y hy => ?_,
        htail⟩⟩
      · rcases List.mem_cons.mp hy with rfl | hy
        · exact hwalk
        · exact hfirst y hy
      rcases List.mem_cons.mp hy with rfl | hy
      · exact hlt
      · exact serialLt_of_base hwalk (hfirst next List.mem_cons_self)
          (hfirst y (List.mem_cons_of_mem _ hy)) hlt (hnext y hy)
    have hnextx : dot11SequenceControlLt (seqOf next) (seqOf x) = true :=
      serialLt_of_not (fun h => hsame h.symm) (Bool.eq_false_iff.mpr hlt)
    rw [if_neg hlt]
    rcases ih htail hnextx with
      ⟨hfound, y, hy, hdup⟩ | ⟨before, after, hplace, hsplit, hplaced⟩
    · rw [hfound]
      exact Or.inl ⟨rfl, y, List.mem_cons_of_mem _ hy, hdup⟩
    rw [hplace]
    refine Or.inr ⟨walk :: before, after, rfl, ?_,
      List.pairwise_cons.mpr ⟨fun y hy => ?_, hplaced⟩⟩
    · rw [hsplit]
      rfl
    rcases List.mem_append.mp hy with hy | hy
    · exact hfirst y (by rw [hsplit]; exact List.mem_append_left _ hy)
    · rcases List.mem_cons.mp hy with rfl | hy
      · exact hwalk
      · exact hfirst y (by rw [hsplit]; exact List.mem_append_right _ hy)

theorem reorderInsertWalk_first {x walk : Mmpkt} {s : U16} {rest l : List Mmpkt}
    (heq : reorderInsertWalk x s (walk :: rest) = some (some l)) :
    ∃ behind, l = walk :: behind ∧ x ∈ behind := by
  induction rest generalizing walk l with
  | nil =>
    cases heq
    exact ⟨[x], rfl, List.mem_singleton_self x⟩
  | cons next rest ih =>
    unfold reorderInsertWalk at heq
    dsimp only at heq
    split_ifs at heq
    · cases Option.some.inj heq
    · cases heq
      exact ⟨_, rfl, List.mem_cons_self⟩
    obtain ⟨inserted, hwalk, hmap⟩ := Option.map_eq_some_iff.mp heq
    obtain ⟨l₁, rfl, rfl⟩ := Option.map_eq_some_iff.mp hmap
    obtain ⟨behind, rfl, hmem⟩ := ih hwalk
    exact ⟨_, rfl, List.mem_cons_of_mem _ hmem⟩

theorem reorderInsertWalk_repeat {x walk : Mmpkt} {s : U16} {rest : List Mmpkt}
    (heq : reorderInsertWalk x s (walk :: rest) = some none) : ∃ y ∈ rest, seqOf y = s := by
  induction rest generalizing walk with
  | nil => cases Option.some.inj heq
  | cons next rest ih =>
    unfold reorderInsertWalk at heq
    dsimp only at heq
    split_ifs at heq with hsame hlt
    · exact ⟨next, List.mem_cons_self, beq_iff_eq.mp hsame⟩
    · cases Option.some.inj heq
    obtain ⟨inserted, hwalk, hmap⟩ := Option.map_eq_some_iff.mp heq
    obtain rfl := Option.map_eq_none_iff.mp hmap
    obtain ⟨y, hy, hdup⟩ := ih hwalk
    exact ⟨y, List.mem_cons_of_mem next hy, hdup⟩

/-! ## The frame finds its place -/

/-- The reorder list of a session whose buffer has room for `maxlen` frames. -/
structure ReorderBuffer (maxlen : U8) where
  u : UmacData
  chains : FragChainsOk u
  size : 1 ≤ maxlen.toNat
  sorted : StrictlySorted (buffered u)
  room : (buffered u).length ≤ maxlen.toNat

/-- A list that is sorted, without repeats, and not too long. -/
structure ReorderListOk (maxlen : U8) (l : List Mmpkt) : Prop where
  sorted : StrictlySorted l
  nodup : (l.map seqOf).Nodup
  room : l.length ≤ maxlen.toNat

/-- The frame is put among those that are left; or it repeats one of those that were there; or
it is in front of the head of a full list, which stays as it was. -/
def OutcomeOk (l : List Mmpkt) (x : Mmpkt) (maxlen : U8) (l' : List Mmpkt) :
    ReorderOutcome → Prop
  | .inserted => ∃ kept, (kept = l ∨ kept = roomedList l maxlen) ∧ l'.Perm (x :: kept)
  | .repeated => (∃ y ∈ l, seqOf y = seqOf x) ∧ (l' = l ∨ l' = roomedList l maxlen)
  | .overflow =>
    maxlen.toNat ≤ l.length ∧ l' = l
      ∧ ∃ head ∈ l.head?, dot11SequenceControlLt (seqOf x) (seqOf head) = true

/-- There is an insertion point, what is left of the list is in order, and so is what is left
of it when the function returns. -/
structure ReorderInsertionOk (env : UmacEnv) (u : UmacData) (x : Mmpkt) (maxlen : U8) : Prop where
  point : (reorderListAdd (buffered u) x (seqOf x) maxlen).isSome = true
  added : ∀ outcome l, reorderListAdd (buffered u) x (seqOf x) maxlen = some (outcome, l) →
    ReorderListOk maxlen l ∧ OutcomeOk (buffered u) x maxlen l outcome
  returned : ∀ u', umacDatapathAddRxMpduToReorderList env u x (seqOf x) maxlen = some u' →
    ReorderListOk maxlen (buffered u')

/-- In front of the head the list is full, or the frame is before every other one too; behind
the head the list is not full, or a second frame is there and is before this one. -/
def FindsItsPlace (l : List Mmpkt) (x : Mmpkt) (maxlen : U8) : Prop :=
  ∀ head ∈ l.head?, seqOf head ≠ seqOf x →
    (dot11SequenceControlLt (seqOf x) (seqOf head) = true →
        maxlen.toNat ≤ l.length ∨ ∀ y ∈ l, dot11SequenceControlLt (seqOf x) (seqOf y) = true)
      ∧ (dot11SequenceControlLt (seqOf x) (seqOf head) = false → maxlen.toNat ≤ l.length →
        ∃ second ∈ l.tail.head?, dot11SequenceControlLt (seqOf second) (seqOf x) = true)

theorem ReorderListOk.of_suffix {maxlen : U8} {l l' : List Mmpkt} (h : ReorderListOk maxlen l)
    (hsuffix : l' <:+ l) : ReorderListOk maxlen l' where
  sorted := h.sorted.sublist hsuffix.sublist
  nodup := h.nodup.sublist (hsuffix.sublist.map seqOf)
  room := hsuffix.length_le.trans h.room

theorem StrictlySorted.listOk {maxlen : U8} {l : List Mmpkt} (h : StrictlySorted l)
    (hroom : l.length ≤ maxlen.toNat) : ReorderListOk maxlen l :=
  ⟨h, h.nodup, hroom⟩

section List

variable {maxlen : U8} {l rest : List Mmpkt} {head x : Mmpkt}

theorem reorderListAdd_repeat (h : seqOf head = seqOf x) :
    reorderListAdd (head :: rest) x (seqOf x) maxlen = some (.repeated, head :: rest) :=
  if_pos (beq_iff_eq.mpr h)

theorem reorderListAdd_front (h : seqOf head ≠ seqOf x)
    (hlt : dot11SequenceControlLt (seqOf x) (seqOf head) = true) :
    reorderListAdd (head :: rest) x (seqOf x) maxlen
      = if maxlen.toNat ≤ (head :: rest).length then some (.overflow, head :: rest)
        else some (.inserted, x :: head :: rest) :=
  (if_neg fun heq => h (beq_iff_eq.mp heq)).trans (if_pos hlt)

theorem reorderListAdd_behind (h : seqOf head ≠ seqOf x)
    (hlt : dot11SequenceControlLt (seqOf x) (seqOf head) = false) :
    reorderListAdd (head :: rest) x (seqOf x) maxlen
      = (reorderInsertWalk x (seqOf x) (roomedList (head :: rest) maxlen)).map fun walked =>
          match walked with
          | none => (.repeated, roomedList (head :: rest) maxlen)
          | some l => (.inserted, l) :=
  (if_neg fun heq => h (beq_iff_eq.mp heq)).trans (if_neg (Bool.eq_false_iff.mp hlt))

/-- The walk over a list whose first frame is before the new one. -/
theorem walk_ok {walk : Mmpkt} {tail : List Mmpkt} (hroomed : roomedList l maxlen = walk :: tail)
    (hsub : (walk :: tail).Sublist l) (hsorted : StrictlySorted l)
    (hroom : (walk :: tail).length < maxlen.toNat)
    (hwalk : dot11SequenceControlLt (seqOf walk) (seqOf x) = true) :
    ∃ outcome l', ((reorderInsertWalk x (seqOf x) (roomedList l maxlen)).map fun walked =>
        match walked with
        | none => (ReorderOutcome.repeated, roomedList l maxlen)
        | some l => (.inserted, l)) = some (outcome, l')
      ∧ ReorderListOk maxlen l' ∧ OutcomeOk l x maxlen l' outcome := by
  rw [hroomed]
  have htail : StrictlySorted (walk :: tail) := List.Pairwise.sublist hsub hsorted
  rcases reorderInsertWalk_sorted htail hwalk with
    ⟨hfound, y, hy, hdup⟩ | ⟨before, after, hplace, hsplit, hplaced⟩
  · rw [hfound]
    exact ⟨.repeated, _, rfl, htail.listOk (Nat.le_of_lt hroom), ⟨y, hsub.subset hy, hdup⟩,
      Or.inr hroomed.symm⟩
  rw [hplace]
  have hperm : (before ++ x :: after).Perm (x :: (walk :: tail)) := by
    rw [hsplit]
    exact List.perm_middle
  refine ⟨.inserted, _, rfl, hplaced.listOk ?_, walk :: tail, Or.inr hroomed.symm, hperm⟩
  rw [hperm.length_eq]
  exact hroom

theorem FindsItsPlace.listAdd (h : FindsItsPlace l x maxlen) (hsize : 1 ≤ maxlen.toNat)
    (hsorted : StrictlySorted l) (hroom : l.length ≤ maxlen.toNat) :
    ∃ outcome l', reorderListAdd l x (seqOf x) maxlen = some (outcome, l')
      ∧ ReorderListOk maxlen l' ∧ OutcomeOk l x maxlen l' outcome := by
  cases l with
  | nil =>
    have hsingle : StrictlySorted [x] := List.pairwise_singleton _ _
    exact ⟨.inserted, [x], rfl, hsingle.listOk hsize, [], Or.inl rfl, List.Perm.refl _⟩
  | cons head rest =>
    by_cases hsame : seqOf head = seqOf x
    · exact ⟨.repeated, _, reorderListAdd_repeat hsame, hsorted.listOk hroom,
        ⟨head, List.mem_cons_self, hsame⟩, Or.inl rfl⟩
    obtain ⟨hfront, hbehind⟩ := h head rfl hsame
    cases hlt : dot11SequenceControlLt (seqOf x) (seqOf head) with
    | true =>
      rw [reorderListAdd_front hsame hlt]
      by_cases hfull : maxlen.toNat ≤ (head :: rest).length
      · rw [if_pos hfull]
        exact ⟨.overflow, _, rfl, hsorted.listOk hroom, hfull, rfl, head, rfl, hlt⟩
      rw [if_neg hfull]
      have hbefore := (hfront hlt).resolve_left hfull
      have hplaced : StrictlySorted (x :: head :: rest) :=
        List.pairwise_cons.mpr ⟨hbefore, hsorted⟩
      refine ⟨.inserted, _, rfl, hplaced.listOk ?_, _, Or.inl rfl, List.Perm.refl _⟩
      rw [List.length_cons]
      omega
    | false =>
      rw [reorderListAdd_behind hsame hlt]
      by_cases hfull : maxlen.toNat ≤ (head :: rest).length
      · obtain ⟨second, hsecond, hwalk⟩ := hbehind hlt hfull
        cases rest with
        | nil => cases hsecond
        | cons next tail =>
          obtain rfl : next = second := Option.some.inj hsecond
          rw [List.length_cons] at hroom
          exact walk_ok (if_pos hfull) (List.sublist_cons_self head _) hsorted
            (by omega) hwalk
      · have hwalk : dot11SequenceControlLt (seqOf head) (seqOf x) = true :=
          serialLt_of_not (fun heq => hsame heq.symm) hlt
        exact walk_ok (if_neg hfull) (List.Sublist.refl _) hsorted (by omega) hwalk

theorem findsItsPlace_of_listAdd {outcome : ReorderOutcome} {l' : List Mmpkt}
    (heq : reorderListAdd l x (seqOf x) maxlen = some (outcome, l'))
    (hsorted : StrictlySorted l) (hok : ReorderListOk maxlen l') : FindsItsPlace l x maxlen := by
  intro head hhead hsame
  cases l with
  | nil => cases hhead
  | cons first rest =>
    obtain rfl : first = head := Option.some.inj hhead
    refine ⟨fun hlt => ?_, fun hlt hfull => ?_⟩
    · rw [reorderListAdd_front hsame hlt] at heq
      by_cases hfull : maxlen.toNat ≤ (first :: rest).length
      · exact Or.inl hfull
      · rw [if_neg hfull] at heq
        obtain rfl : x :: first :: rest = l' := congrArg Prod.snd (Option.some.inj heq)
        exact Or.inr (List.pairwise_cons.mp hok.sorted).1
    rw [reorderListAdd_behind hsame hlt] at heq
    have hroomed : roomedList (first :: rest) maxlen = rest := if_pos hfull
    rw [hroomed] at heq
    cases rest with
    | nil => cases heq
    | cons second tail =>
      refine ⟨second, rfl, ?_⟩
      obtain ⟨walked, hwalk, hend⟩ := Option.map_eq_some_iff.mp heq
      cases walked with
      | some l =>
        -- The frame was put behind the second one.
        obtain rfl : l = l' := congrArg Prod.snd hend
        obtain ⟨behind, rfl, hmem⟩ := reorderInsertWalk_first hwalk
        exact (List.pairwise_cons.mp hok.sorted).1 x hmem
      | none =>
        obtain ⟨y, hy, hdup⟩ := reorderInsertWalk_repeat hwalk
        obtain ⟨-, hrest⟩ := List.pairwise_cons.mp hsorted
        have hbefore := (List.pairwise_cons.mp hrest).1 y hy
        rw [hdup] at hbefore
        exact hbefore

end List

/-- The insertion is right exactly when the frame finds its place. -/
theorem reorder_insertion_ok_iff (env : UmacEnv) (maxlen : U8) (b : ReorderBuffer maxlen)
    (x : Mmpkt) :
    ReorderInsertionOk env b.u x maxlen ↔ FindsItsPlace (buffered b.u) x maxlen := by
  constructor
  · rintro ⟨hpoint, hadded, -⟩
    obtain ⟨⟨outcome, l⟩, heq⟩ := Option.isSome_iff_exists.mp hpoint
    exact findsItsPlace_of_listAdd heq b.sorted (hadded outcome l heq).1
  intro h
  obtain ⟨outcome, l, heq, hok, houtcome⟩ := h.listAdd b.size b.sorted b.room
  refine ⟨by rw [heq]; rfl, fun outcome' l' heq' => ?_, fun u' hu' => ?_⟩
  · obtain ⟨rfl, rfl⟩ := Prod.mk.inj (Option.some.inj (heq.symm.trans heq'))
    exact ⟨hok, houtcome⟩
  · obtain ⟨outcome', l', heq', hsuffix⟩ := reorderListAdd_eq b.chains hu'
    obtain ⟨-, rfl⟩ := Prod.mk.inj (Option.some.inj (heq.symm.trans heq'))
    exact hok.of_suffix hsuffix

/-- A buffer of one frame that holds the frame 16. -/
def oneFrameBuffer : ReorderBuffer 1 where
  u := (idleSession 1).setRxReorderList [bareQosMpdu 0x10]
  chains := (idleSession_idle (show (1 : U16) ≠ 0 by decide)).chains
  size := by decide
  sorted := List.pairwise_singleton _ _
  room := Nat.le_refl 1

/-- When the buffer has room for one frame only, there is no insertion point for a frame behind
it; and a frame between the first two, or one that repeats the second one, is put behind the
second one. -/
theorem reorder_insertion_fails :
    ¬ ReorderInsertionOk openEnv oneFrameBuffer.u (bareQosMpdu 0x20) 1
      ∧ reorderListAdd (buffered oneFrameBuffer.u) (bareQosMpdu 0x20) 0x20 1 = none
      ∧ umacDatapathAddRxMpduToReorderList openEnv oneFrameBuffer.u (bareQosMpdu 0x20) 0x20 1
          = none
      ∧ (reorderListAdd [bareQosMpdu 0x10, bareQosMpdu 0x30] (bareQosMpdu 0x20) 0x20 2).map
            (fun r => r.2.map seqOf) = some [0x30, 0x20]
      ∧ (reorderListAdd [bareQosMpdu 0x10, bareQosMpdu 0x30] (bareQosMpdu 0x30) 0x30 2).map
            (fun r => r.2.map seqOf) = some [0x30, 0x30] := by
  have hnone : reorderListAdd (buffered oneFrameBuffer.u) (bareQosMpdu 0x20) 0x20 1 = none := by
    decide +kernel
  refine ⟨fun h => ?_, hnone, by decide +kernel, by decide +kernel, by decide +kernel⟩
  have hpoint := h.point
  have hseq : seqOf (bareQosMpdu 0x20) = 0x20 := by decide +kernel
  rw [hseq, hnone] at hpoint
  cases hpoint

end MmIotEsp32.Umac.Datapath
