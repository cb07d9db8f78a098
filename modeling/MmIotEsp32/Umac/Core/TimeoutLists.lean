/-
  MmIotEsp32.Umac.Core.TimeoutLists

  The two lists of the timeout queue as lists of cells.
-/
import Mathlib.Data.List.TakeWhile
import MmIotEsp32.Lib.LinkedList
import MmIotEsp32.Umac.Core.TimeoutSpec

namespace MmIotEsp32.Umac.Core

open Lib Function

variable {H A : Type}

/-! ## Links and contents of the cells -/

/-- What a cell says about its timeout. -/
abbrev CellView (H A : Type) := U32 × Option H × Option A × Option A

def cellNext (toq : UmacCoreTimeoutq H A) (i : ToSlot) : Option ToSlot := (toq.node i).next

def cellView (toq : UmacCoreTimeoutq H A) (i : ToSlot) : CellView H A :=
  ((toq.node i).timeoutAbsMs, (toq.node i).handler, (toq.node i).arg1, (toq.node i).arg2)

/-- The cells that exist. -/
def poolCells (extraPool : Bool) : List ToSlot :=
  (List.finRange _).filter fun i => extraPool || i.val < umacTimeoutqMaxlen

theorem poolCells_nodup (extraPool : Bool) : (poolCells extraPool).Nodup :=
  (List.nodup_finRange _).filter _

theorem cellNext_set (toq : UmacCoreTimeoutq H A) (i : ToSlot) (tmo : UmacCoreTimeout H A) :
    cellNext (toq.set i tmo) = update (cellNext toq) i tmo.next := by
  funext j
  simp only [cellNext, UmacCoreTimeoutq.set, update_apply]
  split <;> rfl

@[simp] theorem cellNext_setNext (toq : UmacCoreTimeoutq H A) (i : ToSlot) (p : Option ToSlot) :
    cellNext (toq.setNext i p) = update (cellNext toq) i p := cellNext_set ..

@[simp] theorem cellView_setNext (toq : UmacCoreTimeoutq H A) (i : ToSlot) (p : Option ToSlot) :
    cellView (toq.setNext i p) = cellView toq := by
  funext j
  simp only [cellView, UmacCoreTimeoutq.setNext, UmacCoreTimeoutq.set, update_apply]
  split
  · rename_i h
    rw [h]
  · rfl

@[simp] theorem head_setNext (toq : UmacCoreTimeoutq H A) (i : ToSlot) (p : Option ToSlot) :
    (toq.setNext i p).head = toq.head := rfl

/-- Only links differ: every cell tells the same timeout. -/
structure Relinked (toq toq' : UmacCoreTimeoutq H A) : Prop where
  view : cellView toq' = cellView toq
  extraPool : toq'.extraPool = toq.extraPool

theorem Relinked.refl (toq : UmacCoreTimeoutq H A) : Relinked toq toq := ⟨rfl, rfl⟩

theorem Relinked.trans {toq toq' toq'' : UmacCoreTimeoutq H A} (h : Relinked toq toq')
    (h' : Relinked toq' toq'') : Relinked toq toq'' :=
  ⟨h'.view.trans h.view, h'.extraPool.trans h.extraPool⟩

theorem Relinked.setNext (toq : UmacCoreTimeoutq H A) (i : ToSlot) (p : Option ToSlot) :
    Relinked toq (toq.setNext i p) := ⟨cellView_setNext toq i p, rfl⟩

theorem Relinked.freeProtected (toq : UmacCoreTimeoutq H A) (i : ToSlot) :
    Relinked toq (umacTimeoutqFreeProtected toq i) := ⟨cellView_setNext toq i toq.free, rfl⟩

/-! ## The invariant of the two lists -/

/-- The lists of the queue, and the cells a running operation holds off them. -/
structure Linked (toq : UmacCoreTimeoutq H A) (used frees held : List ToSlot) : Prop where
  chain : Chain (cellNext toq) toq.head used
  freeChain : Chain (cellNext toq) toq.free frees
  cells : (used ++ frees ++ held).Perm (poolCells toq.extraPool)

namespace Linked

variable {toq toq' : UmacCoreTimeoutq H A} {used frees held pre post : List ToSlot}
  {i x : ToSlot}

theorem nodup (h : Linked toq used frees held) : (used ++ frees ++ held).Nodup :=
  h.cells.nodup_iff.mpr (poolCells_nodup _)

theorem used_nodup (h : Linked toq used frees held) : used.Nodup :=
  (h.nodup.sublist (by simp [List.append_assoc]))

theorem length_used_le (h : Linked toq used frees held) : used.length < walkFuel := by
  have hlen := h.used_nodup.length_le_card
  simp only [Fintype.card_fin] at hlen
  unfold walkFuel
  omega

theorem not_mem_used (h : Linked toq used frees (i :: held)) : i ∉ used := by
  have hnd := h.nodup
  simp only [List.nodup_append, List.mem_append] at hnd
  exact fun hi => hnd.2.2 i (Or.inl hi) i (List.mem_cons_self ..) rfl

theorem not_mem_frees (h : Linked toq used frees (i :: held)) : i ∉ frees := by
  have hnd := h.nodup
  simp only [List.nodup_append, List.mem_append] at hnd
  exact fun hi => hnd.2.2 i (Or.inr hi) i (List.mem_cons_self ..) rfl

theorem used_not_mem_frees (h : Linked toq used frees held) (hi : i ∈ used) : i ∉ frees := by
  have hnd := h.nodup
  simp only [List.nodup_append, List.mem_append] at hnd
  exact fun hf => hnd.1.2.2 i hi i hf rfl

theorem congr (h : Linked toq used frees held) (hnext : cellNext toq' = cellNext toq)
    (hhead : toq'.head = toq.head) (hfree : toq'.free = toq.free)
    (hextra : toq'.extraPool = toq.extraPool) : Linked toq' used frees held where
  chain := by rw [hnext, hhead]; exact h.chain
  freeChain := by rw [hnext, hfree]; exact h.freeChain
  cells := by rw [hextra]; exact h.cells

theorem set_held (h : Linked toq used frees (i :: held)) (tmo : UmacCoreTimeout H A) :
    Linked (toq.set i tmo) used frees (i :: held) where
  chain := by
    rw [cellNext_set]
    exact Seg.update h.not_mem_used h.chain
  freeChain := by
    rw [cellNext_set]
    exact Seg.update h.not_mem_frees h.freeChain
  cells := h.cells

theorem perm_cons_behind (pre post : List ToSlot) (i x : ToSlot) :
    (pre ++ i :: x :: post).Perm (x :: (pre ++ i :: post)) := by
  rw [show pre ++ i :: x :: post = (pre ++ [i]) ++ x :: post by simp,
    show pre ++ i :: post = (pre ++ [i]) ++ post by simp]
  exact List.perm_middle

theorem unlinkHead (h : Linked toq (i :: used) frees held) :
    Linked { toq with head := (toq.node i).next } used frees (i :: held) where
  chain := h.chain.2
  freeChain := h.freeChain
  cells := by
    refine List.Perm.trans ?_ h.cells
    rw [List.append_assoc, List.append_assoc, List.cons_append, ← List.append_assoc,
      ← List.append_assoc]
    exact List.perm_middle

theorem unlinkAfter (h : Linked toq (pre ++ i :: x :: post) frees held) :
    Linked (toq.setNext i (toq.node x).next) (pre ++ i :: post) frees (x :: held) where
  chain := by
    rw [cellNext_setNext]
    exact h.chain.removeAfter h.used_nodup
  freeChain := by
    rw [cellNext_setNext]
    exact Seg.update (h.used_not_mem_frees (by simp)) h.freeChain
  cells := by
    refine List.Perm.trans ?_ h.cells
    refine List.perm_middle.trans ?_
    exact ((perm_cons_behind pre post i x).symm.append_right frees).append_right held

theorem linkHead (h : Linked toq used frees (i :: held)) (hnext : cellNext toq i = toq.head) :
    Linked { toq with head := some i } (i :: used) frees held where
  chain := ⟨rfl, hnext ▸ h.chain⟩
  freeChain := h.freeChain
  cells := by
    refine List.Perm.trans ?_ h.cells
    rw [List.cons_append, List.cons_append]
    exact List.perm_middle.symm

theorem linkAfter (h : Linked toq (pre ++ i :: post) frees (x :: held)) :
    Linked ((toq.setNext i (some x)).setNext x (toq.node i).next) (pre ++ i :: x :: post)
      frees held where
  chain := by
    rw [cellNext_setNext, cellNext_setNext]
    exact h.chain.insertAfter h.used_nodup h.not_mem_used
  freeChain := by
    rw [cellNext_setNext, cellNext_setNext]
    exact Seg.update h.not_mem_frees (Seg.update (h.used_not_mem_frees (by simp)) h.freeChain)
  cells := by
    refine List.Perm.trans ?_ h.cells
    refine List.Perm.trans ?_ List.perm_middle.symm
    exact ((perm_cons_behind pre post i x).append_right frees).append_right held

theorem alloc (h : Linked toq used (i :: frees) held) :
    Linked { toq.setNext i none with free := (toq.node i).next } used frees (i :: held) := by
  have htaken : Linked { toq with free := (toq.node i).next } used frees (i :: held) :=
    { chain := h.chain
      freeChain := h.freeChain.2
      cells := by
        refine List.Perm.trans ?_ h.cells
        refine List.perm_middle.trans ?_
        rw [← List.cons_append]
        exact List.Perm.append_right _ List.perm_middle.symm }
  exact (htaken.set_held _).congr rfl rfl rfl rfl

theorem freeProtected (h : Linked toq used frees (i :: held)) :
    Linked (umacTimeoutqFreeProtected toq i) used (i :: frees) held where
  chain := by
    show Chain (cellNext (toq.setNext i toq.free)) toq.head used
    rw [cellNext_setNext]
    exact Seg.update h.not_mem_used h.chain
  freeChain := by
    show Chain (cellNext (toq.setNext i toq.free)) (some i) (i :: frees)
    rw [cellNext_setNext]
    exact h.freeChain.push h.not_mem_frees
  cells := by
    refine List.Perm.trans ?_ h.cells
    refine List.Perm.trans ?_ List.perm_middle.symm
    rw [← List.cons_append]
    exact List.Perm.append_right _ List.perm_middle

end Linked

/-! ## What each function does to the lists -/

/-- `i` expires strictly before `j`. -/
def cellBefore (toq : UmacCoreTimeoutq H A) (i j : ToSlot) : Prop :=
  mmosalTimeLt (cellView toq i).1 (cellView toq j).1 = true

instance (toq : UmacCoreTimeoutq H A) : DecidableRel (cellBefore toq) :=
  fun _ _ => instDecidableEqBool _ _

section Insertion

variable {toq : UmacCoreTimeoutq H A} {frees held : List ToSlot} {tmo : ToSlot}

theorem umacTimeoutqEnqueueWalk_succ {walk z : ToSlot} {fuel : Nat}
    (hnext : (toq.node walk).next = some z)
    (hle : mmosalTimeLe (cellView toq walk).1 (cellView toq tmo).1 = true) :
    umacTimeoutqEnqueueWalk (fuel + 1) toq tmo walk
      = if cellBefore toq tmo z then some ((toq.setNext walk (some tmo)).setNext tmo (some z))
        else umacTimeoutqEnqueueWalk fuel toq tmo z := by
  have hle' : mmosalTimeLe (toq.node walk).timeoutAbsMs (toq.node tmo).timeoutAbsMs = true := hle
  rw [umacTimeoutqEnqueueWalk, hnext]
  dsimp only
  rw [hle', Bool.true_and]
  rfl

/-- The walk inserts `tmo` in front of the first cell due strictly after it.  At the
end of the list it leaves `tmo->next` alone, so that has to be null there. -/
theorem umacTimeoutqEnqueueWalk_spec {pre rest : List ToSlot} {walk : ToSlot} {fuel : Nat}
    (hfuel : rest.length < fuel)
    (h : Linked toq (pre ++ walk :: rest) frees (tmo :: held))
    (htotal : ∀ i ∈ walk :: rest, ¬ cellBefore toq tmo i →
      mmosalTimeLe (cellView toq i).1 (cellView toq tmo).1 = true)
    (hwalk : ¬ cellBefore toq tmo walk)
    (hend : cellNext toq tmo = none ∨ ∃ z ∈ rest, cellBefore toq tmo z) :
    ∃ toq', umacTimeoutqEnqueueWalk fuel toq tmo walk = some toq'
      ∧ Relinked toq toq'
      ∧ Linked toq' (pre ++ (walk :: rest).orderedInsert (cellBefore toq) tmo) frees held := by
  induction rest generalizing pre walk fuel with
  | nil =>
    obtain ⟨fuel, rfl⟩ := Nat.exists_eq_add_of_lt hfuel
    have hnext : (toq.node walk).next = none := (chain_append_cons.mp h.chain).2
    have htmo : cellNext toq tmo = none := by
      rcases hend with hnone | ⟨z, hz, _⟩
      · exact hnone
      · exact absurd hz (by simp)
    refine ⟨toq.setNext walk (some tmo), ?_, Relinked.setNext .., ?_⟩
    · rw [umacTimeoutqEnqueueWalk, hnext]
    rw [List.orderedInsert_of_not_le _ _ hwalk]
    refine h.linkAfter.congr ?_ rfl rfl rfl
    have hne : tmo ≠ walk := fun heq => h.not_mem_used (by simp [heq])
    rw [cellNext_setNext, cellNext_setNext, cellNext_setNext, hnext]
    -- the second write of `linkAfter` would store the null that is already there
    conv_rhs => rw [update_eq_self_iff.mpr
      (by rw [update_of_ne hne]; exact htmo.symm)]
  | cons z rest ih =>
    obtain ⟨fuel, rfl⟩ := Nat.exists_eq_add_of_lt hfuel
    have hnext : (toq.node walk).next = some z := (chain_append_cons.mp h.chain).2.1
    rw [List.orderedInsert_of_not_le _ _ hwalk, umacTimeoutqEnqueueWalk_succ hnext
      (htotal walk (List.mem_cons_self ..) hwalk)]
    by_cases hz : cellBefore toq tmo z
    · rw [if_pos hz, List.orderedInsert_cons_of_le _ _ hz]
      refine ⟨_, rfl, (Relinked.setNext ..).trans (Relinked.setNext ..), ?_⟩
      rw [← hnext]
      exact h.linkAfter
    rw [if_neg hz]
    have h' : Linked toq ((pre ++ [walk]) ++ z :: rest) frees (tmo :: held) := by
      rw [List.append_assoc]
      exact h
    have hend' : cellNext toq tmo = none ∨ ∃ y ∈ rest, cellBefore toq tmo y := by
      rcases hend with hnone | ⟨y, hy, hby⟩
      · exact Or.inl hnone
      · rcases List.mem_cons.mp hy with rfl | hy'
        · exact absurd hby hz
        · exact Or.inr ⟨y, hy', hby⟩
    have hfuel' : rest.length < (z :: rest).length + fuel := by
      rw [List.length_cons]
      omega
    obtain ⟨toq', heq, hview, hlinked⟩ := ih hfuel' h'
      (fun i hi => htotal i (List.mem_cons_of_mem _ hi)) hz hend'
    refine ⟨toq', heq, hview, ?_⟩
    rw [show pre ++ walk :: (z :: rest).orderedInsert (cellBefore toq) tmo
      = (pre ++ [walk]) ++ (z :: rest).orderedInsert (cellBefore toq) tmo by simp]
    exact hlinked

theorem umacTimeoutqEnqueueProtected_spec {used : List ToSlot}
    (h : Linked toq used frees (tmo :: held))
    (htotal : ∀ i ∈ used, ¬ cellBefore toq tmo i →
      mmosalTimeLe (cellView toq i).1 (cellView toq tmo).1 = true)
    (hend : cellNext toq tmo = none ∨ ∃ z ∈ used, cellBefore toq tmo z) :
    ∃ toq', umacTimeoutqEnqueueProtected toq tmo = some toq'
      ∧ Relinked toq toq'
      ∧ Linked toq' (used.orderedInsert (cellBefore toq) tmo) frees held := by
  unfold umacTimeoutqEnqueueProtected
  cases used with
  | nil =>
    have hhead : toq.head = none := h.chain
    have htmo : cellNext toq tmo = none := by
      rcases hend with hnone | ⟨z, hz, _⟩
      · exact hnone
      · exact absurd hz (by simp)
    rw [hhead]
    exact ⟨_, rfl, ⟨rfl, rfl⟩, h.linkHead (htmo.trans hhead.symm)⟩
  | cons w rest =>
    have hhead : toq.head = some w := h.chain.1
    rw [hhead]
    show ∃ toq', (if cellBefore toq tmo w then some { toq.setNext tmo (some w) with head := some tmo }
      else umacTimeoutqEnqueueWalk walkFuel toq tmo w) = some toq' ∧ _
    by_cases hw : cellBefore toq tmo w
    · rw [if_pos hw, List.orderedInsert_cons_of_le _ _ hw]
      refine ⟨_, rfl, ⟨cellView_setNext toq tmo (some w), rfl⟩, ?_⟩
      refine (h.set_held { toq.node tmo with next := some w }).linkHead ?_
      rw [cellNext_set, update_self]
      exact hhead.symm
    rw [if_neg hw]
    have h' : Linked toq ([] ++ w :: rest) frees (tmo :: held) := h
    refine umacTimeoutqEnqueueWalk_spec ?_ h' htotal hw ?_
    · exact Nat.lt_of_succ_lt h.length_used_le
    rcases hend with hnone | ⟨z, hz, hbz⟩
    · exact Or.inl hnone
    · rcases List.mem_cons.mp hz with rfl | hz'
      · exact absurd hbz hw
      · exact Or.inr ⟨z, hz', hbz⟩

end Insertion

section Removal

variable [DecidableEq H] [DecidableEq A] {toq : UmacCoreTimeoutq H A}
  {frees held : List ToSlot} {handler : H} {arg1 arg2 : Option A}

/-- The test of the walks, on what a cell says. -/
def CellView.isFor (handler : H) (arg1 arg2 : Option A) (v : CellView H A) : Bool :=
  decide (v.2.1 = some handler) && decide (v.2.2.1 = arg1) && decide (v.2.2.2 = arg2)

def cellIsFor (handler : H) (arg1 arg2 : Option A) (toq : UmacCoreTimeoutq H A) (i : ToSlot) :
    Bool :=
  CellView.isFor handler arg1 arg2 (cellView toq i)

theorem cellIsFor_congr {toq' : UmacCoreTimeoutq H A} (h : cellView toq' = cellView toq) :
    cellIsFor handler arg1 arg2 toq' = cellIsFor handler arg1 arg2 toq := by
  funext i
  unfold cellIsFor
  rw [h]

theorem isFor_node (toq : UmacCoreTimeoutq H A) (i : ToSlot) :
    (toq.node i).isFor handler arg1 arg2 = cellIsFor handler arg1 arg2 toq i := rfl

variable {fuel : Nat}

theorem umacTimeoutqRemoveOneWalk_none {prev : ToSlot} {rest : List ToSlot}
    (hfuel : rest.length < fuel) (h : Chain (cellNext toq) (some prev) (prev :: rest))
    (hrest : ∀ i ∈ rest, cellIsFor handler arg1 arg2 toq i = false) :
    umacTimeoutqRemoveOneWalk handler arg1 arg2 fuel toq prev = some (toq, none) := by
  induction rest generalizing prev fuel with
  | nil =>
    obtain ⟨fuel, rfl⟩ := Nat.exists_eq_add_of_lt hfuel
    have hnext : (toq.node prev).next = none := h.2
    rw [umacTimeoutqRemoveOneWalk, hnext]
  | cons z rest ih =>
    obtain ⟨fuel, rfl⟩ := Nat.exists_eq_add_of_lt hfuel
    have hnext : (toq.node prev).next = some z := h.2.1
    rw [umacTimeoutqRemoveOneWalk, hnext]
    dsimp only
    rw [isFor_node, hrest z (List.mem_cons_self ..), if_neg Bool.false_ne_true]
    refine ih ?_ ⟨rfl, h.2.2⟩ fun i hi => hrest i (List.mem_cons_of_mem _ hi)
    rw [List.length_cons]
    omega

/-- The walk unlinks the first match behind `prev`. -/
theorem umacTimeoutqRemoveOneWalk_some {pre mid post : List ToSlot} {prev x : ToSlot}
    (hfuel : mid.length < fuel) (h : Linked toq (pre ++ prev :: (mid ++ x :: post)) frees held)
    (hmid : ∀ i ∈ mid, cellIsFor handler arg1 arg2 toq i = false)
    (hx : cellIsFor handler arg1 arg2 toq x = true) :
    ∃ toq', umacTimeoutqRemoveOneWalk handler arg1 arg2 fuel toq prev = some (toq', some x)
      ∧ Relinked toq toq' ∧ (x ≠ prev → x ∉ mid → cellNext toq' x = cellNext toq x)
      ∧ Linked toq' (pre ++ prev :: (mid ++ post)) frees (x :: held) := by
  induction mid generalizing pre prev fuel with
  | nil =>
    obtain ⟨fuel, rfl⟩ := Nat.exists_eq_add_of_lt hfuel
    have hnext : (toq.node prev).next = some x := (chain_append_cons.mp h.chain).2.1
    refine ⟨toq.setNext prev (toq.node x).next, ?_, Relinked.setNext .., ?_, h.unlinkAfter⟩
    · rw [umacTimeoutqRemoveOneWalk, hnext]
      dsimp only
      rw [isFor_node, if_pos hx]
    · intro hne _
      rw [cellNext_setNext, update_of_ne hne]
  | cons z mid ih =>
    obtain ⟨fuel, rfl⟩ := Nat.exists_eq_add_of_lt hfuel
    have hnext : (toq.node prev).next = some z := (chain_append_cons.mp h.chain).2.1
    have h' : Linked toq ((pre ++ [prev]) ++ z :: (mid ++ x :: post)) frees held := by
      rw [List.append_assoc]
      exact h
    have hfuel' : mid.length < (z :: mid).length + fuel := by
      rw [List.length_cons]
      omega
    obtain ⟨toq', heq, hview, hx', hlinked⟩ :=
      ih hfuel' h' (fun i hi => hmid i (List.mem_cons_of_mem _ hi))
    refine ⟨toq', ?_, hview, ?_, ?_⟩
    · rw [umacTimeoutqRemoveOneWalk, hnext]
      dsimp only
      rw [isFor_node, hmid z (List.mem_cons_self ..), if_neg Bool.false_ne_true]
      exact heq
    · intro _ hnot
      rw [List.mem_cons, not_or] at hnot
      exact hx' hnot.1 hnot.2
    · rw [List.append_assoc] at hlinked
      exact hlinked

variable {used : List ToSlot}

theorem umacTimeoutqRemoveOneProtected_none (h : Linked toq used frees held)
    (hused : ∀ i ∈ used, cellIsFor handler arg1 arg2 toq i = false) :
    umacTimeoutqRemoveOneProtected toq handler arg1 arg2 = some (toq, none) := by
  unfold umacTimeoutqRemoveOneProtected
  cases used with
  | nil =>
    have hhead : toq.head = none := h.chain
    rw [hhead]
  | cons w rest =>
    have hhead : toq.head = some w := h.chain.1
    rw [hhead]
    dsimp only
    rw [isFor_node, hused w (List.mem_cons_self ..), if_neg Bool.false_ne_true]
    exact umacTimeoutqRemoveOneWalk_none (Nat.lt_of_succ_lt h.length_used_le)
      ⟨rfl, h.chain.2⟩ fun i hi => hused i (List.mem_cons_of_mem _ hi)

theorem umacTimeoutqRemoveOneProtected_some {pre post : List ToSlot} {x : ToSlot}
    (h : Linked toq (pre ++ x :: post) frees held)
    (hpre : ∀ i ∈ pre, cellIsFor handler arg1 arg2 toq i = false)
    (hx : cellIsFor handler arg1 arg2 toq x = true) :
    ∃ toq', umacTimeoutqRemoveOneProtected toq handler arg1 arg2 = some (toq', some x)
      ∧ Relinked toq toq' ∧ cellNext toq' x = post.head?
      ∧ Linked toq' (pre ++ post) frees (x :: held) := by
  have hnextx : cellNext toq x = post.head? := by
    have hchain := (chain_append_cons.mp h.chain).2
    cases post with
    | nil => exact hchain
    | cons p post => exact hchain.1
  unfold umacTimeoutqRemoveOneProtected
  cases pre with
  | nil =>
    have hhead : toq.head = some x := h.chain.1
    rw [hhead]
    dsimp only
    rw [isFor_node, if_pos hx]
    exact ⟨_, rfl, ⟨rfl, rfl⟩, hnextx, h.unlinkHead⟩
  | cons w mid =>
    have hhead : toq.head = some w := h.chain.1
    rw [hhead]
    dsimp only
    rw [isFor_node, hpre w (List.mem_cons_self ..), if_neg Bool.false_ne_true]
    have hlen := h.length_used_le
    simp only [List.length_append, List.length_cons] at hlen
    have hfuel : mid.length < walkFuel := by omega
    have h' : Linked toq ([] ++ w :: (mid ++ x :: post)) frees held := h
    obtain ⟨toq', heq, hview, hx', hlinked⟩ := umacTimeoutqRemoveOneWalk_some hfuel h'
      (fun i hi => hpre i (List.mem_cons_of_mem _ hi)) hx
    have hnd := h.used_nodup
    simp only [List.cons_append, List.nodup_cons, List.nodup_append, List.mem_append,
      List.mem_cons, not_or] at hnd
    have hne : x ≠ w := fun heq' => hnd.1.2.1 heq'.symm
    have hmid : x ∉ mid := fun hm => hnd.2.2.2 x hm x (Or.inl rfl) rfl
    exact ⟨toq', heq, hview, (hx' hne hmid).trans hnextx, hlinked⟩

variable (handler arg1 arg2) in
theorem umacTimeoutqCancelHead_spec (count : Nat)
    (hfuel : used.length < fuel) (h : Linked toq used frees held) :
    ∃ toq' frees', umacTimeoutqCancelHead handler arg1 arg2 fuel toq count
        = some (toq', count + (used.takeWhile (cellIsFor handler arg1 arg2 toq)).length)
      ∧ Relinked toq toq'
      ∧ Linked toq' (used.dropWhile (cellIsFor handler arg1 arg2 toq)) frees' held := by
  induction used generalizing toq frees fuel count with
  | nil =>
    obtain ⟨fuel, rfl⟩ := Nat.exists_eq_add_of_lt hfuel
    have hhead : toq.head = none := h.chain
    refine ⟨toq, frees, ?_, .refl _, h⟩
    rw [umacTimeoutqCancelHead, hhead]
    rfl
  | cons w rest ih =>
    obtain ⟨fuel, rfl⟩ := Nat.exists_eq_add_of_lt hfuel
    have hhead : toq.head = some w := h.chain.1
    rw [umacTimeoutqCancelHead, hhead]
    dsimp only
    rw [isFor_node]
    by_cases hw : cellIsFor handler arg1 arg2 toq w = true
    · rw [if_pos hw, List.takeWhile_cons_of_pos hw, List.dropWhile_cons_of_pos hw]
      have hfuel' : rest.length < (w :: rest).length + fuel := by
        rw [List.length_cons]
        omega
      obtain ⟨toq', frees', heq, hview, hlinked⟩ :=
        ih (count + 1) hfuel' h.unlinkHead.freeProtected
      have hview' : Relinked toq (umacTimeoutqFreeProtected
          { toq with head := (toq.node w).next } w) :=
        (show Relinked toq { toq with head := (toq.node w).next } from ⟨rfl, rfl⟩).trans
          (Relinked.freeProtected ..)
      rw [cellIsFor_congr hview'.view] at heq hlinked
      refine ⟨toq', frees', heq.trans ?_, hview'.trans hview, hlinked⟩
      rw [Nat.add_right_comm]
      rfl
    · rw [if_neg hw, List.takeWhile_cons_of_neg hw, List.dropWhile_cons_of_neg hw]
      exact ⟨toq, frees, rfl, .refl _, h⟩

variable (handler arg1 arg2) in
theorem umacTimeoutqCancelWalk_spec {pre rest : List ToSlot} {prev : ToSlot}
    (count : Nat) (hfuel : rest.length < fuel) (h : Linked toq (pre ++ prev :: rest) frees held) :
    ∃ toq' frees', umacTimeoutqCancelWalk handler arg1 arg2 fuel toq prev count
        = some (toq', count + rest.countP (cellIsFor handler arg1 arg2 toq)) ∧ Relinked toq toq'
      ∧ Linked toq' (pre ++ prev :: rest.filter fun i => !cellIsFor handler arg1 arg2 toq i) frees' held := by
  induction rest generalizing toq frees pre prev fuel count with
  | nil =>
    obtain ⟨fuel, rfl⟩ := Nat.exists_eq_add_of_lt hfuel
    have hnext : (toq.node prev).next = none := (chain_append_cons.mp h.chain).2
    refine ⟨toq, frees, ?_, .refl _, h⟩
    rw [umacTimeoutqCancelWalk, hnext]
    rfl
  | cons z rest ih =>
    obtain ⟨fuel, rfl⟩ := Nat.exists_eq_add_of_lt hfuel
    have hnext : (toq.node prev).next = some z := (chain_append_cons.mp h.chain).2.1
    have hfuel' : rest.length < (z :: rest).length + fuel := by
      rw [List.length_cons]
      omega
    rw [umacTimeoutqCancelWalk, hnext]
    dsimp only
    rw [isFor_node]
    by_cases hz : cellIsFor handler arg1 arg2 toq z = true
    · -- `prev` stays and the match behind it goes to the free list
      obtain ⟨toq', frees', heq, hview, hlinked⟩ :=
        ih (count + 1) hfuel' h.unlinkAfter.freeProtected
      have hview' : Relinked toq (umacTimeoutqFreeProtected
          (toq.setNext prev (toq.node z).next) z) :=
        (Relinked.setNext toq prev _).trans (Relinked.freeProtected ..)
      rw [cellIsFor_congr hview'.view] at heq hlinked
      rw [if_pos hz, List.countP_cons_of_pos hz, List.filter_cons_of_neg (by simp [hz])]
      refine ⟨toq', frees', heq.trans ?_, hview'.trans hview, hlinked⟩
      rw [Nat.add_right_comm]
      rfl
    have h' : Linked toq ((pre ++ [prev]) ++ z :: rest) frees held := by
      rw [List.append_assoc]
      exact h
    obtain ⟨toq', frees', heq, hview, hlinked⟩ := ih count hfuel' h'
    rw [if_neg hz, List.countP_cons_of_neg hz, List.filter_cons_of_pos (by simpa using hz)]
    refine ⟨toq', frees', heq, hview, ?_⟩
    rw [List.append_assoc] at hlinked
    exact hlinked

variable (handler arg1 arg2) in
theorem umacTimeoutqCancelProtected_spec (h : Linked toq used frees held) :
    ∃ toq' frees', umacTimeoutqCancelProtected toq handler arg1 arg2
        = some (toq', used.countP (cellIsFor handler arg1 arg2 toq)) ∧ Relinked toq toq'
      ∧ Linked toq' (used.filter fun i => !cellIsFor handler arg1 arg2 toq i) frees' held := by
  obtain ⟨toq₁, frees₁, heq₁, hview₁, hlinked₁⟩ :=
    umacTimeoutqCancelHead_spec handler arg1 arg2 0 h.length_used_le h
  unfold umacTimeoutqCancelProtected
  rw [heq₁, Option.bind_some, Nat.zero_add]
  dsimp only
  generalize hp : cellIsFor handler arg1 arg2 toq = p at hlinked₁ ⊢
  have hsplit : used = used.takeWhile p ++ used.dropWhile p := (List.takeWhile_append_dropWhile).symm
  have htake : ∀ i ∈ used.takeWhile p, p i = true := fun i hi => List.mem_takeWhile_imp hi
  have hcount : used.countP p = (used.takeWhile p).length + (used.dropWhile p).countP p := by
    conv_lhs => rw [hsplit]
    rw [List.countP_append, List.countP_eq_length.mpr htake]
  have hfilter : used.filter (fun i => !p i) = (used.dropWhile p).filter fun i => !p i := by
    conv_lhs => rw [hsplit]
    rw [List.filter_append, List.filter_eq_nil_iff.mpr (fun i hi => by simp [htake i hi]),
      List.nil_append]
  rw [hfilter, hcount]
  cases hdrop : used.dropWhile p with
  | nil =>
    rw [hdrop] at hlinked₁
    have hhead : toq₁.head = none := hlinked₁.chain
    rw [hhead]
    exact ⟨toq₁, frees₁, rfl, hview₁, hlinked₁⟩
  | cons w rest =>
    rw [hdrop] at hlinked₁
    have hhead : toq₁.head = some w := hlinked₁.chain.1
    have hw : p w = false := by
      have hne : used.dropWhile p ≠ [] := by
        rw [hdrop]
        simp
      simpa [hdrop] using List.head_dropWhile_not p hne
    rw [hhead]
    dsimp only
    have hlinked₁' : Linked toq₁ ([] ++ w :: rest) frees₁ held := hlinked₁
    obtain ⟨toq', frees', heq, hview, hlinked⟩ :=
      umacTimeoutqCancelWalk_spec handler arg1 arg2 (used.takeWhile p).length
        (Nat.lt_of_succ_lt hlinked₁.length_used_le) hlinked₁'
    rw [cellIsFor_congr hview₁.view, hp] at heq hlinked
    refine ⟨toq', frees', ?_, hview₁.trans hview, ?_⟩
    · rw [heq, List.countP_cons_of_neg (by simp [hw])]
    · rw [List.filter_cons_of_pos (by simp [hw])]
      exact hlinked

end Removal

end MmIotEsp32.Umac.Core
