/-
  MmIotEsp32.Common.MmpktList

  The links of the packet lists (`common/mmpkt_list.c`, `mmpkt_list.h`).

  The lists of the program share the memory of the packets, so a call on one of them is shown to
  leave the others alone.
-/
import Mathlib.Data.Fintype.Card
import MmIotEsp32.Common.Mmosal
import MmIotEsp32.Lib.LinkedList
import MmIotEsp32.Lib.Transition

namespace MmIotEsp32.Common.Links

open Lib Function

/-! ## The code -/

/-- The address of a packet. -/
abbrev PktAddr : Type := { a : U32 // a ≠ 0 }

structure MmpktList where
  head : Option PktAddr
  tail : Option PktAddr
  len : U32

def mmpktListInit : MmpktList := ⟨none, none, 0⟩

/-- The `next` of every packet. -/
abbrev PktLinks : Type := PktAddr → Option PktAddr

/-- More steps than a walk through distinct packets can take. -/
def walkFuel : Nat := 2 ^ 32

variable (next : PktLinks) (list : MmpktList) (mmpkt ref : PktAddr)

def mmpktListPrepend : PktLinks × MmpktList :=
  (update next mmpkt list.head,
    { head := some mmpkt
      tail := if list.tail = none then some mmpkt else list.tail
      len := list.len + 1 })

/-- `mmpkt_list_append`; `none` is a write through a tail that is `NULL`. -/
def mmpktListAppend : Option (PktLinks × MmpktList) :=
  let next := update next mmpkt none
  if list.head = none then some (next, ⟨some mmpkt, some mmpkt, list.len + 1⟩)
  else list.tail.map fun tail =>
    (update next tail (some mmpkt), { list with tail := some mmpkt, len := list.len + 1 })

/-- The `MMPKT_LIST_WALK` of `mmpkt_list_insert_after`; at the end of the list it asserts. -/
def mmpktListInsertAfterWalk : Nat → Option PktAddr → Option (PktLinks × MmpktList)
  | 0, _ => none
  | _ + 1, none => none
  | fuel + 1, some walk =>
    if walk = ref then
      some (update (update next walk (some mmpkt)) mmpkt (next walk),
        { list with
          len := list.len + 1
          tail := if next walk = none then some mmpkt else list.tail })
    else mmpktListInsertAfterWalk fuel (next walk)

def mmpktListInsertAfter : Option (PktLinks × MmpktList) :=
  mmpktListInsertAfterWalk next list mmpkt ref walkFuel list.head

/-- `mmpkt_find_prev`, from `walk` on. -/
def mmpktFindPrev : Nat → PktAddr → Option (Option PktAddr)
  | 0, _ => none
  | fuel + 1, walk =>
    match next walk with
    | none => some none
    | some after => if after = mmpkt then some (some walk) else mmpktFindPrev fuel after

/-- `mmpkt_list_remove`, with `MMOSAL_ASSERT(prev != NULL)`. -/
def mmpktListRemove : Option (PktLinks × MmpktList) :=
  match list.head with
  | none => some (next, list)
  | some head =>
    let finish (next : PktLinks) (head prev : Option PktAddr) : PktLinks × MmpktList :=
      (update next mmpkt none,
        { head := head
          tail := if list.tail = some mmpkt then prev else list.tail
          len := list.len - 1 })
    if head = mmpkt then some (finish next (next mmpkt) none)
    else
      match mmpktFindPrev next mmpkt walkFuel head with
      | some (some prev) => some (finish (update next prev (next mmpkt)) list.head (some prev))
      | _ => none

def mmpktListDequeue : (PktLinks × MmpktList) × Option PktAddr :=
  match list.head with
  | none => ((next, list), none)
  | some mmpkt =>
    ((update next mmpkt none,
      { head := next mmpkt
        len := list.len - 1
        tail := if list.tail = some mmpkt then none else list.tail }), some mmpkt)

def mmpktListDequeueTail : Option ((PktLinks × MmpktList) × Option PktAddr) :=
  match list.tail with
  | none => some ((next, list), none)
  | some mmpkt => (mmpktListRemove next list mmpkt).map (·, some mmpkt)

def mmpktListDequeueAll : (PktLinks × MmpktList) × Option PktAddr :=
  ((next, mmpktListInit), list.head)

/-- `MMPKT_LIST_WALK`: the packets it visits. -/
def mmpktListWalk : Nat → Option PktAddr → Option (List PktAddr)
  | 0, _ => none
  | _ + 1, none => some []
  | fuel + 1, some walk => (mmpktListWalk fuel (next walk)).map (walk :: ·)

/-! ## The lists of the program -/

/-- The calls, on the list that is named. -/
inductive ListOp (L : Type)
  | prepend (l : L) (mmpkt : PktAddr)
  | append (l : L) (mmpkt : PktAddr)
  | insertAfter (l : L) (ref mmpkt : PktAddr)
  | remove (l : L) (mmpkt : PktAddr)
  | dequeue (l : L)
  | dequeueTail (l : L)
  | dequeueAll (l : L)
  | walk (l : L)

/-- What a call gives back; a packet that is taken off, with the link that it then has. -/
inductive ListReturn
  | done
  | taken (mmpkt link : Option PktAddr)
  | visited (mmpkts : List PktAddr)
  deriving DecidableEq

/-- The packets, and the lists of the program. -/
structure PktHeap (L : Type) where
  next : PktLinks
  list : L → MmpktList

variable {L : Type} [DecidableEq L]

def PktHeap.put (heap : PktHeap L) (l : L) (r : PktLinks × MmpktList) : PktHeap L :=
  ⟨r.1, update heap.list l r.2⟩

/-- A packet was taken off. -/
def PktHeap.take (heap : PktHeap L) (l : L) (r : (PktLinks × MmpktList) × Option PktAddr) :
    PktHeap L × ListReturn :=
  (heap.put l r.1, .taken r.2 (r.2.bind r.1.1))

/-- A call; `none` is an assertion. -/
def listStep (heap : PktHeap L) : ListOp L → Option (PktHeap L × ListReturn)
  | .prepend l mmpkt => some (heap.put l (mmpktListPrepend heap.next (heap.list l) mmpkt), .done)
  | .append l mmpkt =>
    (mmpktListAppend heap.next (heap.list l) mmpkt).map fun r => (heap.put l r, .done)
  | .insertAfter l ref mmpkt =>
    (mmpktListInsertAfter heap.next (heap.list l) mmpkt ref).map fun r => (heap.put l r, .done)
  | .remove l mmpkt =>
    (mmpktListRemove heap.next (heap.list l) mmpkt).map fun r =>
      if (heap.list l).head = none then (heap, .done) else heap.take l (r, some mmpkt)
  | .dequeue l => some (heap.take l (mmpktListDequeue heap.next (heap.list l)))
  | .dequeueTail l => (mmpktListDequeueTail heap.next (heap.list l)).map (heap.take l)
  | .dequeueAll l => some (heap.take l (mmpktListDequeueAll heap.next (heap.list l)))
  | .walk l =>
    (mmpktListWalk heap.next walkFuel (heap.list l).head).map fun ps => (heap, .visited ps)

/-- What the calls are for: a sequence of packets for each list. -/
abbrev Seqs (L : Type) : Type := L → List PktAddr

/-- `mmpkt` put behind `ref`, if that is there. -/
def insertBehind (ref mmpkt : PktAddr) : List PktAddr → Option (List PktAddr)
  | [] => none
  | p :: ps => if p = ref then some (p :: mmpkt :: ps) else (insertBehind ref mmpkt ps).map (p :: ·)

def seqStep (q : Seqs L) : ListOp L → Option (Seqs L × ListReturn)
  | .prepend l mmpkt => some (update q l (mmpkt :: q l), .done)
  | .append l mmpkt => some (update q l (q l ++ [mmpkt]), .done)
  | .insertAfter l ref mmpkt => (insertBehind ref mmpkt (q l)).map fun ps => (update q l ps, .done)
  | .remove l mmpkt =>
    if q l = [] then some (q, .done)
    else if mmpkt ∈ q l then some (update q l ((q l).erase mmpkt), .taken (some mmpkt) none)
    else none
  | .dequeue l => some (update q l (q l).tail, .taken (q l).head? none)
  | .dequeueTail l => some (update q l (q l).dropLast, .taken (q l).getLast? none)
  | .dequeueAll l => some (update q l [], .taken (q l).head? (q l).tail.head?)
  | .walk l => some (q, .visited (q l))

/-- A packet that is put on a list is on none. -/
def Allowed (q : Seqs L) : ListOp L → Prop
  | .prepend _ mmpkt | .append _ mmpkt | .insertAfter _ _ mmpkt => ∀ l, mmpkt ∉ q l
  | _ => True

/-! ## One list -/

/-- The list holds these packets in this order. -/
structure IsList (ps : List PktAddr) : Prop where
  chain : Chain next list.head ps
  tail : list.tail = ps.getLast?
  len : list.len.toNat = ps.length
  nodup : ps.Nodup

/-- The list holds `qs` now, and the links of other packets are what they were. -/
def Becomes (r : PktLinks × MmpktList) (ps qs : List PktAddr) : Prop :=
  IsList r.1 r.2 qs ∧ ∀ x, x ∉ ps → x ∉ qs → r.1 x = next x

theorem length_lt {ps : List PktAddr} (h : ps.Nodup) : ps.length < 2 ^ 32 := by
  have hnodup : (0 :: ps.map fun p => p.val.toFin).Nodup := by
    rw [List.nodup_cons]
    constructor
    · intro hzero
      obtain ⟨p, -, hp⟩ := List.mem_map.mp hzero
      exact p.2 (BitVec.eq_of_toFin_eq hp)
    · exact h.map fun p p' heq => Subtype.ext (BitVec.eq_of_toFin_eq heq)
  have hcard := hnodup.length_le_card
  rw [List.length_cons, List.length_map, Fintype.card_fin] at hcard
  exact hcard

section OneList

variable {next list mmpkt ref} {pre post ps : List PktAddr} {fuel : Nat}

theorem toNat_add_one {len : U32} {n : Nat} (h : len.toNat = n) (hn : n + 1 < 2 ^ 32) :
    (len + 1).toNat = n + 1 := by
  rw [BitVec.toNat_add, h]
  exact Nat.mod_eq_of_lt hn

theorem toNat_sub_one {len : U32} {n : Nat} (h : len.toNat = n + 1) : (len - 1).toNat = n := by
  have hle : (1 : U32) ≤ len := by
    rw [BitVec.le_def, h]
    exact Nat.succ_le_succ (Nat.zero_le n)
  rw [BitVec.toNat_sub_of_le hle, h]
  rfl

theorem IsList.prepend (h : IsList next list ps) (hp : mmpkt ∉ ps) :
    Becomes next (mmpktListPrepend next list mmpkt) ps (mmpkt :: ps) := by
  have hnodup : (mmpkt :: ps).Nodup := List.nodup_cons.mpr ⟨hp, h.nodup⟩
  refine ⟨⟨h.chain.push hp, ?_, toNat_add_one h.len (length_lt hnodup), hnodup⟩, fun x _ hx => ?_⟩
  · show (if list.tail = none then some mmpkt else list.tail) = _
    rw [h.tail]
    cases ps with
    | nil => rfl
    | cons p ps => rw [if_neg (by simp), List.getLast?_cons_cons]
  · exact update_of_ne (List.ne_of_not_mem_cons hx) ..

theorem IsList.append (h : IsList next list ps) (hp : mmpkt ∉ ps) :
    ∃ r, mmpktListAppend next list mmpkt = some r ∧ Becomes next r ps (ps ++ [mmpkt]) := by
  have hnodup : (ps ++ [mmpkt]).Nodup := by
    rw [List.nodup_append_comm]
    exact List.nodup_cons.mpr ⟨hp, h.nodup⟩
  have hlen : (list.len + 1).toNat = (ps ++ [mmpkt]).length := by
    rw [List.length_append]
    exact toNat_add_one h.len (by simpa using length_lt hnodup)
  unfold mmpktListAppend
  rcases List.eq_nil_or_concat ps with rfl | ⟨pre, tail, rfl⟩
  · rw [if_pos (chain_nil.mp h.chain)]
    refine ⟨_, rfl, ⟨⟨rfl, update_self ..⟩, rfl, hlen, hnodup⟩, fun x _ hx => ?_⟩
    exact update_of_ne (List.ne_of_not_mem_cons hx) ..
  rw [List.concat_eq_append] at *
  have hhead : list.head ≠ none := by
    intro hnone
    have hempty := chain_none.mp (hnone ▸ h.chain)
    simp at hempty
  rw [if_neg hhead, h.tail, List.getLast?_append]
  have hne : mmpkt ≠ tail := fun heq => hp (by simp [heq])
  refine ⟨_, rfl, ⟨?_, by simp, hlen, hnodup⟩, fun x hx hx' => ?_⟩
  · have hnext : next tail = none := (chain_append_cons.mp h.chain).2
    have hchain := h.chain.insertAfter h.nodup hp
    rw [hnext, update_comm hne.symm] at hchain
    rw [List.append_assoc]
    exact hchain
  · simp only [List.mem_append, List.mem_singleton, not_or] at hx hx'
    show update (update next mmpkt none) tail _ x = _
    rw [update_of_ne hx.2, update_of_ne hx'.2]

theorem mmpktListInsertAfterWalk_of_mem {walk : Option PktAddr}
    (h : Chain next walk (pre ++ ref :: post)) (href : ref ∉ pre) (hfuel : pre.length < fuel) :
    mmpktListInsertAfterWalk next list mmpkt ref fuel walk
      = some (update (update next ref (some mmpkt)) mmpkt (next ref),
          { list with
            len := list.len + 1
            tail := if next ref = none then some mmpkt else list.tail }) := by
  induction pre generalizing walk fuel with
  | nil =>
    obtain ⟨fuel, rfl⟩ := Nat.exists_eq_add_of_lt hfuel
    rw [h.1, mmpktListInsertAfterWalk, if_pos rfl]
  | cons p pre ih =>
    obtain ⟨fuel, rfl⟩ := Nat.exists_eq_add_of_lt hfuel
    rw [h.1, mmpktListInsertAfterWalk, if_neg fun heq => href (by simp [heq])]
    exact ih h.2 (List.not_mem_of_not_mem_cons href) (by simp only [List.length_cons]; omega)

theorem mmpktListInsertAfterWalk_of_not_mem {walk : Option PktAddr}
    (h : Chain next walk ps) (href : ref ∉ ps) :
    mmpktListInsertAfterWalk next list mmpkt ref fuel walk = none := by
  induction ps generalizing walk fuel with
  | nil =>
    rw [chain_nil.mp h]
    cases fuel <;> rfl
  | cons p ps ih =>
    rw [h.1]
    cases fuel with
    | zero => rfl
    | succ fuel =>
      rw [mmpktListInsertAfterWalk, if_neg (List.ne_of_not_mem_cons href).symm]
      exact ih h.2 (List.not_mem_of_not_mem_cons href)

theorem IsList.length_pre (h : IsList next list (pre ++ post)) : pre.length < walkFuel := by
  have hlt := length_lt h.nodup
  rw [List.length_append] at hlt
  exact Nat.lt_of_le_of_lt (Nat.le_add_right ..) hlt

theorem IsList.insertAfter (h : IsList next list (pre ++ ref :: post))
    (hp : mmpkt ∉ pre ++ ref :: post) :
    ∃ r, mmpktListInsertAfter next list mmpkt ref = some r
      ∧ Becomes next r (pre ++ ref :: post) (pre ++ ref :: mmpkt :: post) := by
  have hperm : (pre ++ ref :: mmpkt :: post).Perm (mmpkt :: (pre ++ ref :: post)) := by
    rw [List.append_cons, List.append_cons pre ref post]
    exact List.perm_middle
  have hnodup : (pre ++ ref :: mmpkt :: post).Nodup :=
    hperm.nodup_iff.mpr (List.nodup_cons.mpr ⟨hp, h.nodup⟩)
  have href : ref ∉ pre := fun hmem =>
    (List.nodup_append.mp h.nodup).2.2 ref hmem ref (List.mem_cons_self ..) rfl
  refine ⟨_, mmpktListInsertAfterWalk_of_mem h.chain href h.length_pre,
    ⟨h.chain.insertAfter h.nodup hp, ?_, ?_, hnodup⟩, fun x hx hx' => ?_⟩
  · show (if next ref = none then some mmpkt else list.tail) = _
    have hpost : Chain next (next ref) post := (chain_append_cons.mp h.chain).2
    rw [h.tail]
    cases post with
    | nil =>
      rw [if_pos (chain_nil.mp hpost), List.getLast?_append]
      rfl
    | cons p post =>
      rw [if_neg (by rw [hpost.1]; exact Option.some_ne_none p), List.getLast?_append,
        List.getLast?_append]
      rfl
  · show (list.len + 1).toNat = _
    have hlt := length_lt hnodup
    rw [hperm.length_eq] at hlt ⊢
    exact toNat_add_one h.len hlt
  · show update (update next ref _) mmpkt _ x = _
    rw [update_of_ne fun heq => hx' (by simp [heq]), update_of_ne fun heq => hx (by simp [heq])]

theorem mmpktFindPrev_of_mem {walk : PktAddr} (h : Chain next (next walk) (pre ++ mmpkt :: post))
    (hp : mmpkt ∉ pre) (hfuel : pre.length < fuel) :
    mmpktFindPrev next mmpkt fuel walk = some (walk :: pre).getLast? := by
  induction pre generalizing walk fuel with
  | nil =>
    obtain ⟨fuel, rfl⟩ := Nat.exists_eq_add_of_lt hfuel
    rw [mmpktFindPrev, h.1]
    exact if_pos rfl
  | cons p pre ih =>
    obtain ⟨fuel, rfl⟩ := Nat.exists_eq_add_of_lt hfuel
    rw [mmpktFindPrev, h.1]
    dsimp only
    rw [if_neg (List.ne_of_not_mem_cons hp).symm, List.getLast?_cons_cons]
    exact ih h.2 (List.not_mem_of_not_mem_cons hp) (by simp only [List.length_cons]; omega)

theorem mmpktFindPrev_of_not_mem {walk : PktAddr} (h : Chain next (next walk) ps)
    (hp : mmpkt ∉ ps) : mmpktFindPrev next mmpkt fuel walk ≠ some (some ref) := by
  induction ps generalizing walk fuel with
  | nil =>
    cases fuel with
    | zero => exact nofun
    | succ fuel =>
      rw [mmpktFindPrev, chain_nil.mp h]
      exact nofun
  | cons p ps ih =>
    cases fuel with
    | zero => exact nofun
    | succ fuel =>
      rw [mmpktFindPrev, h.1]
      dsimp only
      rw [if_neg (List.ne_of_not_mem_cons hp).symm]
      exact ih h.2 (List.not_mem_of_not_mem_cons hp)

theorem tail_without (hnodup : (pre ++ mmpkt :: post).Nodup) :
    (if (pre ++ mmpkt :: post).getLast? = some mmpkt then pre.getLast?
      else (pre ++ mmpkt :: post).getLast?) = (pre ++ post).getLast? := by
  rcases List.eq_nil_or_concat post with rfl | ⟨post, last, rfl⟩
  · simp
  rw [List.concat_eq_append] at *
  have hne : last ≠ mmpkt := by
    rintro rfl
    simp [List.nodup_append] at hnodup
  rw [← List.append_assoc pre, ← List.cons_append, ← List.append_assoc pre,
    List.getLast?_concat, List.getLast?_concat, if_neg fun h => hne (Option.some.inj h)]

theorem IsList.unlink {head prev : Option PktAddr} {next' : PktLinks}
    (h : IsList next list (pre ++ mmpkt :: post)) (hchain : Chain next' head (pre ++ post))
    (hprev : prev = pre.getLast?) (hkeep : ∀ x, x ∉ pre → next' x = next x) :
    Becomes next (update next' mmpkt none,
      { head := head
        tail := if list.tail = some mmpkt then prev else list.tail
        len := list.len - 1 }) (pre ++ mmpkt :: post) (pre ++ post) := by
  have hnodup := List.nodup_cons.mp (List.perm_middle.nodup_iff.mp h.nodup)
  refine ⟨⟨Seg.update hnodup.1 hchain, ?_, ?_, hnodup.2⟩, fun x hx _ => ?_⟩
  · show (if list.tail = some mmpkt then prev else list.tail) = _
    rw [h.tail, hprev]
    exact tail_without h.nodup
  · exact toNat_sub_one (by rw [h.len, List.perm_middle.length_eq, List.length_cons])
  · simp only [List.mem_append, List.mem_cons, not_or] at hx
    show update next' mmpkt none x = _
    rw [update_of_ne hx.2.1, hkeep x hx.1]

theorem IsList.remove (h : IsList next list (pre ++ mmpkt :: post)) :
    ∃ r, mmpktListRemove next list mmpkt = some r ∧ r.1 mmpkt = none
      ∧ Becomes next r (pre ++ mmpkt :: post) (pre ++ post) := by
  have hnodup := List.nodup_cons.mp (List.perm_middle.nodup_iff.mp h.nodup)
  unfold mmpktListRemove
  cases pre with
  | nil =>
    rw [h.chain.1]
    dsimp only
    rw [if_pos rfl]
    exact ⟨_, rfl, update_self .., h.unlink h.chain.2 rfl fun _ _ => rfl⟩
  | cons head pre =>
    have hhead : list.head = some head := h.chain.1
    have hfind := mmpktFindPrev_of_mem h.chain.2
      (fun hmem => hnodup.1 (List.mem_append_left _ (List.mem_cons_of_mem _ hmem)))
      (Nat.lt_of_succ_lt h.length_pre)
    rw [hhead]
    dsimp only
    rw [if_neg fun heq => hnodup.1 (by simp [heq]), hfind]
    obtain ⟨before, prev, hprev⟩ : ∃ before prev, head :: pre = before ++ [prev] :=
      ⟨_, _, (List.dropLast_append_getLast (List.cons_ne_nil head pre)).symm⟩
    rw [hprev] at h ⊢
    rw [List.getLast?_concat]
    have hchain : Chain (update next prev (next mmpkt)) list.head (before ++ [prev] ++ post) := by
      rw [← List.append_cons] at h ⊢
      exact h.chain.removeAfter h.nodup
    refine ⟨_, rfl, update_self ..,
      h.unlink (hhead ▸ hchain) List.getLast?_concat.symm fun x hx => ?_⟩
    exact update_of_ne (fun heq => hx (by simp [heq])) ..

theorem IsList.remove_absent (h : IsList next list ps) (hne : ps ≠ []) (hp : mmpkt ∉ ps) :
    mmpktListRemove next list mmpkt = none := by
  obtain ⟨head, ps, rfl⟩ := List.exists_cons_of_ne_nil hne
  unfold mmpktListRemove
  rw [h.chain.1]
  dsimp only
  rw [if_neg (List.ne_of_not_mem_cons hp).symm]
  split
  next prev hfind =>
    exact absurd hfind (mmpktFindPrev_of_not_mem h.chain.2 (List.not_mem_of_not_mem_cons hp))
  next => rfl

theorem IsList.dequeue (h : IsList next list ps) :
    Becomes next (mmpktListDequeue next list).1 ps ps.tail
    ∧ (mmpktListDequeue next list).2 = ps.head?
    ∧ ps.head?.bind (mmpktListDequeue next list).1.1 = none := by
  unfold mmpktListDequeue
  cases ps with
  | nil =>
    rw [chain_nil.mp h.chain]
    exact ⟨⟨h, fun _ _ _ => rfl⟩, rfl, rfl⟩
  | cons p ps =>
    rw [h.chain.1]
    have hnil : IsList next list ([] ++ p :: ps) := h
    exact ⟨hnil.unlink h.chain.2 rfl fun _ _ => rfl, rfl, update_self ..⟩

theorem IsList.dequeueTail (h : IsList next list ps) :
    ∃ r, mmpktListDequeueTail next list = some (r, ps.getLast?)
      ∧ Becomes next r ps ps.dropLast ∧ ps.getLast?.bind r.1 = none := by
  unfold mmpktListDequeueTail
  rw [h.tail]
  rcases List.eq_nil_or_concat ps with rfl | ⟨pre, last, rfl⟩
  · exact ⟨_, rfl, ⟨h, fun _ _ _ => rfl⟩, rfl⟩
  rw [List.concat_eq_append] at *
  obtain ⟨r, hr, hlink, hbecomes⟩ := h.remove
  rw [List.getLast?_concat, List.dropLast_concat]
  rw [List.append_nil] at hbecomes
  exact ⟨r, by simp [hr], hbecomes, hlink⟩

theorem IsList.dequeueAll (h : IsList next list ps) :
    Becomes next (mmpktListDequeueAll next list).1 ps []
    ∧ list.head = ps.head? ∧ ps.head?.bind next = ps.tail.head? := by
  refine ⟨⟨⟨rfl, rfl, rfl, List.nodup_nil⟩, fun _ _ _ => rfl⟩, ?_⟩
  cases ps with
  | nil => exact ⟨chain_nil.mp h.chain, rfl⟩
  | cons p ps =>
    refine ⟨h.chain.1, ?_⟩
    cases ps with
    | nil => exact chain_nil.mp h.chain.2
    | cons p' ps => exact h.chain.2.1

theorem mmpktListWalk_eq {walk : Option PktAddr} (h : Chain next walk ps)
    (hfuel : ps.length < fuel) : mmpktListWalk next fuel walk = some ps := by
  induction ps generalizing walk fuel with
  | nil =>
    obtain ⟨fuel, rfl⟩ := Nat.exists_eq_add_of_lt hfuel
    rw [chain_nil.mp h]
    rfl
  | cons p ps ih =>
    obtain ⟨fuel, rfl⟩ := Nat.exists_eq_add_of_lt hfuel
    rw [h.1, mmpktListWalk, ih h.2 (by simp only [List.length_cons]; omega)]
    rfl

theorem insertBehind_of_mem (href : ref ∉ pre) :
    insertBehind ref mmpkt (pre ++ ref :: post) = some (pre ++ ref :: mmpkt :: post) := by
  induction pre with
  | nil => exact if_pos rfl
  | cons p pre ih =>
    rw [List.cons_append, insertBehind, if_neg (List.ne_of_not_mem_cons href).symm,
      ih (List.not_mem_of_not_mem_cons href)]
    rfl

theorem insertBehind_of_not_mem (href : ref ∉ ps) : insertBehind ref mmpkt ps = none := by
  induction ps with
  | nil => rfl
  | cons p ps ih =>
    rw [insertBehind, if_neg (List.ne_of_not_mem_cons href).symm,
      ih (List.not_mem_of_not_mem_cons href)]
    rfl

end OneList

/-! ## All lists -/

/-- The lists hold these sequences, and no packet is on two of them. -/
structure Refines (heap : PktHeap L) (q : Seqs L) : Prop where
  lists : ∀ l, IsList heap.next (heap.list l) (q l)
  apart : ∀ l l', l ≠ l' → ∀ p ∈ q l, p ∉ q l'

/-- The code and the sequences agree on a call: both assert, or both come back. -/
def Agree (c : Option (PktHeap L × ListReturn)) (s : Option (Seqs L × ListReturn)) : Prop :=
  Option.Rel (fun c s => Refines c.1 s.1 ∧ c.2 = s.2) c s

variable {heap : PktHeap L} {q : Seqs L} {l : L} {op : ListOp L}

theorem Refines.put {r : PktLinks × MmpktList} {ps : List PktAddr} (h : Refines heap q)
    (hr : Becomes heap.next r (q l) ps) (hps : ∀ p ∈ ps, p ∈ q l ∨ ∀ l', p ∉ q l') :
    Refines (heap.put l r) (update q l ps) := by
  have hother : ∀ l', l' ≠ l → ∀ p ∈ q l', p ∉ ps := by
    intro l' hl' p hp hmem
    rcases hps p hmem with hold | hnew
    · exact h.apart l' l hl' p hp hold
    · exact hnew l' hp
  constructor
  · intro l'
    by_cases hl' : l' = l
    · subst hl'
      simpa [PktHeap.put] using hr.1
    have hlist := h.lists l'
    simp only [PktHeap.put, update_of_ne hl']
    refine ⟨hlist.chain.congr fun p hp => ?_, hlist.tail, hlist.len, hlist.nodup⟩
    exact hr.2 p (h.apart l' l hl' p hp) (hother l' hl' p hp)
  intro l₁ l₂ hne p hp
  by_cases h₁ : l₁ = l
  · subst h₁
    rw [update_self] at hp
    rw [update_of_ne hne.symm]
    exact fun hp₂ => hother l₂ hne.symm p hp₂ hp
  rw [update_of_ne h₁] at hp
  by_cases h₂ : l₂ = l
  · subst h₂
    rw [update_self]
    exact hother l₁ h₁ p hp
  · rw [update_of_ne h₂]
    exact h.apart l₁ l₂ hne p hp

theorem Refines.take {r : PktLinks × MmpktList} {mmpkt : Option PktAddr} {ps : List PktAddr}
    {link : Option PktAddr} (h : Refines heap q) (hr : Becomes heap.next r (q l) ps)
    (hps : ∀ p ∈ ps, p ∈ q l) (hlink : mmpkt.bind r.1 = link) :
    Agree (some (heap.take l (r, mmpkt))) (some (update q l ps, .taken mmpkt link)) :=
  .some ⟨h.put hr fun p hp => Or.inl (hps p hp), by simp [PktHeap.take, hlink]⟩

theorem listStep_agrees (h : Refines heap q) (hop : Allowed q op) :
    Agree (listStep heap op) (seqStep q op) := by
  cases op with
  | prepend l mmpkt =>
    refine .some ⟨h.put ((h.lists l).prepend (hop l)) fun p hp => ?_, rfl⟩
    rcases List.mem_cons.mp hp with rfl | hp
    · exact Or.inr hop
    · exact Or.inl hp
  | append l mmpkt =>
    obtain ⟨r, hr, hbecomes⟩ := (h.lists l).append (hop l)
    rw [listStep, hr]
    refine .some ⟨h.put hbecomes fun p hp => ?_, rfl⟩
    rcases List.mem_append.mp hp with hp | hp
    · exact Or.inl hp
    · exact Or.inr (List.mem_singleton.mp hp ▸ hop)
  | insertAfter l ref mmpkt =>
    have hlist := h.lists l
    rw [listStep, seqStep]
    by_cases href : ref ∈ q l
    · obtain ⟨pre, post, hsplit, hpre⟩ := List.eq_append_cons_of_mem href
      have habsent := hop l
      rw [hsplit] at hlist habsent ⊢
      obtain ⟨r, hr, hbecomes⟩ := hlist.insertAfter habsent
      rw [hr, insertBehind_of_mem hpre]
      refine .some ⟨h.put (hsplit ▸ hbecomes) fun p hp => ?_, rfl⟩
      by_cases hp' : p = mmpkt
      · exact Or.inr (hp' ▸ hop)
      · rw [hsplit]
        simp only [List.mem_append, List.mem_cons, hp', false_or] at hp ⊢
        exact Or.inl hp
    · rw [insertBehind_of_not_mem href, mmpktListInsertAfter,
        mmpktListInsertAfterWalk_of_not_mem hlist.chain href]
      exact .none
  | remove l mmpkt =>
    have hlist := h.lists l
    rw [listStep, seqStep]
    by_cases hempty : q l = []
    · have hhead : (heap.list l).head = none := chain_nil.mp (hempty ▸ hlist.chain)
      rw [if_pos hempty, mmpktListRemove, hhead]
      exact .some ⟨h, rfl⟩
    have hhead : (heap.list l).head ≠ none := fun hnone =>
      hempty (chain_none.mp (hnone ▸ hlist.chain))
    rw [if_neg hempty]
    by_cases hp : mmpkt ∈ q l
    · obtain ⟨pre, post, hsplit, hpre⟩ := List.eq_append_cons_of_mem hp
      have herase : (q l).erase mmpkt = pre ++ post := by
        rw [hsplit, List.erase_append_right _ hpre, List.erase_cons_head]
      rw [if_pos hp, herase]
      rw [hsplit] at hlist
      obtain ⟨r, hr, hlink, hbecomes⟩ := hlist.remove
      rw [hr, Option.map_some, if_neg hhead]
      refine h.take (hsplit ▸ hbecomes) (fun p hmem => ?_) hlink
      rw [hsplit]
      simp only [List.mem_append, List.mem_cons] at hmem ⊢
      tauto
    · rw [if_neg hp, hlist.remove_absent hempty hp]
      exact .none
  | dequeue l =>
    obtain ⟨hbecomes, htaken, hlink⟩ := (h.lists l).dequeue
    rw [listStep, seqStep, ← htaken]
    rw [← htaken] at hlink
    exact h.take hbecomes (fun _ => List.mem_of_mem_tail) hlink
  | dequeueTail l =>
    obtain ⟨r, hr, hbecomes, hlink⟩ := (h.lists l).dequeueTail
    rw [listStep, hr]
    exact h.take hbecomes (fun _ => List.mem_of_mem_dropLast) hlink
  | dequeueAll l =>
    obtain ⟨hbecomes, hhead, hlink⟩ := (h.lists l).dequeueAll
    rw [listStep, seqStep, mmpktListDequeueAll, hhead]
    exact h.take hbecomes (fun _ hp => absurd hp List.not_mem_nil) hlink
  | walk l =>
    have hwalk := mmpktListWalk_eq (h.lists l).chain (length_lt (h.lists l).nodup)
    rw [listStep, walkFuel, hwalk]
    exact .some ⟨h, rfl⟩

/-! ## Sequences of calls -/

/-- The calls one after the other, with what each gives back. -/
def run {σ : Type} (step : σ → ListOp L → Option (σ × ListReturn)) (s : σ) :
    List (ListOp L) → Option (σ × List ListReturn)
  | [] => some (s, [])
  | op :: ops =>
    (step s op).bind fun (s, ret) => (run step s ops).map fun (s, rets) => (s, ret :: rets)

/-- The packet lists refine sequences: whatever the calls on lists that are empty at first, if a
packet is only put on a list while it is on none, the code gives back what the sequences say,
asserts where they do, and its lists hold the sequences. -/
theorem mmpkt_list_refines_sequence (next : PktLinks) (ops : List (ListOp L))
    (hops : Along (fun q op => (seqStep q op).map Prod.fst) Allowed (fun _ => []) ops) :
    Option.Rel (fun c s => Refines c.1 s.1 ∧ c.2 = s.2)
      (run listStep ⟨next, fun _ => mmpktListInit⟩ ops) (run seqStep (fun _ => []) ops) := by
  have hinit : Refines (⟨next, fun _ => mmpktListInit⟩ : PktHeap L) fun _ => [] :=
    ⟨fun _ => ⟨rfl, rfl, rfl, List.nodup_nil⟩, fun _ _ _ _ hp => absurd hp List.not_mem_nil⟩
  generalize (⟨next, fun _ => mmpktListInit⟩ : PktHeap L) = heap at *
  generalize (fun _ => [] : Seqs L) = q at *
  induction ops generalizing heap q with
  | nil => exact .some ⟨hinit, rfl⟩
  | cons op ops ih =>
    have hstep := listStep_agrees hinit hops.1
    have hrest : ∀ q', (seqStep q op).map Prod.fst = some q' → _ := hops.2
    unfold run
    generalize listStep heap op = c at hstep ⊢
    generalize seqStep q op = s at hstep hrest ⊢
    cases hstep with
    | none => exact .none
    | @some c s hstep =>
      have hlast := ih c.1 s.1 (hrest s.1 rfl) hstep.1
      dsimp only [Option.bind_some]
      generalize run listStep c.1 ops = cs at hlast ⊢
      generalize run seqStep s.1 ops = ss at hlast ⊢
      cases hlast with
      | none => exact .none
      | some hlast => exact .some ⟨hlast.1, congrArg₂ _ hstep.2 hlast.2⟩

/-- Two lists, a packet put between two others, and taken off at either end. -/
def twoLists : List (ListOp Bool) :=
  [.append true ⟨1, by decide⟩, .prepend false ⟨2, by decide⟩,
    .insertAfter true ⟨1, by decide⟩ ⟨3, by decide⟩, .dequeue true, .dequeueTail true,
    .dequeueAll false]

theorem mmpkt_list_refines_sequence_twoLists :
    Option.Rel (fun c s => Refines c.1 s.1 ∧ c.2 = s.2)
      (run listStep ⟨fun _ => none, fun _ => mmpktListInit⟩ twoLists)
      (run seqStep (fun _ => []) twoLists) :=
  mmpkt_list_refines_sequence (fun _ => none) twoLists
    (by simp [twoLists, Along, seqStep, Allowed])

end MmIotEsp32.Common.Links
