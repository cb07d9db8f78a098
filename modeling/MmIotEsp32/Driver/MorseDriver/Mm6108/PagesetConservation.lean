/-
  MmIotEsp32.Driver.MorseDriver.Mm6108.PagesetConservation

  No page of the chip gets lost.
-/
import MmIotEsp32.Driver.MorseDriver.Mm6108.Pageset
import MmIotEsp32.Lib.Transition

namespace MmIotEsp32.Driver

open Lib

/-! ## The accounts of the pages -/

/-- The pages in the two rings. -/
def MorsePageset.held (s : MorsePageset) : List MorsePage :=
  s.reservedPages.contents ++ s.cachedPages.contents

/-- Every page that was popped is once in one of the rings or was put to the populated
pager, no page is in the rings twice, and only beacons and commands used a reserved one. -/
structure MorsePageset.Conserved (s : MorsePageset) : Prop where
  accounted : s.popped.Perm (s.held ++ s.populated)
  once : s.held.Nodup
  reserved : ∀ use ∈ s.taken, use.fromRsvd = true →
    use.channel = morseSkbChanBeacon ∨ use.channel = morseSkbChanCommand

/-- Both rings hold the pages they held in `s`, and those that were popped since. -/
def MorsePageset.KeepsPages (s s' : MorsePageset) : Prop :=
  ∃ newReserved newCached,
    s'.popped = s.popped ++ (newReserved ++ newCached)
    ∧ s'.reservedPages.contents.Perm (s.reservedPages.contents ++ newReserved)
    ∧ s'.cachedPages.contents.Perm (s.cachedPages.contents ++ newCached)

/-- A write that fails before it puts a page leaves both rings with the pages they had, and
those that it popped itself. -/
def PagesetKeepsPages (s : MorsePageset) : PagesetEvent → Prop
  | .returnHandler .. => True
  | .write w => (morsePagesetWrite s w).1 ≠ 0 → (morsePagesetWrite s w).2.puts = s.puts →
      s.KeepsPages (morsePagesetWrite s w).2

/-- The pages popped that are neither known nor popped before. -/
def freshPages (known : List MorsePage) : List MorsePage → List MorsePage
  | [] => []
  | page :: pops =>
    if page ∈ known then freshPages known pops
    else page :: freshPages (page :: known) pops

/-- The rings take all the new pages of one call of the return handler. -/
def MorsePageset.TakesAll (s : MorsePageset) (pops : List MorsePage) : Prop :=
  s.held.length + (freshPages s.held (pops.take 66)).length ≤ 34

/-- The page that a frame of the channel is given. -/
def MorsePageset.nextPage (s : MorsePageset) (channel : U8) (pops : List MorsePage) :
    Option MorsePage :=
  if channel = morseSkbChanBeacon ∧ 1 < s.reservedPages.contents.length then
    s.reservedPages.contents.head?
  else if channel = morseSkbChanCommand then
    (s.reservedPages.contents ++ (freshPages s.held pops ++ s.cachedPages.contents)).head?
  else s.cachedPages.contents.head?

/-- A frame for which the page has room, and a put that succeeds at the second attempt at
the latest. -/
def PagesetWrite.PutsPage (w : PagesetWrite) (page : MorsePage) : Prop :=
  w.dataLength ≤ page.sizeBytes ∧ (w.writePage page = 0 → w.putRet = 0 ∨ w.putAgainRet = 0)

/-- No page gets lost in the call. -/
def PagesetKeepsOk (s : MorsePageset) : PagesetEvent → Prop
  | .returnHandler haveLock lockFree pops =>
    (haveLock = true ∨ lockFree = true) → s.TakesAll pops
  | .write w => w.lockFree = true →
      (w.channel = morseSkbChanCommand → s.reservedPages.contents = [] → s.TakesAll w.pops)
      ∧ ∀ page ∈ s.nextPage w.channel w.pops, w.PutsPage page

/-- The accounts of the pages, but for those in `out`. -/
def MorsePageset.Balanced (s : MorsePageset) (out : List MorsePage) : Prop :=
  ∀ p, s.popped.count p = s.held.count p + s.populated.count p + out.count p

variable {s : MorsePageset}

theorem balanced_nil_iff : s.Balanced [] ↔ s.popped.Perm (s.held ++ s.populated) := by
  rw [List.perm_iff_count]
  constructor
  · intro h p
    rw [h p, List.count_append, List.count_nil]
    rfl
  · intro h p
    rw [h p, List.count_append, List.count_nil]
    rfl

variable {out : List MorsePage}

theorem MorsePageset.Balanced.out_eq_nil (h : s.Balanced out) (h₀ : s.Balanced []) : out = [] := by
  apply List.eq_nil_iff_forall_not_mem.mpr
  intro p hp
  have hout : 0 < out.count p := List.count_pos_iff.mpr hp
  have hall := h p
  have hnone := h₀ p
  rw [List.count_nil] at hnone
  omega

theorem MorsePageset.count_held (s : MorsePageset) (p : MorsePage) :
    s.held.count p = s.reservedPages.contents.count p + s.cachedPages.contents.count p :=
  List.count_append

theorem mem_held {p : MorsePage} : p ∈ s.held ↔ morsePagesetPageIsCached s p = true := by
  unfold MorsePageset.held morsePagesetPageIsCached fifoHasPage
  rw [List.mem_append, ← RingBuffer.has_iff, ← RingBuffer.has_iff]
  split_ifs with hreserved hcached
  · exact iff_of_true (Or.inl hreserved) rfl
  · exact iff_of_true (Or.inr hcached) rfl
  · simp [hreserved, hcached]

/-! ## New pages -/

variable {page : MorsePage} {known : List MorsePage}

theorem freshPages_of_mem (h : page ∈ known)
    (pops : List MorsePage) : freshPages known (page :: pops) = freshPages known pops := by
  show (if page ∈ known then _ else _) = _
  exact if_pos h

theorem freshPages_of_notMem (h : page ∉ known) (pops : List MorsePage) :
    freshPages known (page :: pops) = page :: freshPages (page :: known) pops := by
  show (if page ∈ known then _ else _) = _
  exact if_neg h

theorem freshPages_congr {known known' : List MorsePage} (h : ∀ p, p ∈ known ↔ p ∈ known')
    (pops : List MorsePage) : freshPages known pops = freshPages known' pops := by
  induction pops generalizing known known' with
  | nil => rfl
  | cons page pops ih =>
    by_cases hp : page ∈ known
    · rw [freshPages_of_mem hp, freshPages_of_mem ((h page).mp hp), ih h]
    rw [freshPages_of_notMem hp, freshPages_of_notMem fun hp' => hp ((h page).mpr hp')]
    congr 1
    apply ih
    intro p
    rw [List.mem_cons, List.mem_cons, h p]

theorem freshPages_append (known front rest : List MorsePage) :
    freshPages known (front ++ rest)
      = freshPages known front ++ freshPages (known ++ freshPages known front) rest := by
  induction front generalizing known with
  | nil =>
    show freshPages known rest = freshPages (known ++ []) rest
    rw [List.append_nil]
  | cons page front ih =>
    rw [List.cons_append]
    by_cases hp : page ∈ known
    · rw [freshPages_of_mem hp, freshPages_of_mem hp, ih known]
    rw [freshPages_of_notMem hp, freshPages_of_notMem hp, ih (page :: known),
      List.cons_append]
    congr 2
    apply freshPages_congr
    intro p
    simp only [List.mem_append, List.mem_cons]
    tauto

theorem freshPages_take_length_le (known pops : List MorsePage) (n : Nat) :
    (freshPages known (pops.take n)).length ≤ (freshPages known pops).length := by
  conv_rhs => rw [← List.take_append_drop n pops, freshPages_append, List.length_append]
  omega

theorem freshPages_nodup (h : known.Nodup) (pops : List MorsePage) :
    (freshPages known pops ++ known).Nodup := by
  induction pops generalizing known with
  | nil => exact h
  | cons page pops ih =>
    by_cases hp : page ∈ known
    · rw [freshPages_of_mem hp]
      exact ih h
    · rw [freshPages_of_notMem hp]
      have hmove := ih (List.nodup_cons.mpr ⟨hp, h⟩)
      exact List.perm_middle.nodup_iff.mp hmove

/-! ## The return handler -/

/-- What the first loop of the return handler does: it puts the new pages of the `front`
that it pops into `reserved_pages`. -/
structure FillsReserved (s : MorsePageset) (n : Nat) (pops front : List MorsePage)
    (filled : ReservedFilled) : Prop where
  split : pops = front ++ filled.pops
  popped : filled.popped = n + front.length
  empty : filled.pagerEmpty = true → filled.pops = []
  full : filled.pagerEmpty = false → 2 ≤ filled.pageset.reservedPages.len
  reserved : filled.pageset.reservedPages.contents
    = s.reservedPages.contents ++ freshPages s.held front
  log : filled.pageset.popped = s.popped ++ freshPages s.held front
  same : filled.pageset.cachedPages = s.cachedPages ∧ filled.pageset.taken = s.taken
    ∧ filled.pageset.populated = s.populated ∧ filled.pageset.puts = s.puts

theorem fillReserved_spec (s : MorsePageset) (n : Nat) (pops : List MorsePage) :
    ∃ front, FillsReserved s n pops front (fillReserved s n pops) := by
  have hstop : ∀ (s : MorsePageset) (n : Nat) (pops : List MorsePage) (pagerEmpty : Bool),
      (pagerEmpty = true → pops = []) → (pagerEmpty = false → 2 ≤ s.reservedPages.len) →
      FillsReserved s n pops [] ⟨s, n, pagerEmpty, pops⟩ := by
    intro s n pops pagerEmpty hempty hfull
    exact ⟨rfl, rfl, hempty, hfull, (List.append_nil _).symm, (List.append_nil _).symm,
      rfl, rfl, rfl, rfl⟩
  induction pops generalizing s n with
  | nil =>
    refine ⟨[], ?_⟩
    unfold fillReserved
    by_cases hlen : fifoLen s.reservedPages < cmdRsvedPagesMax
    · rw [if_pos hlen]
      exact hstop s n [] true (fun _ => rfl) (by simp)
    · rw [if_neg hlen]
      exact hstop s n [] false (fun _ => rfl) fun _ => Nat.le_of_not_lt hlen
  | cons page pops ih =>
    unfold fillReserved
    by_cases hlen : fifoLen s.reservedPages < cmdRsvedPagesMax
    · rw [if_pos hlen]
      by_cases hcached : morsePagesetPageIsCached s page = true
      · rw [if_pos hcached]
        obtain ⟨front, h⟩ := ih s (n + 1)
        have hfresh := freshPages_of_mem (mem_held.mpr hcached) front
        refine ⟨page :: front, congrArg (page :: ·) h.split, ?_, h.empty, h.full, ?_, ?_,
          h.same⟩
        · rw [h.popped, List.length_cons]
          omega
        · rw [h.reserved, hfresh]
        · rw [h.log, hfresh]
      rw [if_neg hcached]
      obtain ⟨front, h⟩ := ih (s.putReserved page) (n + 1)
      have hroom : s.reservedPages.len + 1 < cmdRsvedFifoLen + 1 :=
        Nat.succ_lt_succ hlen
      obtain ⟨ring, hput, hring⟩ := RingBuffer.put_of_len_lt hroom (x := page)
      have hputReserved : (s.putReserved page).reservedPages = ring := by
        show (fifoPut s.reservedPages page).getD s.reservedPages = ring
        unfold fifoPut
        rw [hput]
        rfl
      have hknown : ∀ p, p ∈ (s.putReserved page).held ↔ p ∈ page :: s.held := by
        intro p
        unfold MorsePageset.held
        rw [hputReserved, hring]
        show p ∈ s.reservedPages.contents ++ [page] ++ s.cachedPages.contents ↔ _
        simp only [List.mem_append, List.mem_cons, List.not_mem_nil, or_false]
        tauto
      have hfresh : freshPages s.held (page :: front)
          = page :: freshPages (s.putReserved page).held front := by
        rw [freshPages_of_notMem fun hp => hcached (mem_held.mp hp), freshPages_congr hknown]
      refine ⟨page :: front, congrArg (page :: ·) h.split, ?_, h.empty, h.full, ?_, ?_,
        h.same⟩
      · rw [h.popped, List.length_cons]
        omega
      · rw [h.reserved, hputReserved, hring, hfresh, List.append_assoc]
        rfl
      rw [h.log, hfresh]
      show s.popped ++ [page] ++ _ = _
      rw [List.append_assoc]
      rfl
    · rw [if_neg hlen]
      exact ⟨[], hstop s n (page :: pops) false (by simp) fun _ => Nat.le_of_not_lt hlen⟩

/-- What the second loop of the return handler does: it puts the new pages into
`cached_pages`, and those for which there is no room are `lost`. -/
structure FillsCached (s : MorsePageset) (n : Nat) (pops kept lost : List MorsePage)
    (s' : MorsePageset) : Prop where
  cached : s'.cachedPages.contents = s.cachedPages.contents ++ kept
  count : ∀ p, s'.popped.count p = s.popped.count p + kept.count p + lost.count p
  log : lost = [] → s'.popped = s.popped ++ kept
  lost_iff : lost = [] ↔
    s.cachedPages.len + (freshPages s.held (pops.take (66 - n))).length ≤ 32
  once : s.held.Nodup → s'.held.Nodup
  same : s'.reservedPages = s.reservedPages ∧ s'.taken = s.taken
    ∧ s'.populated = s.populated ∧ s'.puts = s.puts

variable {n : Nat}

theorem FillsCached.done {pops : List MorsePage}
    (h : pops.take (66 - n) = []) : FillsCached s n pops [] [] s := by
  have hlen := s.cachedPages.len_lt
  refine ⟨(List.append_nil _).symm, fun p => rfl, fun _ => (List.append_nil _).symm, ?_,
    fun h => h, rfl, rfl, rfl, rfl⟩
  rw [h]
  show [] = [] ↔ s.cachedPages.len + 0 ≤ 32
  exact iff_of_true rfl (Nat.le_of_lt_succ hlen)

variable {s s' : MorsePageset}

theorem FillsCached.room
    {pops kept lost : List MorsePage} (hnew : page ∉ s.held) (hlen : s.cachedPages.len < 32)
    (hn : n < 66) (h : FillsCached (s.putCached page) (n + 1) pops kept lost s') :
    FillsCached s n (page :: pops) (page :: kept) lost s' := by
  obtain ⟨ring, hput, hring⟩ :=
    RingBuffer.put_of_len_lt (b := s.cachedPages) (x := page) (Nat.succ_lt_succ hlen)
  have hputCached : (s.putCached page).cachedPages = ring := by
    show (fifoPut s.cachedPages page).getD s.cachedPages = ring
    unfold fifoPut
    rw [hput]
    rfl
  have hheld : (s.putCached page).held = s.held ++ [page] := by
    unfold MorsePageset.held
    rw [hputCached, hring, List.append_assoc]
    rfl
  have hfresh : freshPages s.held ((page :: pops).take (66 - n))
      = page :: freshPages (s.putCached page).held (pops.take (66 - (n + 1))) := by
    have htake : 66 - n = (66 - (n + 1)) + 1 := by omega
    rw [htake, List.take_succ_cons, freshPages_of_notMem hnew]
    congr 1
    apply freshPages_congr
    intro p
    rw [hheld, List.mem_append, List.mem_cons, List.mem_singleton, or_comm]
  have hlen' : (s.putCached page).cachedPages.len = s.cachedPages.len + 1 := by
    rw [hputCached, ← RingBuffer.length_contents, hring, List.length_append,
      RingBuffer.length_contents]
    rfl
  refine ⟨?_, ?_, ?_, ?_, ?_, h.same⟩
  · rw [h.cached, hputCached, hring, List.append_assoc]
    rfl
  · intro p
    have hcount := h.count p
    have hlog : (s.putCached page).popped.count p = s.popped.count p + [page].count p :=
      List.count_append
    have hkept : (page :: kept).count p = kept.count p + [page].count p := by
      rw [List.count_cons, List.count_singleton]
    omega
  · intro hlost
    rw [h.log hlost]
    show s.popped ++ [page] ++ kept = _
    rw [List.append_assoc]
    rfl
  · rw [h.lost_iff, hfresh, hlen', List.length_cons]
    omega
  intro hnodup
  apply h.once
  rw [hheld]
  exact List.Nodup.append hnodup (List.nodup_singleton page)
    (List.disjoint_singleton.mpr hnew)

theorem FillsCached.full
    {pops kept lost : List MorsePage} (hnew : page ∉ s.held) (hlen : ¬ s.cachedPages.len < 32)
    (hn : n < 66) (h : FillsCached (s.putCached page) (n + 1) pops kept lost s') :
    FillsCached s n (page :: pops) kept (page :: lost) s' := by
  have hmax := s.cachedPages.len_lt
  have hfull : s.cachedPages.put page = none := by
    rw [RingBuffer.put_eq_none_iff]
    show s.cachedPages.len + 1 = 33
    have hmax' : s.cachedPages.len < 33 := hmax
    omega
  have hputCached : (s.putCached page).cachedPages = s.cachedPages := by
    show (fifoPut s.cachedPages page).getD s.cachedPages = _
    unfold fifoPut
    rw [hfull]
    rfl
  have hheld : (s.putCached page).held = s.held := by
    unfold MorsePageset.held
    rw [hputCached]
    rfl
  refine ⟨?_, ?_, fun hlost => by simp at hlost, ?_, ?_, h.same⟩
  · rw [h.cached, hputCached]
  · intro p
    have hcount := h.count p
    have hlog : (s.putCached page).popped.count p = s.popped.count p + [page].count p :=
      List.count_append
    have hlost : (page :: lost).count p = lost.count p + [page].count p := by
      rw [List.count_cons, List.count_singleton]
    omega
  · refine iff_of_false (by simp) ?_
    have htake : 66 - n = (66 - (n + 1)) + 1 := by omega
    rw [htake, List.take_succ_cons, freshPages_of_notMem hnew, List.length_cons]
    omega
  intro hnodup
  apply h.once
  rw [hheld]
  exact hnodup

theorem fillCached_spec (s : MorsePageset) (n : Nat) (pops : List MorsePage) :
    ∃ kept lost, FillsCached s n pops kept lost (fillCached s n pops) := by
  induction pops generalizing s n with
  | nil => exact ⟨[], [], FillsCached.done List.take_nil⟩
  | cons page pops ih =>
    unfold fillCached
    by_cases hn : n < fifoSize s.cachedPages * 2
    · rw [if_pos hn]
      have hn' : n < 66 := hn
      by_cases hcached : morsePagesetPageIsCached s page = true
      · rw [if_pos hcached]
        obtain ⟨kept, lost, h⟩ := ih s (n + 1)
        have htake : 66 - n = (66 - (n + 1)) + 1 := by omega
        have hfresh : freshPages s.held ((page :: pops).take (66 - n))
            = freshPages s.held (pops.take (66 - (n + 1))) := by
          rw [htake, List.take_succ_cons, freshPages_of_mem (mem_held.mpr hcached)]
        refine ⟨kept, lost, h.cached, h.count, h.log, ?_, h.once, h.same⟩
        rw [h.lost_iff, hfresh]
      rw [if_neg hcached]
      have hnew : page ∉ s.held := fun hp => hcached (mem_held.mp hp)
      obtain ⟨kept, lost, h⟩ := ih (s.putCached page) (n + 1)
      by_cases hlen : s.cachedPages.len < 32
      · exact ⟨page :: kept, lost, h.room hnew hlen hn'⟩
      · exact ⟨kept, page :: lost, h.full hnew hlen hn'⟩
    rw [if_neg hn]
    have hbudget : 66 - n = 0 := Nat.sub_eq_zero_of_le (Nat.le_of_not_lt hn)
    refine ⟨[], [], FillsCached.done ?_⟩
    rw [hbudget]
    rfl

/-- New pages have come into the rings; those for which there was no room are `lost`. -/
structure Gains (s : MorsePageset) (newReserved newCached lost : List MorsePage)
    (s' : MorsePageset) : Prop where
  reserved : s'.reservedPages.contents = s.reservedPages.contents ++ newReserved
  cached : s'.cachedPages.contents = s.cachedPages.contents ++ newCached
  count : ∀ p, s'.popped.count p
    = s.popped.count p + (newReserved.count p + newCached.count p) + lost.count p
  log : lost = [] → s'.popped = s.popped ++ (newReserved ++ newCached)
  once : s.held.Nodup → s'.held.Nodup
  same : s'.taken = s.taken ∧ s'.populated = s.populated ∧ s'.puts = s.puts

theorem Gains.refl (s : MorsePageset) : Gains s [] [] [] s :=
  ⟨(List.append_nil _).symm, (List.append_nil _).symm, fun _ => rfl,
    fun _ => (List.append_nil _).symm, fun h => h, rfl, rfl, rfl⟩

theorem Gains.balanced {newReserved newCached lost : List MorsePage}
    (h : Gains s newReserved newCached lost s') (hs : s.Balanced []) : s'.Balanced lost := by
  intro p
  have hcount := h.count p
  have hbefore := hs p
  rw [List.count_nil, s.count_held] at hbefore
  rw [s'.count_held, h.reserved, h.cached, List.count_append, List.count_append, h.same.2.1]
  omega

/-- What the return handler does, and when it loses nothing. -/
structure Refills (s : MorsePageset) (pops newReserved newCached lost : List MorsePage)
    (s' : MorsePageset) : Prop extends Gains s newReserved newCached lost s' where
  lost_iff : lost = [] ↔ s.TakesAll pops
  head : s.reservedPages.contents = [] →
    (newReserved ++ (s.cachedPages.contents ++ newCached)).head?
      = (freshPages s.held pops ++ s.cachedPages.contents).head?

variable {pops front : List MorsePage} {filled : ReservedFilled}

theorem FillsReserved.once (h : FillsReserved s n pops front filled) (hnodup : s.held.Nodup) :
    filled.pageset.held.Nodup := by
  have hfresh := freshPages_nodup hnodup front
  unfold MorsePageset.held at hfresh ⊢
  rw [h.reserved, h.same.1]
  rw [← List.append_assoc] at hfresh
  exact (List.perm_append_comm.append_right _).nodup_iff.mp hfresh

theorem FillsReserved.mem_held (h : FillsReserved s n pops front filled) (p : MorsePage) :
    p ∈ s.held ++ freshPages s.held front ↔ p ∈ filled.pageset.held := by
  unfold MorsePageset.held
  rw [h.reserved, h.same.1]
  simp only [List.mem_append]
  tauto

theorem FillsReserved.takesAll_iff (h : FillsReserved s 0 pops front filled) : s.TakesAll pops ↔
      filled.pageset.cachedPages.len
        + (freshPages filled.pageset.held (filled.pops.take (66 - filled.popped))).length ≤ 32 := by
  have hreserved : s.reservedPages.contents.length + (freshPages s.held front).length ≤ 2 := by
    have hlt : filled.pageset.reservedPages.len < 3 := filled.pageset.reservedPages.len_lt
    rw [← RingBuffer.length_contents, h.reserved, List.length_append] at hlt
    omega
  have hcached : s.cachedPages.contents.length ≤ 32 := by
    have hlt : s.cachedPages.len < 33 := s.cachedPages.len_lt
    rw [RingBuffer.length_contents]
    omega
  have hheld : s.held.length = s.reservedPages.contents.length + s.cachedPages.contents.length :=
    List.length_append
  have hpopped := h.popped
  unfold MorsePageset.TakesAll
  rw [hheld, h.same.1, ← RingBuffer.length_contents]
  by_cases hbudget : 66 ≤ front.length
  · -- The first loop has used up the budget of the second one.
    have hnone : 66 - filled.popped = 0 := by omega
    have hfront : pops.take 66 = front.take 66 := by
      rw [h.split, List.take_append_of_le_length hbudget]
    have hle := freshPages_take_length_le s.held front 66
    rw [hnone, hfront]
    show _ ↔ s.cachedPages.contents.length + 0 ≤ 32
    constructor
    · intro
      exact hcached
    · intro
      omega
  have htake : pops.take 66 = front ++ filled.pops.take (66 - filled.popped) := by
    have hle : front.length ≤ 66 := by omega
    rw [h.split, List.take_append, List.take_of_length_le hle, hpopped, Nat.zero_add]
  rw [htake, freshPages_append, List.length_append, freshPages_congr h.mem_held]
  cases hempty : filled.pagerEmpty with
  | true =>
    rw [h.empty hempty, List.take_nil]
    show _ + ((freshPages s.held front).length + 0) ≤ 34 ↔ _ + 0 ≤ 32
    constructor
    · intro
      exact hcached
    · intro
      omega
  | false =>
    have hfull := h.full hempty
    rw [← RingBuffer.length_contents, h.reserved, List.length_append] at hfull
    constructor
    · intro
      omega
    · intro
      omega

theorem morsePagesetToChipReturnHandlerNoLock_spec (s : MorsePageset) (pops : List MorsePage) :
    ∃ newReserved newCached lost, Refills s pops newReserved newCached lost
      (morsePagesetToChipReturnHandlerNoLock s pops) := by
  obtain ⟨front, h₁⟩ := fillReserved_spec s 0 pops
  have hall := h₁.takesAll_iff
  cases hempty : (fillReserved s 0 pops).pagerEmpty with
  | true =>
    have hrest := h₁.empty hempty
    have hlen := s.cachedPages.len_lt
    have hstop : morsePagesetToChipReturnHandlerNoLock s pops = (fillReserved s 0 pops).pageset :=
      if_pos hempty
    rw [hstop]
    refine ⟨freshPages s.held front, [], [], ⟨h₁.reserved, ?_, ?_, ?_, h₁.once,
      h₁.same.2⟩, ?_, ?_⟩
    · rw [h₁.same.1, List.append_nil]
    · intro p
      rw [h₁.log, List.count_append]
      rfl
    · intro
      rw [h₁.log, List.append_nil]
    · refine iff_of_true rfl (hall.mpr ?_)
      rw [hrest, List.take_nil, h₁.same.1]
      exact Nat.le_of_lt_succ hlen
    intro
    have hpops : pops = front := by
      have hsplit := h₁.split
      rw [hrest, List.append_nil] at hsplit
      exact hsplit
    rw [hpops, List.append_nil]
  | false =>
    obtain ⟨kept, lost, h₂⟩ := fillCached_spec (fillReserved s 0 pops).pageset
      (fillReserved s 0 pops).popped (fillReserved s 0 pops).pops
    have hgo : morsePagesetToChipReturnHandlerNoLock s pops
        = fillCached (fillReserved s 0 pops).pageset (fillReserved s 0 pops).popped
            (fillReserved s 0 pops).pops :=
      if_neg (by rw [hempty]; simp)
    rw [hgo]
    refine ⟨freshPages s.held front, kept, lost, ⟨?_, ?_, ?_, ?_, ?_, ?_⟩, ?_, ?_⟩
    · rw [h₂.same.1, h₁.reserved]
    · rw [h₂.cached, h₁.same.1]
    · intro p
      have hcount := h₂.count p
      rw [h₁.log, List.count_append] at hcount
      omega
    · intro hlost
      rw [h₂.log hlost, h₁.log, List.append_assoc]
    · exact fun hnodup => h₂.once (h₁.once hnodup)
    · exact ⟨h₂.same.2.1.trans h₁.same.2.1, h₂.same.2.2.1.trans h₁.same.2.2.1,
        h₂.same.2.2.2.trans h₁.same.2.2.2⟩
    · exact h₂.lost_iff.trans hall.symm
    intro hnone
    have hfull := h₁.full hempty
    rw [← RingBuffer.length_contents, h₁.reserved, hnone, List.nil_append] at hfull
    obtain ⟨page, rest, hfront⟩ := List.exists_cons_of_length_pos
      (Nat.lt_of_lt_of_le Nat.zero_lt_two hfull)
    have hfresh : freshPages s.held pops = page :: (rest
        ++ freshPages (s.held ++ freshPages s.held front) (fillReserved s 0 pops).pops) := by
      conv_lhs => rw [h₁.split, freshPages_append, hfront, List.cons_append]
      rw [hfront]
    rw [hfront, hfresh]
    rfl

/-! ## The write -/

theorem fifoIsEmpty_iff {slots : Nat} (hdr : PageFifo slots) :
    fifoIsEmpty hdr = true ↔ hdr.contents = [] := by
  unfold fifoIsEmpty
  rw [decide_eq_true_iff, hdr.contents_eq_nil_iff]

/-- What the choice of the ring does: a command that finds no reserved page pops new ones,
and only beacons and commands get a reserved page. -/
structure Chooses (s : MorsePageset) (channel : U8)
    (pops newReserved newCached lost : List MorsePage) (fromRsvd : Bool) (s' : MorsePageset) : Prop
    extends Gains s newReserved newCached lost s' where
  lost_iff : lost = [] ↔
    (channel = morseSkbChanCommand → s.reservedPages.contents = [] → s.TakesAll pops)
  reservedOnly : fromRsvd = true → channel = morseSkbChanBeacon ∨ channel = morseSkbChanCommand
  next : (if fromRsvd then s'.reservedPages.contents else s'.cachedPages.contents).head?
    = s.nextPage channel pops

/-- A frame for which nothing is popped. -/
theorem Chooses.of_eq {channel : U8} {pops : List MorsePage} {fromRsvd : Bool}
    (heq : morsePagesetRsvedPageIsAvail s channel pops = (fromRsvd, s))
    (hnone : channel = morseSkbChanCommand → s.reservedPages.contents ≠ [])
    (hreserved : fromRsvd = true → channel = morseSkbChanBeacon ∨ channel = morseSkbChanCommand)
    (hnext : (if fromRsvd then s.reservedPages.contents else s.cachedPages.contents).head?
      = s.nextPage channel pops) :
    ∃ newReserved newCached lost, Chooses s channel pops newReserved newCached lost
      (morsePagesetRsvedPageIsAvail s channel pops).1
      (morsePagesetRsvedPageIsAvail s channel pops).2 := by
  rw [heq]
  refine ⟨[], [], [], Gains.refl s, ?_, hreserved, hnext⟩
  exact iff_of_true rfl fun hcommand hempty => absurd hempty (hnone hcommand)

theorem chooses_beacon (s : MorsePageset) (pops : List MorsePage) :
    ∃ newReserved newCached lost, Chooses s morseSkbChanBeacon pops newReserved newCached lost
      (morsePagesetRsvedPageIsAvail s morseSkbChanBeacon pops).1
      (morsePagesetRsvedPageIsAvail s morseSkbChanBeacon pops).2 := by
  have hlength := s.reservedPages.length_contents
  have hcommand : morseSkbChanBeacon ≠ morseSkbChanCommand := by decide
  by_cases hlen : fifoLen s.reservedPages ≤ 1
  · have heq : morsePagesetRsvedPageIsAvail s morseSkbChanBeacon pops = (false, s) := if_pos hlen
    refine Chooses.of_eq heq (fun h => absurd h hcommand) (by simp) ?_
    have hfew : ¬ (morseSkbChanBeacon = morseSkbChanBeacon
        ∧ 1 < s.reservedPages.contents.length) := by
      rw [hlength]
      exact fun h => absurd h.2 (Nat.not_lt_of_le hlen)
    unfold MorsePageset.nextPage
    rw [if_neg hfew, if_neg hcommand]
    rfl
  have heq : morsePagesetRsvedPageIsAvail s morseSkbChanBeacon pops = (true, s) := if_neg hlen
  refine Chooses.of_eq heq (fun h => absurd h hcommand) (fun _ => Or.inl rfl) ?_
  have hmany : morseSkbChanBeacon = morseSkbChanBeacon
      ∧ 1 < s.reservedPages.contents.length := by
    rw [hlength]
    exact ⟨rfl, Nat.lt_of_not_le hlen⟩
  unfold MorsePageset.nextPage
  rw [if_pos hmany]
  rfl

theorem chooses_command (s : MorsePageset) (pops : List MorsePage) :
    ∃ newReserved newCached lost, Chooses s morseSkbChanCommand pops newReserved newCached lost
      (morsePagesetRsvedPageIsAvail s morseSkbChanCommand pops).1
      (morsePagesetRsvedPageIsAvail s morseSkbChanCommand pops).2 := by
  have hbeacon : ¬ (morseSkbChanCommand = morseSkbChanBeacon
      ∧ 1 < s.reservedPages.contents.length) := fun h => absurd h.1 (by decide)
  have hnext : s.nextPage morseSkbChanCommand pops
      = (s.reservedPages.contents
          ++ (freshPages s.held pops ++ s.cachedPages.contents)).head? := by
    unfold MorsePageset.nextPage
    rw [if_neg hbeacon, if_pos rfl]
  by_cases hempty : s.reservedPages.contents = []
  · obtain ⟨newReserved, newCached, lost, h⟩ := morsePagesetToChipReturnHandlerNoLock_spec s pops
    have heq : morsePagesetRsvedPageIsAvail s morseSkbChanCommand pops
        = (!fifoIsEmpty (morsePagesetToChipReturnHandlerNoLock s pops).reservedPages,
          morsePagesetToChipReturnHandlerNoLock s pops) := by
      unfold morsePagesetRsvedPageIsAvail
      rw [if_neg (by decide), if_pos rfl, if_pos ((fifoIsEmpty_iff _).mpr hempty)]
      rfl
    rw [heq]
    refine ⟨newReserved, newCached, lost, h.toGains, ?_, fun _ => Or.inr rfl, ?_⟩
    · rw [h.lost_iff]
      exact ⟨fun hall _ _ => hall, fun hall => hall rfl hempty⟩
    rw [hnext, hempty, List.nil_append, ← h.head hempty]
    have hreserved := h.reserved
    rw [hempty, List.nil_append] at hreserved
    cases hnew : newReserved with
    | nil =>
      rw [hnew] at hreserved
      dsimp only
      rw [(fifoIsEmpty_iff _).mpr hreserved, h.cached]
      rfl
    | cons page rest =>
      rw [hnew] at hreserved
      have hsome : fifoIsEmpty
          (morsePagesetToChipReturnHandlerNoLock s pops).reservedPages = false := by
        rw [Bool.eq_false_iff, ne_eq, fifoIsEmpty_iff, hreserved]
        simp
      dsimp only
      rw [hsome]
      show (morsePagesetToChipReturnHandlerNoLock s pops).reservedPages.contents.head? = _
      rw [hreserved]
      rfl
  have hsome : fifoIsEmpty s.reservedPages = false := by
    rw [Bool.eq_false_iff, ne_eq, fifoIsEmpty_iff]
    exact hempty
  have heq : morsePagesetRsvedPageIsAvail s morseSkbChanCommand pops = (true, s) := by
    unfold morsePagesetRsvedPageIsAvail
    rw [if_neg (by decide), if_pos rfl, hsome]
    show (!fifoIsEmpty s.reservedPages, s) = _
    rw [hsome]
    rfl
  refine Chooses.of_eq heq (fun _ => hempty) (fun _ => Or.inr rfl) ?_
  rw [hnext, List.head?_append_of_ne_nil _ hempty]
  rfl

theorem morsePagesetRsvedPageIsAvail_spec (s : MorsePageset) (channel : U8)
    (pops : List MorsePage) :
    ∃ newReserved newCached lost, Chooses s channel pops newReserved newCached lost
      (morsePagesetRsvedPageIsAvail s channel pops).1
      (morsePagesetRsvedPageIsAvail s channel pops).2 := by
  by_cases hbeacon : channel = morseSkbChanBeacon
  · rw [hbeacon]
    exact chooses_beacon s pops
  by_cases hcommand : channel = morseSkbChanCommand
  · rw [hcommand]
    exact chooses_command s pops
  have heq : morsePagesetRsvedPageIsAvail s channel pops = (false, s) := by
    unfold morsePagesetRsvedPageIsAvail
    rw [if_neg hbeacon, if_neg hcommand]
  refine Chooses.of_eq heq (fun h => absurd h hcommand) (by simp) ?_
  have hother : ¬ (channel = morseSkbChanBeacon ∧ 1 < s.reservedPages.contents.length) :=
    fun h => hbeacon h.1
  unfold MorsePageset.nextPage
  rw [if_neg hother, if_neg hcommand]
  rfl

/-- A page has been taken from the ring that `fromRsvd` names. -/
structure Takes (s : MorsePageset) (channel : U8) (fromRsvd : Bool) (page : MorsePage)
    (s' : MorsePageset) : Prop where
  reserved : s.reservedPages.contents
    = (if fromRsvd then [page] else []) ++ s'.reservedPages.contents
  cached : s.cachedPages.contents = (if fromRsvd then [] else [page]) ++ s'.cachedPages.contents
  taken : s'.taken = s.taken ++ [⟨channel, fromRsvd, page⟩]
  same : s'.popped = s.popped ∧ s'.populated = s.populated ∧ s'.puts = s.puts

theorem MorsePageset.getPage_eq_none {s : MorsePageset} {channel : U8} {fromRsvd : Bool}
    (h : (if fromRsvd then s.reservedPages.contents else s.cachedPages.contents).head? = none) :
    s.getPage channel fromRsvd = none := by
  unfold MorsePageset.getPage fifoGet
  cases fromRsvd with
  | true =>
    have hget := RingBuffer.get_eq_none_iff.mpr (List.head?_eq_none_iff.mp h)
    rw [if_pos rfl, hget]
    rfl
  | false =>
    have hget := RingBuffer.get_eq_none_iff.mpr (List.head?_eq_none_iff.mp h)
    rw [if_neg (by simp), hget]
    rfl

theorem MorsePageset.getPage_eq_some {s : MorsePageset} {channel : U8} {fromRsvd : Bool}
    {page : MorsePage}
    (h : (if fromRsvd then s.reservedPages.contents else s.cachedPages.contents).head?
      = some page) :
    ∃ s', s.getPage channel fromRsvd = some (page, s') ∧ Takes s channel fromRsvd page s' := by
  unfold MorsePageset.getPage fifoGet
  cases fromRsvd with
  | true =>
    obtain ⟨rest, hrest⟩ := List.head?_eq_some_iff.mp h
    obtain ⟨ring, hget, hring⟩ := RingBuffer.get_of_contents hrest
    rw [if_pos rfl, hget]
    refine ⟨_, rfl, ?_, rfl, rfl, rfl, rfl, rfl⟩
    show s.reservedPages.contents = [page] ++ ring.contents
    rw [hring]
    exact hrest
  | false =>
    obtain ⟨rest, hrest⟩ := List.head?_eq_some_iff.mp h
    obtain ⟨ring, hget, hring⟩ := RingBuffer.get_of_contents hrest
    rw [if_neg (by simp), hget]
    refine ⟨_, rfl, rfl, ?_, rfl, rfl, rfl, rfl⟩
    show s.cachedPages.contents = [page] ++ ring.contents
    rw [hring]
    exact hrest

section Takes

variable {s s' : MorsePageset} {channel : U8} {fromRsvd : Bool} {page : MorsePage}

theorem Takes.held_perm (h : Takes s channel fromRsvd page s') : s.held.Perm (page :: s'.held) := by
  unfold MorsePageset.held
  rw [h.reserved, h.cached]
  cases fromRsvd with
  | true => exact List.Perm.refl _
  | false => exact List.perm_middle

theorem Takes.balanced (h : Takes s channel fromRsvd page s') {out : List MorsePage}
    (hs : s.Balanced out) : s'.Balanced (page :: out) := by
  intro p
  have hbefore := hs p
  have hheld := h.held_perm.count_eq p
  rw [List.count_cons] at hheld
  rw [h.same.1, h.same.2.1, List.count_cons]
  omega

theorem Takes.putBack (h : Takes s channel fromRsvd page s') :
    (s'.putBack fromRsvd page).reservedPages.contents.Perm s.reservedPages.contents
      ∧ (s'.putBack fromRsvd page).cachedPages.contents.Perm s.cachedPages.contents := by
  have hreserved := h.reserved
  have hcached := h.cached
  cases fromRsvd with
  | true =>
    have hlen := s.reservedPages.len_lt
    rw [← RingBuffer.length_contents, hreserved, List.length_append,
      RingBuffer.length_contents] at hlen
    have hroom : s'.reservedPages.len + 1 < cmdRsvedFifoLen + 1 := by
      rw [Nat.add_comm]
      exact hlen
    obtain ⟨ring, hput, hring⟩ := RingBuffer.put_of_len_lt hroom (x := page)
    have hback : (s'.putBack true page).reservedPages = ring := by
      show (fifoPut s'.reservedPages page).getD _ = ring
      unfold fifoPut
      rw [hput]
      rfl
    rw [hback, hring, hreserved]
    exact ⟨List.perm_append_comm, hcached ▸ List.Perm.refl _⟩
  | false =>
    have hlen := s.cachedPages.len_lt
    rw [← RingBuffer.length_contents, hcached, List.length_append,
      RingBuffer.length_contents] at hlen
    have hroom : s'.cachedPages.len + 1 < cachedPagesFifoLen + 1 := by
      rw [Nat.add_comm]
      exact hlen
    obtain ⟨ring, hput, hring⟩ := RingBuffer.put_of_len_lt hroom (x := page)
    have hback : (s'.putBack false page).cachedPages = ring := by
      show (fifoPut s'.cachedPages page).getD _ = ring
      unfold fifoPut
      rw [hput]
      rfl
    rw [hback, hring, hcached]
    exact ⟨hreserved ▸ List.Perm.refl _, List.perm_append_comm⟩

end Takes

theorem balanced_put (h : s.Balanced (page :: out)) : (s.put page 0).Balanced out := by
  intro p
  have hbefore := h p
  have hpopulated : (s.put page 0).populated.count p = s.populated.count p + [page].count p :=
    List.count_append
  rw [List.count_cons] at hbefore
  rw [hpopulated, List.count_singleton]
  show s.popped.count p = s.held.count p + _ + _
  omega

theorem put_of_ne_zero {ret : Int} (h : ret ≠ 0) :
    (s.put page ret).populated = s.populated := if_neg h

theorem putBack_same (s : MorsePageset) (fromRsvd : Bool) (page : MorsePage) :
    (s.putBack fromRsvd page).popped = s.popped
      ∧ (s.putBack fromRsvd page).populated = s.populated
      ∧ (s.putBack fromRsvd page).taken = s.taken ∧ (s.putBack fromRsvd page).puts = s.puts := by
  cases fromRsvd with
  | true | false => exact ⟨rfl, rfl, rfl, rfl⟩

/-- What becomes of the page: without the pages in `out` the accounts are balanced, and a
failure before the put leaves the rings as they were. -/
structure WritesPage (s : MorsePageset) (w : PagesetWrite) (page : MorsePage)
    (lost out : List MorsePage) (s' : MorsePageset) (ret : Int) (t : MorsePageset) : Prop where
  balanced : t.Balanced out
  out_iff : out = [] ↔ lost = [] ∧ w.PutsPage page
  once : t.held.Nodup
  taken : t.taken = s'.taken
  keeps : out = [] → ret ≠ 0 → t.puts = s.puts →
    t.popped = s.popped ∧ t.reservedPages.contents.Perm s.reservedPages.contents
      ∧ t.cachedPages.contents.Perm s.cachedPages.contents

theorem morsePagesetWritePage_spec {w : PagesetWrite} {fromRsvd : Bool}
    {lost : List MorsePage} (h : Takes s w.channel fromRsvd page s')
    (hs : s.Balanced lost) (hnodup : s.held.Nodup) :
    ∃ out, WritesPage s w page lost out s' (morsePagesetWritePage s' w fromRsvd page).1
      (morsePagesetWritePage s' w fromRsvd page).2 := by
  have hout := h.balanced hs
  have honce : s'.held.Nodup := by
    have hboth := h.held_perm.nodup_iff.mp hnodup
    exact (List.nodup_cons.mp hboth).2
  have hputs := h.same.2.2
  unfold morsePagesetWritePage
  by_cases hlong : page.sizeBytes < w.dataLength
  · rw [if_pos hlong]
    refine ⟨page :: lost, hout, ?_, honce, rfl, fun hnil => by simp at hnil⟩
    exact iff_of_false (by simp) fun hok => absurd hok.2.1 (BitVec.not_le.mpr hlong)
  have hfits : w.dataLength ≤ page.sizeBytes := BitVec.not_lt.mp hlong
  rw [if_neg hlong]
  by_cases hwrite : w.writePage page = 0
  · rw [if_neg (not_not.mpr hwrite)]
    by_cases hput : w.putRet = 0
    · rw [if_neg (not_not.mpr hput), hput]
      refine ⟨lost, balanced_put hout, ?_, honce, rfl, fun _ hret => absurd rfl hret⟩
      simp [PagesetWrite.PutsPage, hfits, hput]
    rw [if_pos hput]
    have hfirst : (s'.put page w.putRet).Balanced (page :: lost) := by
      intro p
      rw [put_of_ne_zero hput]
      exact hout p
    have hmore : (s'.put page w.putRet).puts + 1 ≠ s.puts := by
      show s'.puts + 1 + 1 ≠ s.puts
      omega
    by_cases hagain : w.putAgainRet = 0
    · rw [hagain]
      refine ⟨lost, balanced_put hfirst, ?_, honce, rfl, fun _ _ hsame => absurd hsame hmore⟩
      simp [PagesetWrite.PutsPage, hfits, hagain]
    refine ⟨page :: lost, ?_, ?_, honce, rfl, fun _ _ hsame => absurd hsame hmore⟩
    · intro p
      rw [put_of_ne_zero hagain]
      exact hfirst p
    · simp [PagesetWrite.PutsPage, hwrite, hput, hagain]
  rw [if_pos hwrite]
  obtain ⟨hreserved, hcached⟩ := h.putBack
  obtain ⟨hpopped, hpopulated, htaken, _⟩ := putBack_same s' fromRsvd page
  have hheld : (s'.putBack fromRsvd page).held.Perm s.held := hreserved.append hcached
  refine ⟨lost, ?_, ?_, hheld.nodup_iff.mpr hnodup, htaken, fun _ _ _ => ?_⟩
  · intro p
    rw [hpopped, hpopulated, hheld.count_eq p, h.same.1, h.same.2.1]
    exact hs p
  · simp [PagesetWrite.PutsPage, hfits, hwrite]
  · exact ⟨hpopped.trans h.same.1, hreserved, hcached⟩

/-! ## Runs -/

theorem conserved_iff (hbalanced : s.Balanced out)
    (honce : s.held.Nodup) (htaken : ∀ use ∈ s.taken, use.fromRsvd = true →
      use.channel = morseSkbChanBeacon ∨ use.channel = morseSkbChanCommand) :
    s.Conserved ↔ out = [] := by
  constructor
  · intro hs
    exact hbalanced.out_eq_nil (balanced_nil_iff.mpr hs.accounted)
  · intro hnil
    rw [hnil] at hbalanced
    exact ⟨balanced_nil_iff.mp hbalanced, honce, htaken⟩

theorem morsePagesetWrite_free (s : MorsePageset) {w : PagesetWrite} (hlock : w.lockFree = true) :
    morsePagesetWrite s w
      = match (morsePagesetRsvedPageIsAvail s w.channel w.pops).2.getPage w.channel
          (morsePagesetRsvedPageIsAvail s w.channel w.pops).1 with
        | none => (-enospc, (morsePagesetRsvedPageIsAvail s w.channel w.pops).2)
        | some (page, s') => morsePagesetWritePage s' w
            (morsePagesetRsvedPageIsAvail s w.channel w.pops).1 page := by
  unfold morsePagesetWrite
  rw [hlock]
  rfl

theorem morsePagesetWrite_conserved_iff (hs : s.Conserved) (w : PagesetWrite) :
    (PagesetKeepsPages s (.write w) ∧ (morsePagesetWrite s w).2.Conserved)
      ↔ PagesetKeepsOk s (.write w) := by
  have hbalanced := balanced_nil_iff.mpr hs.accounted
  show (((morsePagesetWrite s w).1 ≠ 0 → (morsePagesetWrite s w).2.puts = s.puts →
      s.KeepsPages (morsePagesetWrite s w).2) ∧ _)
    ↔ (w.lockFree = true →
      (w.channel = morseSkbChanCommand → s.reservedPages.contents = [] → s.TakesAll w.pops)
      ∧ ∀ page ∈ s.nextPage w.channel w.pops, w.PutsPage page)
  cases hlock : w.lockFree with
  | false =>
    have heq : morsePagesetWrite s w = (-1, s) := by
      unfold morsePagesetWrite
      rw [hlock]
      rfl
    rw [heq]
    refine iff_of_true ⟨fun _ _ => ⟨[], [], ?_, ?_, ?_⟩, hs⟩ (fun h => by cases h)
    · exact (List.append_nil _).symm
    · rw [List.append_nil]
    · rw [List.append_nil]
  | true =>
    obtain ⟨newReserved, newCached, lost, hc⟩ :=
      morsePagesetRsvedPageIsAvail_spec s w.channel w.pops
    have hwrite := morsePagesetWrite_free s hlock
    revert hwrite hc
    generalize morsePagesetRsvedPageIsAvail s w.channel w.pops = avail
    obtain ⟨fromRsvd, s₁⟩ := avail
    intro hc hwrite
    have hb₁ : s₁.Balanced lost := hc.toGains.balanced hbalanced
    have honce₁ : s₁.held.Nodup := hc.once hs.once
    cases hnext : s.nextPage w.channel w.pops with
    | none =>
      have hget := @MorsePageset.getPage_eq_none _ w.channel _
        (hc.next.trans hnext)
      dsimp only at hwrite
      rw [hget] at hwrite
      rw [hwrite]
      have hiff := conserved_iff hb₁ honce₁ (hc.same.1 ▸ hs.reserved)
      constructor
      · intro ⟨_, hconserved⟩ _
        exact ⟨hc.lost_iff.mp (hiff.mp hconserved), fun page hpage => by cases hpage⟩
      intro hok
      have hlost := hc.lost_iff.mpr (hok rfl).1
      refine ⟨fun _ _ => ⟨newReserved, newCached, hc.log hlost, ?_, ?_⟩, hiff.mpr hlost⟩
      · rw [hc.reserved]
      · rw [hc.cached]
    | some page =>
      obtain ⟨s₂, hget, htakes⟩ := @MorsePageset.getPage_eq_some _ w.channel _ _
        (hc.next.trans hnext)
      dsimp only at hwrite
      rw [hget] at hwrite
      rw [hwrite]
      obtain ⟨out, hspec⟩ := morsePagesetWritePage_spec htakes hb₁ honce₁
      have htaken : ∀ use ∈ (morsePagesetWritePage s₂ w fromRsvd page).2.taken,
          use.fromRsvd = true →
          use.channel = morseSkbChanBeacon ∨ use.channel = morseSkbChanCommand := by
        rw [hspec.taken, htakes.taken, hc.same.1]
        intro use huse hrsvd
        rcases List.mem_append.mp huse with hold | hnew
        · exact hs.reserved use hold hrsvd
        · rw [List.mem_singleton] at hnew
          rw [hnew] at hrsvd ⊢
          exact hc.reservedOnly hrsvd
      have hiff := conserved_iff hspec.balanced hspec.once htaken
      constructor
      · intro ⟨_, hconserved⟩ _
        obtain ⟨hlost, hputs⟩ := hspec.out_iff.mp (hiff.mp hconserved)
        refine ⟨hc.lost_iff.mp hlost, fun page' hpage' => ?_⟩
        cases hpage'
        exact hputs
      intro hok
      obtain ⟨hall, hpage⟩ := hok rfl
      have hlost := hc.lost_iff.mpr hall
      have hout := hspec.out_iff.mpr ⟨hlost, hpage page rfl⟩
      refine ⟨fun hret hputs => ?_, hiff.mpr hout⟩
      obtain ⟨hpopped, hreserved, hcached⟩ :=
        hspec.keeps hout hret (hputs.trans hc.same.2.2.symm)
      refine ⟨newReserved, newCached, hpopped.trans (hc.log hlost), ?_, ?_⟩
      · rw [← hc.reserved]
        exact hreserved
      · rw [← hc.cached]
        exact hcached

theorem morsePagesetToChipReturnHandler_conserved_iff (hs : s.Conserved)
    (haveLock lockFree : Bool) (pops : List MorsePage) :
    (morsePagesetToChipReturnHandler s haveLock lockFree pops).Conserved
      ↔ PagesetKeepsOk s (.returnHandler haveLock lockFree pops) := by
  show _ ↔ (haveLock = true ∨ lockFree = true → s.TakesAll pops)
  unfold morsePagesetToChipReturnHandler
  by_cases hlock : haveLock = true ∨ lockFree = true
  · have hgo : (!haveLock && !lockFree) = false := by
      rcases hlock with h | h
      · rw [h]
        rfl
      · rw [h, Bool.not_true, Bool.and_false]
    obtain ⟨newReserved, newCached, lost, h⟩ := morsePagesetToChipReturnHandlerNoLock_spec s pops
    have hbalanced := h.toGains.balanced (balanced_nil_iff.mpr hs.accounted)
    rw [hgo, if_neg (by simp)]
    rw [conserved_iff hbalanced (h.once hs.once) (h.same.1 ▸ hs.reserved), h.lost_iff]
    exact ⟨fun hall _ => hall, fun hall => hall hlock⟩
  have hstop : (!haveLock && !lockFree) = true := by
    rw [not_or, Bool.not_eq_true, Bool.not_eq_true] at hlock
    rw [hlock.1, hlock.2]
    rfl
  rw [if_pos hstop]
  exact iff_of_true hs fun h => absurd h hlock

theorem pagesetStep_conserved_iff (hs : s.Conserved) (e : PagesetEvent) :
    (PagesetKeepsPages s e ∧ ∀ s', pagesetStep s e = some s' → s'.Conserved)
      ↔ PagesetKeepsOk s e := by
  cases e with
  | returnHandler haveLock lockFree pops =>
    have hiff := morsePagesetToChipReturnHandler_conserved_iff hs haveLock lockFree pops
    constructor
    · intro ⟨_, h⟩
      exact hiff.mp (h _ rfl)
    intro hok
    refine ⟨trivial, fun s' h => ?_⟩
    cases h
    exact hiff.mpr hok
  | write w =>
    have hiff := morsePagesetWrite_conserved_iff hs w
    constructor
    · intro ⟨hkeeps, h⟩
      exact hiff.mp ⟨hkeeps, h _ rfl⟩
    intro hok
    obtain ⟨hkeeps, hconserved⟩ := hiff.mpr hok
    refine ⟨hkeeps, fun s' h => ?_⟩
    cases h
    exact hconserved

theorem morsePagesetInit_conserved : morsePagesetInit.Conserved :=
  ⟨List.Perm.refl _, List.nodup_nil, fun _ h => absurd h List.not_mem_nil⟩

/-- Of every run: the pages are conserved in every state, and every write that fails before
its put keeps the pages of the rings, exactly when no call loses a page. -/
theorem pages_conserved_iff (es : List PagesetEvent) :
    (Throughout pagesetStep MorsePageset.Conserved morsePagesetInit es
        ∧ Along pagesetStep PagesetKeepsPages morsePagesetInit es)
      ↔ Along pagesetStep PagesetKeepsOk morsePagesetInit es := by
  have hany : Along pagesetStep (fun _ _ => True) morsePagesetInit es :=
    along_of_forall_mem fun _ _ _ => trivial
  apply throughout_and_along_iff (J := fun _ => True) (D := fun _ _ => True)
  · intros
    trivial
  · intro s e _ hs _
    exact pagesetStep_conserved_iff hs e
  · exact morsePagesetInit_conserved
  · trivial
  · exact hany

instance (s : MorsePageset) : Decidable s.Conserved :=
  decidable_of_iff (s.popped.Perm (s.held ++ s.populated) ∧ s.held.Nodup
      ∧ ∀ use ∈ s.taken, use.fromRsvd = true →
        use.channel = morseSkbChanBeacon ∨ use.channel = morseSkbChanCommand)
    ⟨fun h => ⟨h.1, h.2.1, h.2.2⟩, fun h => ⟨h.accounted, h.once, h.reserved⟩⟩

/-- The return pager gives `n` pages of 1500 octets. -/
def pagesReturned (n : Nat) : PagesetEvent :=
  .returnHandler false true ((List.range n).map fun i => ⟨BitVec.ofNat 32 (2048 * (i + 1)), 1500⟩)

/-- A data frame longer than its page, a put that fails twice, and more pages than the
rings take. -/
theorem pages_lost :
    ¬ Throughout pagesetStep MorsePageset.Conserved morsePagesetInit
        [pagesReturned 3, .write ⟨true, morseSkbChanData, 1600, [], 0, 0, 0⟩]
      ∧ ¬ Throughout pagesetStep MorsePageset.Conserved morsePagesetInit
        [pagesReturned 3, .write ⟨true, morseSkbChanData, 100, [], 0, -5, -5⟩]
      ∧ ¬ Throughout pagesetStep MorsePageset.Conserved morsePagesetInit [pagesReturned 35] := by
  decide +kernel

end MmIotEsp32.Driver
