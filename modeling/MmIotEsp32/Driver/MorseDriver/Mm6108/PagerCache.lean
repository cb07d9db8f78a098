/-
  MmIotEsp32.Driver.MorseDriver.Mm6108.PagerCache

  The bitmap of a pager with `MORSE_PAGER_FLAGS_FREE` (`mm6108/pager_if_hw.c`).

  A notification clears each word of the bitmap whether or not the chip got it.
-/
import Mathlib.Logic.Function.Basic
import Mathlib.Data.Fintype.Basic
import MmIotEsp32.Common.Mmosal
import MmIotEsp32.Lib.Transition

namespace MmIotEsp32.Driver.MorseDriver.Mm6108.PagerCache

open Lib Function

/-! ## The code -/

structure MorsePagerPktMemory where
  baseAddr : U32
  pageLen : BitVec 16
  pageLenReserved : BitVec 8
  num : BitVec 8
  deriving DecidableEq

def morsePagerBitsBitmapLen : Nat := 31

/-- `cache.bitmap`. -/
abbrev Bitmap : Type := Fin 2 → U32

variable (pktMemory : MorsePagerPktMemory)

def morsePagerHwGetIndexFromPage (addr : U32) : Option (BitVec 8) :=
  if addr < pktMemory.baseAddr
      ∨ addr > pktMemory.baseAddr
        + pktMemory.pageLen.setWidth 32 * pktMemory.num.setWidth 32 then none
  else some (((addr - pktMemory.pageLenReserved.setWidth 32 - pktMemory.baseAddr)
    / pktMemory.pageLen.setWidth 32).setWidth 8)

/-- `morse_pager_hw_get_page_from_index`: the address of the page. -/
def morsePagerHwGetPageFromIndex (index : BitVec 8) : Option U32 :=
  if index ≥ pktMemory.num then none
  else some (pktMemory.baseAddr + pktMemory.pageLen.setWidth 32 * index.setWidth 32
    + pktMemory.pageLenReserved.setWidth 32)

/-- The index of the page with the bit `index` of the word `block`. -/
def pageIndex (block : Fin 2) (index : Nat) : BitVec 8 :=
  BitVec.ofNat 8 (block.val * morsePagerBitsBitmapLen + index)

/-- `ffs`, counted from 0. -/
def ffs (x : U32) : Option Nat := (List.range 32).find? fun i => x.getLsbD i

/-- `morse_pager_hw_get_page_from_cache`; `none` is an error. -/
def morsePagerHwGetPageFromCache (bitmap : Bitmap) : Bitmap × Option U32 :=
  match (List.finRange 2).find? fun block => bitmap block ≠ 0 with
  | none => (bitmap, none)
  | some block =>
    match ffs (bitmap block) with
    | none => (bitmap, none)
    | some index =>
      (update bitmap block (bitmap block &&& ~~~BitVec.twoPow 32 index),
        morsePagerHwGetPageFromIndex pktMemory (pageIndex block index))

/-- The word of the cache that a word from the chip is for. -/
def blockOf (popVal : U32) : Fin 2 := if popVal.getLsbD morsePagerBitsBitmapLen then 1 else 0

/-- `morse_pager_hw_pop`; `popVal` is what the read from the chip gives, if it succeeds. -/
def morsePagerHwPop (bitmap : Bitmap) (popVal : Option U32) : Bitmap × Option U32 :=
  match morsePagerHwGetPageFromCache pktMemory bitmap, popVal with
  | (bitmap, some addr), _ => (bitmap, some addr)
  | (bitmap, none), none => (bitmap, none)
  | (bitmap, none), some popVal =>
    if popVal = 0 then (bitmap, none)
    else morsePagerHwGetPageFromCache pktMemory (update bitmap (blockOf popVal)
      (popVal &&& ~~~BitVec.twoPow 32 morsePagerBitsBitmapLen))

/-- `morse_pager_hw_put`: `none` is a write behind the bitmap, `some none` an error. -/
def morsePagerHwPut (bitmap : Bitmap) (addr : U32) : Option (Option Bitmap) :=
  match morsePagerHwGetIndexFromPage pktMemory addr with
  | none => some none
  | some index =>
    let block := index.toNat / morsePagerBitsBitmapLen
    if h : block < 2 then
      some (some (update bitmap ⟨block, h⟩ (bitmap ⟨block, h⟩
        ||| BitVec.twoPow 32 (index.toNat - block * morsePagerBitsBitmapLen))))
    else none

/-- `_morse_pager_hw_notify_pager`; the answers `ok` of the writes are not looked at. -/
def morsePagerHwNotifyPager (bitmap : Bitmap) (_ok : Fin 2 → Bool) : Bitmap :=
  (List.finRange 2).foldl
    (fun bitmap block => if bitmap block = 0 then bitmap else update bitmap block 0) bitmap

/-! ## Runs -/

/-- The cache, and the addresses handed out and not put back. -/
structure PagerState where
  bitmap : Bitmap
  out : List U32

/-- The calls, with what the bus does. -/
inductive PagerOp
  | pop (popVal : Option U32)
  | put (addr : U32)
  | notify (ok : Fin 2 → Bool)

/-- `none` is a write behind the bitmap. -/
def pagerStep (s : PagerState) : PagerOp → Option PagerState
  | .pop popVal =>
    let r := morsePagerHwPop pktMemory s.bitmap popVal
    some ⟨r.1, r.2.toList ++ s.out⟩
  | .put addr =>
    (morsePagerHwPut pktMemory s.bitmap addr).map fun
    | none => s
    | some bitmap => ⟨bitmap, s.out.filter (· ≠ addr)⟩
  | .notify ok => some ⟨morsePagerHwNotifyPager s.bitmap ok, s.out⟩

/-- The page with this bit is at `addr`. -/
def IsPage (block : Fin 2) (bit : Nat) (addr : U32) : Prop :=
  morsePagerHwGetPageFromIndex pktMemory (pageIndex block bit) = some addr

/-- Every bit that is set is a page, and one that is not handed out. -/
def CacheOk (s : PagerState) : Prop :=
  ∀ block bit, (s.bitmap block).getLsbD bit = true →
    bit < morsePagerBitsBitmapLen ∧ ∃ addr, IsPage pktMemory block bit addr ∧ addr ∉ s.out

/-- The call comes back, and a bit that was set is still set, or its page was handed out, or the
chip got the word with the bit. -/
def LosesNone (s : PagerState) (op : PagerOp) : Prop :=
  ∃ s', pagerStep pktMemory s op = some s' ∧ ∀ block bit, (s.bitmap block).getLsbD bit = true →
    (s'.bitmap block).getLsbD bit = true
    ∨ (∃ addr ∈ s'.out, IsPage pktMemory block bit addr)
    ∨ ∃ ok, op = .notify ok ∧ ok block = true

/-- The chip gives pages of its memory that it has, what is put is the address of a page that has a
bit, and every write of a notification succeeds. -/
def Spared (s : PagerState) : PagerOp → Prop
  | .pop popVal => ∀ val ∈ popVal, ∀ bit < morsePagerBitsBitmapLen, val.getLsbD bit = true →
    ∃ addr, IsPage pktMemory (blockOf val) bit addr ∧ addr ∉ s.out
  | .put addr => ∃ block, ∃ bit < morsePagerBitsBitmapLen, IsPage pktMemory block bit addr
  | .notify ok => ∀ block, s.bitmap block ≠ 0 → ok block = true

/-- The packet memory lies below the end of the address space, and a page is not shorter than what
is reserved of it. -/
structure Fits : Prop where
  pageLen : 0 < pktMemory.pageLen.toNat
  reserved : pktMemory.pageLenReserved.toNat ≤ pktMemory.pageLen.toNat
  memory : pktMemory.baseAddr.toNat + pktMemory.pageLen.toNat * pktMemory.num.toNat < 2 ^ 32

/-! ## Pages and bits -/

variable {pktMemory} {block : Fin 2} {bit : Nat} {addr : U32}

theorem toNat_pageIndex (hbit : bit < 32) :
    (pageIndex block bit).toNat = block.val * morsePagerBitsBitmapLen + bit := by
  have hblock := block.isLt
  unfold pageIndex morsePagerBitsBitmapLen
  rw [BitVec.toNat_ofNat]
  exact Nat.mod_eq_of_lt (by omega)

theorem getIndexFromPage_of_page (hfits : Fits pktMemory) {index : BitVec 8}
    (h : morsePagerHwGetPageFromIndex pktMemory index = some addr) :
    morsePagerHwGetIndexFromPage pktMemory addr = some index := by
  obtain ⟨hlen, hreserved, hmemory⟩ := hfits
  unfold morsePagerHwGetPageFromIndex at h
  split at h
  · cases h
  next hlt =>
  cases h
  have hindex : index.toNat < pktMemory.num.toNat := by
    rwa [ge_iff_le, BitVec.le_def, Nat.not_le] at hlt
  have hmul : pktMemory.pageLen.toNat * index.toNat + pktMemory.pageLen.toNat
      ≤ pktMemory.pageLen.toNat * pktMemory.num.toNat := by
    rw [← Nat.mul_succ]
    exact Nat.mul_le_mul_left _ hindex
  have hend : (pktMemory.pageLen.setWidth 32 * pktMemory.num.setWidth 32 : U32).toNat
      = pktMemory.pageLen.toNat * pktMemory.num.toNat := by
    rw [BitVec.toNat_mul, BitVec.toNat_setWidth_of_le (by decide),
      BitVec.toNat_setWidth_of_le (by decide)]
    exact Nat.mod_eq_of_lt (by omega)
  have hstart : (pktMemory.pageLen.setWidth 32 * index.setWidth 32 : U32).toNat
      = pktMemory.pageLen.toNat * index.toNat := by
    rw [BitVec.toNat_mul, BitVec.toNat_setWidth_of_le (by decide),
      BitVec.toNat_setWidth_of_le (by decide)]
    exact Nat.mod_eq_of_lt (by omega)
  have hres : (pktMemory.pageLenReserved.setWidth 32 : U32).toNat
      = pktMemory.pageLenReserved.toNat := BitVec.toNat_setWidth_of_le (by decide)
  unfold morsePagerHwGetIndexFromPage
  rw [if_neg]
  · rw [add_sub_cancel_right, add_sub_cancel_left, Option.some_inj]
    apply BitVec.eq_of_toNat_eq
    rw [BitVec.toNat_setWidth, BitVec.toNat_udiv, hstart, BitVec.toNat_setWidth_of_le (by decide),
      Nat.mul_div_cancel_left _ hlen]
    exact Nat.mod_eq_of_lt index.isLt
  · rw [not_or, BitVec.lt_def, gt_iff_lt, BitVec.lt_def]
    simp only [BitVec.toNat_add, hend, hstart, hres]
    omega

theorem IsPage.unique (hfits : Fits pktMemory) {block' : Fin 2} {bit' : Nat}
    (h : IsPage pktMemory block bit addr) (h' : IsPage pktMemory block' bit' addr)
    (hbit : bit < morsePagerBitsBitmapLen) (hbit' : bit' < morsePagerBitsBitmapLen) :
    block' = block ∧ bit' = bit := by
  have hindex := (getIndexFromPage_of_page hfits h').symm
  rw [getIndexFromPage_of_page hfits h] at hindex
  have hnat := congrArg BitVec.toNat (Option.some.inj hindex).symm
  unfold morsePagerBitsBitmapLen at *
  rw [toNat_pageIndex (by omega), toNat_pageIndex (by omega), morsePagerBitsBitmapLen] at hnat
  exact ⟨Fin.ext (by omega), by omega⟩

theorem morsePagerHwPut_of_page (hfits : Fits pktMemory) (bitmap : Bitmap)
    (h : IsPage pktMemory block bit addr) (hbit : bit < morsePagerBitsBitmapLen) :
    morsePagerHwPut pktMemory bitmap addr
      = some (some (update bitmap block (bitmap block ||| BitVec.twoPow 32 bit))) := by
  unfold morsePagerHwPut
  rw [getIndexFromPage_of_page hfits h]
  have hblock := block.isLt
  unfold morsePagerBitsBitmapLen at *
  have hindex : (pageIndex block bit).toNat = block.val * 31 + bit := toNat_pageIndex (by omega)
  have hdiv : (pageIndex block bit).toNat / 31 = block.val := by omega
  have hmod : (pageIndex block bit).toNat - block.val * 31 = bit := by omega
  dsimp only
  simp only [hdiv, hmod, hblock, dif_pos]

theorem ffs_spec {x : U32} :
    (∀ i, ffs x = some i → x.getLsbD i = true) ∧ (ffs x = none → x = 0) := by
  constructor
  · intro i h
    exact List.find?_some h
  intro h
  apply BitVec.eq_of_getLsbD_eq
  intro i hi
  have hbit := List.find?_eq_none.mp h i (List.mem_range.mpr hi)
  simpa using hbit

theorem getLsbD_clear (bitmap : Bitmap) (block block' : Fin 2) (hbit : bit < 32) (bit' : Nat) :
    (update bitmap block (bitmap block &&& ~~~BitVec.twoPow 32 bit) block').getLsbD bit' = true
      ↔ (bitmap block').getLsbD bit' = true ∧ ¬ (block' = block ∧ bit' = bit) := by
  by_cases hblock : block' = block
  · subst hblock
    rw [update_self, BitVec.getLsbD_and, BitVec.getLsbD_not, BitVec.getLsbD_twoPow]
    by_cases hlt : bit' < 32
    · simp [hlt, hbit, @eq_comm _ bit bit']
    · simp [BitVec.getLsbD_of_ge _ bit' (Nat.not_lt.mp hlt)]
  · simp [hblock]

theorem getPageFromCache_spec (hfits : Fits pktMemory) {bitmap : Bitmap} {out : List U32}
    (h : CacheOk pktMemory ⟨bitmap, out⟩) :
    (morsePagerHwGetPageFromCache pktMemory bitmap = (bitmap, none) ∧ ∀ block, bitmap block = 0)
    ∨ ∃ bitmap' addr, morsePagerHwGetPageFromCache pktMemory bitmap = (bitmap', some addr)
      ∧ CacheOk pktMemory ⟨bitmap', addr :: out⟩
      ∧ ∀ block bit, (bitmap block).getLsbD bit = true →
        (bitmap' block).getLsbD bit = true ∨ IsPage pktMemory block bit addr := by
  unfold morsePagerHwGetPageFromCache
  cases hfind : (List.finRange 2).find? fun block => bitmap block ≠ 0 with
  | none =>
    refine Or.inl ⟨rfl, fun block => ?_⟩
    simpa using List.find?_eq_none.mp hfind block (List.mem_finRange block)
  | some block =>
    have hne : bitmap block ≠ 0 := by simpa using List.find?_some hfind
    dsimp only
    cases hffs : ffs (bitmap block) with
    | none => exact absurd (ffs_spec.2 hffs) hne
    | some bit =>
      obtain ⟨hbit, addr, hpage, haddr⟩ := h block bit (ffs_spec.1 bit hffs)
      have hclear := fun block' =>
        getLsbD_clear bitmap block block' (Nat.lt_trans hbit (by decide))
      refine Or.inr ⟨_, addr, congrArg (Prod.mk _) hpage, fun block' bit' hset => ?_,
        fun block' bit' hset => ?_⟩
      · obtain ⟨hset, hother⟩ := (hclear block' bit').mp hset
        obtain ⟨hlt, addr', hpage', haddr'⟩ := h block' bit' hset
        refine ⟨hlt, addr', hpage', fun hmem => ?_⟩
        rcases List.mem_cons.mp hmem with rfl | hmem
        · exact hother (hpage.unique hfits hpage' hbit hlt)
        · exact haddr' hmem
      by_cases hsame : block' = block ∧ bit' = bit
      · obtain ⟨rfl, rfl⟩ := hsame
        exact Or.inr hpage
      · exact Or.inl ((hclear block' bit').mpr ⟨hset, hsame⟩)

/-! ## Every run -/

theorem morsePagerHwNotifyPager_eq (bitmap : Bitmap) (ok : Fin 2 → Bool) :
    morsePagerHwNotifyPager bitmap ok = fun _ => 0 := by
  have hclear : ∀ (bitmap : Bitmap) (block : Fin 2),
      (if bitmap block = 0 then bitmap else update bitmap block 0) = update bitmap block 0 := by
    intro bitmap block
    split
    next hzero => rw [← hzero, update_eq_self]
    next => rfl
  unfold morsePagerHwNotifyPager
  simp only [hclear]
  funext block
  match block with
  | 0 | 1 => rfl

variable {s : PagerState} {op : PagerOp}

theorem pagerStep_spared (hfits : Fits pktMemory) (h : CacheOk pktMemory s)
    (hop : Spared pktMemory s op) :
    LosesNone pktMemory s op
    ∧ ∀ s', pagerStep pktMemory s op = some s' → CacheOk pktMemory s' := by
  cases op with
  | pop popVal =>
    unfold LosesNone pagerStep morsePagerHwPop
    rcases getPageFromCache_spec hfits h with ⟨hcache, hzero⟩ | ⟨bitmap', addr, hcache, hok, hkept⟩
    · -- the cache is empty, so nothing can be lost, and it takes what the chip gives
      have hnone : ∀ block bit, (s.bitmap block).getLsbD bit ≠ true := by
        intro block bit
        simp [hzero]
      refine ⟨⟨_, rfl, fun block bit hset => absurd hset (hnone block bit)⟩, ?_⟩
      rw [hcache]
      rintro _ ⟨⟩
      cases popVal with
      | none => exact h
      | some popVal =>
        dsimp only
        split
        · exact h
        have hnew : CacheOk pktMemory ⟨update s.bitmap (blockOf popVal)
            (popVal &&& ~~~BitVec.twoPow 32 morsePagerBitsBitmapLen), s.out⟩ := by
          intro block bit hset
          by_cases hblock : block = blockOf popVal
          · subst hblock
            have hlt := BitVec.lt_of_getLsbD hset
            simp only [update_self, BitVec.getLsbD_and, BitVec.getLsbD_not, BitVec.getLsbD_twoPow,
              Bool.and_eq_true, Bool.not_eq_true', Bool.and_eq_false_iff,
              decide_eq_false_iff_not, morsePagerBitsBitmapLen] at hset
            have hbit : bit < morsePagerBitsBitmapLen := by
              unfold morsePagerBitsBitmapLen
              omega
            exact ⟨hbit, hop popVal rfl bit hbit hset.1⟩
          · simp only [update_of_ne hblock] at hset
            exact absurd hset (hnone block bit)
        rcases getPageFromCache_spec hfits hnew with ⟨hcache, -⟩ | ⟨bitmap', addr, hcache, hok, -⟩
        · rw [hcache]
          exact hnew
        · rw [hcache]
          exact hok
    rw [hcache]
    refine ⟨⟨_, rfl, fun block bit hset => ?_⟩, ?_⟩
    · rcases hkept block bit hset with hstill | hpage
      · exact Or.inl hstill
      · exact Or.inr (Or.inl ⟨addr, List.mem_cons_self .., hpage⟩)
    · rintro _ ⟨⟩
      exact hok
  | put addr =>
    obtain ⟨block, bit, hbit, hpage⟩ := hop
    have hset : ∀ block' bit', ((update s.bitmap block
        (s.bitmap block ||| BitVec.twoPow 32 bit)) block').getLsbD bit' = true
        ↔ (s.bitmap block').getLsbD bit' = true ∨ (block' = block ∧ bit' = bit) := by
      intro block' bit'
      have hbit' : bit < 32 := Nat.lt_trans hbit (by decide)
      by_cases hblock : block' = block
      · subst hblock
        simp [BitVec.getLsbD_twoPow, hbit', @eq_comm _ bit bit']
      · simp [hblock]
    have hput := morsePagerHwPut_of_page hfits s.bitmap hpage hbit
    unfold LosesNone
    simp only [pagerStep, hput, Option.map_some]
    refine ⟨⟨_, rfl, fun block' bit' h' => Or.inl ((hset block' bit').mpr (Or.inl h'))⟩, ?_⟩
    rintro _ ⟨⟩ block' bit' h'
    rcases (hset block' bit').mp h' with hold | ⟨rfl, rfl⟩
    · obtain ⟨hlt, addr', hpage', hout⟩ := h block' bit' hold
      exact ⟨hlt, addr', hpage', fun hmem => hout (List.mem_of_mem_filter hmem)⟩
    · exact ⟨hbit, addr, hpage, by simp⟩
  | notify ok =>
    constructor
    · refine ⟨_, rfl, fun block bit hset => Or.inr (Or.inr ⟨ok, rfl, hop block fun hzero => ?_⟩)⟩
      simp [hzero] at hset
    · rintro _ ⟨⟩ block bit hset
      simp [morsePagerHwNotifyPager_eq] at hset

/-- The pager cache.  In a packet memory that fits, putting the page of a bit sets this bit; and in
every run, from any cache of pages that are not handed out, whose steps are all spared, no call
loses a page, and no page is cached and handed out at once. -/
theorem pager_cache_spared (pktMemory : MorsePagerPktMemory) :
    (∀ block bit addr bitmap, Fits pktMemory → IsPage pktMemory block bit addr →
      bit < morsePagerBitsBitmapLen → morsePagerHwPut pktMemory bitmap addr
        = some (some (update bitmap block (bitmap block ||| BitVec.twoPow 32 bit))))
    ∧ ∀ s ops, Fits pktMemory → CacheOk pktMemory s →
      Along (pagerStep pktMemory) (Spared pktMemory) s ops →
      Along (pagerStep pktMemory) (LosesNone pktMemory) s ops
      ∧ Throughout (pagerStep pktMemory) (CacheOk pktMemory) s ops := by
  refine ⟨fun block bit addr bitmap hfits hpage hbit =>
    morsePagerHwPut_of_page hfits bitmap hpage hbit, fun s ops hfits hs hspared => ?_⟩
  have hok : Throughout (pagerStep pktMemory) (CacheOk pktMemory) s ops :=
    throughout_of_step (fun _ _ s' h hop => (pagerStep_spared hfits h hop).2 s') hs hspared
  have hboth := (hok.along_of fun _ _ h => h).and hspared
  exact ⟨hboth.mono fun _ _ h => (pagerStep_spared hfits h.1 h.2).1, hok⟩

/-- The first page is put, and the write of the notification fails: the page is in no bitmap. -/
theorem failed_notify_drops_page :
    let pktMemory : MorsePagerPktMemory := ⟨0x1000, 256, 0, 4⟩
    ((pagerStep pktMemory ⟨fun _ => 0, []⟩ (.put 0x1000)).map fun s =>
      (s.bitmap 0, (pagerStep pktMemory s (.notify fun _ => false)).map (·.bitmap 0)))
    = some (1, some 0) := by
  decide

end MmIotEsp32.Driver.MorseDriver.Mm6108.PagerCache
