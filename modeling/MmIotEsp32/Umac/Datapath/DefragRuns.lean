/-
  MmIotEsp32.Umac.Datapath.DefragRuns

  What reassembly delivers over any run of frames and chain timeouts.
-/
import MmIotEsp32.Umac.Datapath.Defrag

namespace MmIotEsp32.Umac.Datapath

open Dot11 Keys Ba Lib Function

/-! ## Runs -/

/-- A received frame, its header removed. -/
structure RxFragment where
  hdr : BytePtr
  rxbuf : Mmpkt

namespace RxFragment

def number (f : RxFragment) : Nat :=
  (dot11SequenceControlGetFragmentNumber (sequenceControl f.hdr)).toNat

def sequenceNumber (f : RxFragment) : U16 :=
  dot11SequenceControlGetSequenceNumber (sequenceControl f.hdr)

def moreFragments (f : RxFragment) : Bool := dot11FrameControlGetMoreFragments (frameControl f.hdr)

def isProtected (f : RxFragment) : Bool := dot11FrameControlGetProtected (frameControl f.hdr)

def payload (f : RxFragment) : List U8 := f.rxbuf.data

end RxFragment

/-- A reassembled buffer, with what was received on its TID since the one before. -/
structure Reassembled where
  heard : List RxFragment
  pkt : Mmpkt

structure DefragRun where
  umac : UmacData
  held : FragChainIdx → List RxFragment
  heard : FragChainIdx → List RxFragment
  delivered : List Reassembled

inductive DefragEvent where
  | frame (tidIdx : U8) (f : RxFragment)
  | timeout (i : FragChainIdx)

/-- The chain takes the fragment into its buffer. -/
def chainAccepts (chain : DatapathDefragDataChain) (f : RxFragment) : Bool :=
  match chain.buf with
  | none => false
  | some buf =>
    datapathDefragIsInFragChain chain (sequenceControl f.hdr)
      && chain.isProtected == f.isProtected
      && f.rxbuf.data.length ≤ buf.tailroom

/-- The fragments in the buffer of a chain after it has seen one. -/
def heldAfter (before after : DatapathDefragDataChain) (held : List RxFragment) (f : RxFragment) :
    List RxFragment :=
  if after.buf.isNone then []
  else if datapathDefragIsFirstFragment f.hdr then [f]
  else if chainAccepts before f then held ++ [f]
  else held

/-- The record of a run after chain `i` has seen a fragment. -/
def DefragRun.observe (s : DefragRun) (umac : UmacData) (i : FragChainIdx) (f : RxFragment) :
    Option (Mmpkt × BytePtr) → DefragRun
  | some (pkt, _) =>
    { umac := umac
      held := update s.held i []
      heard := update s.heard i []
      delivered := ⟨s.heard i ++ [f], pkt⟩ :: s.delivered }
  | none =>
    { umac := umac
      held := update s.held i
        (heldAfter (s.umac.stad.datapath.fragChains i) (umac.stad.datapath.fragChains i)
          (s.held i) f)
      heard := update s.heard i (s.heard i ++ [f])
      delivered := s.delivered }

def defragStep (env : UmacEnv) (s : DefragRun) : DefragEvent → Option DefragRun
  | .timeout i =>
    some { s with umac := datapathDefragTimeout s.umac i, held := update s.held i [] }
  | .frame tidIdx f =>
    (datapathDefrag env s.umac f.hdr f.rxbuf tidIdx).map fun (umac, ret) =>
      if datapathDefragIsFragment f.hdr then
        match datapathDefragGetFragChain tidIdx with
        | none => { s with umac := umac }
        | some i => s.observe umac i f ret
      else { s with umac := umac }

/-- A new STA record, before any frame. -/
def defragInit : DefragRun where
  umac := umacStadInit
  held := fun _ => []
  heard := fun _ => []
  delivered := []

/-! ## What a reassembled buffer should be -/

/-- The fragments are numbers 0, 1, …, of one sequence number and one protection. -/
structure InSequence (frags : List RxFragment) (sequenceNumber : U16) (isProtected : Bool) : Prop where
  numbers : frags.map RxFragment.number = List.range frags.length
  sequenceNumber : ∀ f ∈ frags, f.sequenceNumber = sequenceNumber
  isProtected : ∀ f ∈ frags, f.isProtected = isProtected

/-- The payload is that of the fragments of one whole MSDU, each received once. -/
def CompleteMsdu (r : Reassembled) : Prop :=
  ∃ frags last sequenceNumber isProtected,
    InSequence (frags ++ [last]) sequenceNumber isProtected
      ∧ last.moreFragments = false
      ∧ (frags ++ [last]).Sublist r.heard
      ∧ r.pkt.data = (frags ++ [last]).flatMap RxFragment.payload

def DeliversComplete (s : DefragRun) : Prop := ∀ r ∈ s.delivered, CompleteMsdu r

/-- A fragment that is not the first, and that its chain takes, bears the next number. -/
def NextFragment (s : DefragRun) : DefragEvent → Prop
  | .timeout _ => True
  | .frame tidIdx f =>
    ∀ i, datapathDefragGetFragChain tidIdx = some i →
      datapathDefragIsFirstFragment f.hdr = false →
        chainAccepts (s.umac.stad.datapath.fragChains i) f = true →
          f.number = (s.held i).length

/-! ## Chains and held fragments -/

/-- The buffer of a chain holds the payload of these fragments. -/
structure ChainHolds (chain : DatapathDefragDataChain) (held heard : List RxFragment) : Prop where
  inSequence : InSequence held chain.sequenceNumber chain.isProtected
  sublist : held.Sublist heard
  data : ∀ buf ∈ chain.buf, buf.data = held.flatMap RxFragment.payload
  empty : chain.buf = none → held = []

/-- The run's invariant. -/
structure RunOk (s : DefragRun) : Prop where
  chains : FragChainsOk s.umac
  holds : ∀ i, ChainHolds (s.umac.stad.datapath.fragChains i) (s.held i) (s.heard i)
  delivers : DeliversComplete s

theorem inSequence_nil (sequenceNumber : U16) (isProtected : Bool) :
    InSequence [] sequenceNumber isProtected :=
  ⟨rfl, by simp, by simp⟩

variable {f : RxFragment}

theorem InSequence.append {frags : List RxFragment} {sequenceNumber : U16} {isProtected : Bool}
    (h : InSequence frags sequenceNumber isProtected)
    (hnumber : f.number = frags.length) (hseq : f.sequenceNumber = sequenceNumber)
    (hprot : f.isProtected = isProtected) :
    InSequence (frags ++ [f]) sequenceNumber isProtected where
  numbers := by
    rw [List.map_append, h.numbers, List.length_append, List.length_singleton, List.range_succ,
      List.map_singleton, hnumber]
  sequenceNumber := by
    intro g hg
    rcases List.mem_append.mp hg with hg | hg
    · exact h.sequenceNumber g hg
    · rw [List.mem_singleton.mp hg]
      exact hseq
  isProtected := by
    intro g hg
    rcases List.mem_append.mp hg with hg | hg
    · exact h.isProtected g hg
    · rw [List.mem_singleton.mp hg]
      exact hprot

variable {chain : DatapathDefragDataChain}

theorem chainAccepts_eq_true : chainAccepts chain f = true ↔ ∃ buf, chain.buf = some buf
      ∧ f.sequenceNumber = chain.sequenceNumber ∧ f.isProtected = chain.isProtected
      ∧ f.rxbuf.data.length ≤ buf.tailroom := by
  unfold chainAccepts
  cases hbuf : chain.buf with
  | none => simp
  | some buf =>
    simp only [datapathDefragIsInFragChain, Bool.and_eq_true, beq_iff_eq, decide_eq_true_eq,
      Option.some.injEq, exists_eq_left', RxFragment.sequenceNumber]
    constructor
    · intro h
      exact ⟨h.1.1.symm, h.1.2.symm, h.2⟩
    · intro h
      exact ⟨⟨h.1.symm, h.2.1.symm⟩, h.2.2⟩

/-- The fragment is not of the MSDU the chain collects. -/
def ForeignFragment (chain : DatapathDefragDataChain) (f : RxFragment) : Prop :=
  chain.buf = none ∨ f.sequenceNumber ≠ chain.sequenceNumber ∨ f.isProtected ≠ chain.isProtected

variable {i : FragChainIdx}

theorem datapathDefragContinue_refused {u : UmacData}
    (h : chainAccepts (u.stad.datapath.fragChains i) f = false) :
    ∃ u', datapathDefragContinue u i f.hdr f.rxbuf = some (u', none)
      ∧ (u' = u ∧ ForeignFragment (u.stad.datapath.fragChains i) f
        ∨ u'.stad.datapath.fragChains = update u.stad.datapath.fragChains i
            (u.stad.datapath.fragChains i).release) := by
  unfold datapathDefragContinue
  dsimp only
  split
  · rename_i hbuf
    exact ⟨u, rfl, Or.inl ⟨rfl, Or.inl hbuf⟩⟩
  rename_i buf hbuf
  split
  · rename_i hin
    refine ⟨u, rfl, Or.inl ⟨rfl, Or.inr (Or.inl ?_)⟩⟩
    intro hseq
    simp only [datapathDefragIsInFragChain, Bool.not_eq_true', beq_eq_false_iff_ne] at hin
    exact hin hseq.symm
  rename_i hin
  split
  · rename_i hprot
    refine ⟨u, rfl, Or.inl ⟨rfl, Or.inr (Or.inr ?_)⟩⟩
    intro heq
    exact absurd heq.symm (bne_iff_ne.mp hprot)
  rename_i hprot
  have hlong : ¬ f.rxbuf.data.length ≤ buf.tailroom := by
    intro hfit
    have hacc : chainAccepts (u.stad.datapath.fragChains i) f = true := by
      rw [chainAccepts, hbuf]
      simp only [Bool.and_eq_true, beq_iff_eq, decide_eq_true_eq]
      exact ⟨⟨by simpa using hin, by simpa [RxFragment.isProtected] using hprot⟩, hfit⟩
    rw [hacc] at h
    exact Bool.noConfusion h
  rw [datapathDefragAddFragment_eq, if_neg hlong]
  exact ⟨_, rfl, Or.inr rfl⟩

theorem datapathDefragContinue_accepted {u : UmacData}
    {buf : Mmpkt} (hchains : FragChainsOk u) (hbuf : (u.stad.datapath.fragChains i).buf = some buf)
    (h : chainAccepts (u.stad.datapath.fragChains i) f = true) :
    (f.moreFragments = true ∧ ∃ u' buf', datapathDefragContinue u i f.hdr f.rxbuf = some (u', none)
        ∧ buf'.data = buf.data ++ f.payload
        ∧ u'.stad.datapath.fragChains = update u.stad.datapath.fragChains i
          { u.stad.datapath.fragChains i with buf := some buf' })
    ∨ (f.moreFragments = false ∧ ∃ u' pkt hdr',
        datapathDefragContinue u i f.hdr f.rxbuf = some (u', some (pkt, hdr'))
        ∧ pkt.data = buf.data ++ f.payload
        ∧ u'.stad.datapath.fragChains = update u.stad.datapath.fragChains i
          (u.stad.datapath.fragChains i).release) := by
  obtain ⟨buf', hbuf', hseq, hprot, hfit⟩ := chainAccepts_eq_true.mp h
  obtain rfl : buf = buf' := Option.some.inj (hbuf.symm.trans hbuf')
  have hin : (!datapathDefragIsInFragChain (u.stad.datapath.fragChains i)
      (sequenceControl f.hdr)) ≠ true := by
    simp only [datapathDefragIsInFragChain, ne_eq, Bool.not_eq_true', Bool.not_eq_false,
      beq_iff_eq]
    exact hseq.symm
  have hsame : ((u.stad.datapath.fragChains i).isProtected
      != dot11FrameControlGetProtected (frameControl f.hdr)) ≠ true := by
    simp only [ne_eq, bne_iff_ne, not_not]
    exact hprot.symm
  unfold datapathDefragContinue
  dsimp only
  rw [hbuf]
  dsimp only
  rw [if_neg hin, if_neg hsame, datapathDefragAddFragment_eq, if_pos hfit]
  dsimp only
  have hroom : sizeofDot11DataHdr ≤ buf.startOffset := hchains i buf hbuf
  by_cases hmore : f.moreFragments = true
  · refine Or.inl ⟨hmore, ?_⟩
    rw [if_pos (show dot11FrameControlGetMoreFragments (frameControl f.hdr) = true from hmore)]
    exact ⟨_, _, rfl, rfl, rfl⟩
  refine Or.inr ⟨Bool.eq_false_iff.mpr hmore, ?_⟩
  rw [if_neg (show ¬ dot11FrameControlGetMoreFragments (frameControl f.hdr) = true from hmore)]
  obtain ⟨u', pkt, hdr', heq, _, hchains', hdata, _, _⟩ :=
    datapathDefragComplete_spec (show sizeofDot11DataHdr ≤ Mmpkt.startOffset
      { buf with
        data := buf.data ++ f.rxbuf.data
        behind := buf.behind.add f.rxbuf.data.length
        tailroom := buf.tailroom - f.rxbuf.data.length } from hroom)
  exact ⟨u', pkt, hdr', heq, hdata, hchains'⟩

/-! ## One step -/

theorem ChainHolds.of_released (heard : List RxFragment)
    (h : chain.buf = none) : ChainHolds chain [] heard where
  inSequence := inSequence_nil ..
  sublist := List.nil_sublist _
  data := by
    intro buf hbuf
    rw [h] at hbuf
    exact absurd hbuf (by simp)
  empty := fun _ => rfl

theorem ChainHolds.hear {held heard : List RxFragment}
    (h : ChainHolds chain held heard) (f : RxFragment) : ChainHolds chain held (heard ++ [f]) where
  inSequence := h.inSequence
  sublist := h.sublist.trans (List.sublist_append_left ..)
  data := h.data
  empty := h.empty

variable {s : DefragRun}

theorem RunOk.observe_none (h : RunOk s) {umac : UmacData}
    {held : List RxFragment} (hchains : FragChainsOk umac)
    (hother : ∀ j, j ≠ i → umac.stad.datapath.fragChains j = s.umac.stad.datapath.fragChains j)
    (hheld : heldAfter (s.umac.stad.datapath.fragChains i) (umac.stad.datapath.fragChains i)
      (s.held i) f = held)
    (hi : ChainHolds (umac.stad.datapath.fragChains i) held (s.heard i ++ [f])) :
    RunOk (s.observe umac i f none) where
  chains := hchains
  holds := by
    intro j
    show ChainHolds (umac.stad.datapath.fragChains j) (update s.held i _ j)
      (update s.heard i _ j)
    by_cases hj : j = i
    · rw [hj, update_self, update_self, hheld]
      exact hi
    · rw [update_of_ne hj, update_of_ne hj, hother j hj]
      exact h.holds j
  delivers := h.delivers

theorem RunOk.observe_some (h : RunOk s) {umac : UmacData}
    {pkt : Mmpkt} (hdr' : BytePtr) (hchains : FragChainsOk umac)
    (hother : ∀ j, j ≠ i → umac.stad.datapath.fragChains j = s.umac.stad.datapath.fragChains j)
    (hi : (umac.stad.datapath.fragChains i).buf = none)
    (hcomplete : CompleteMsdu ⟨s.heard i ++ [f], pkt⟩) :
    RunOk (s.observe umac i f (some (pkt, hdr'))) where
  chains := hchains
  holds := by
    intro j
    show ChainHolds (umac.stad.datapath.fragChains j) (update s.held i [] j)
      (update s.heard i [] j)
    by_cases hj : j = i
    · rw [hj, update_self, update_self]
      exact .of_released _ hi
    · rw [update_of_ne hj, update_of_ne hj, hother j hj]
      exact h.holds j
  delivers := by
    intro r hr
    rcases List.mem_cons.mp hr with rfl | hr
    · exact hcomplete
    · exact h.delivers r hr

theorem ChainHolds.take {held heard : List RxFragment}
    (h : ChainHolds chain held heard) {buf buf' : Mmpkt}
    (hbuf : chain.buf = some buf) (hacc : chainAccepts chain f = true)
    (hnumber : f.number = held.length) (hdata : buf'.data = buf.data ++ f.payload) :
    ChainHolds { chain with buf := some buf' } (held ++ [f]) (heard ++ [f])
      ∧ buf'.data = (held ++ [f]).flatMap RxFragment.payload := by
  obtain ⟨_, _, hseq, hprot, _⟩ := chainAccepts_eq_true.mp hacc
  have hheld : buf'.data = (held ++ [f]).flatMap RxFragment.payload := by
    rw [hdata, h.data buf hbuf, List.flatMap_append, List.flatMap_singleton]
  refine ⟨⟨h.inSequence.append hnumber hseq hprot, h.sublist.append (.refl _), ?_, ?_⟩, hheld⟩
  · intro b hb
    cases hb
    exact hheld
  · intro hnone
    exact absurd hnone (by simp)

theorem datapathDefragContinue_runOk (h : RunOk s) {tidIdx : U8}
    (hi : datapathDefragGetFragChain tidIdx = some i)
    (hfirst : datapathDefragIsFirstFragment f.hdr = false)
    (hnext : NextFragment s (.frame tidIdx f)) :
    ∃ u' ret, datapathDefragContinue s.umac i f.hdr f.rxbuf = some (u', ret)
      ∧ RunOk (s.observe u' i f ret) := by
  obtain ⟨u', ret, heq, _, hchains, _⟩ := datapathDefragContinue_isSome h.chains i f.hdr f.rxbuf
  refine ⟨u', ret, heq, ?_⟩
  have hholds := h.holds i
  by_cases hacc : chainAccepts (s.umac.stad.datapath.fragChains i) f = true
  · obtain ⟨buf, hbuf, _⟩ := chainAccepts_eq_true.mp hacc
    have hnumber : f.number = (s.held i).length := hnext i hi hfirst hacc
    rcases datapathDefragContinue_accepted h.chains hbuf hacc with
      ⟨_, u'', buf', heq', hdata, hupd⟩ | ⟨hlast, u'', pkt, hdr', heq', hdata, hupd⟩
    · obtain ⟨rfl, rfl⟩ := Prod.mk.inj (Option.some.inj (heq.symm.trans heq'))
      have hchain : u'.stad.datapath.fragChains i
          = { s.umac.stad.datapath.fragChains i with buf := some buf' } := by
        rw [hupd, update_self]
      refine h.observe_none hchains ?_ ?_ (hchain ▸ (hholds.take hbuf hacc hnumber hdata).1)
      · intro j hj
        rw [hupd, update_of_ne hj]
      · rw [heldAfter, hchain, hfirst, hacc]
        rfl
    obtain ⟨rfl, rfl⟩ := Prod.mk.inj (Option.some.inj (heq.symm.trans heq'))
    have htake := hholds.take hbuf hacc hnumber hdata
    refine h.observe_some hdr' hchains ?_ ?_ ?_
    · intro j hj
      rw [hupd, update_of_ne hj]
    · rw [hupd, update_self]
      rfl
    · exact ⟨s.held i, f, _, _, htake.1.inSequence, hlast, htake.1.sublist, htake.2⟩
  have hacc' := Bool.eq_false_iff.mpr hacc
  obtain ⟨u'', heq', hu⟩ := datapathDefragContinue_refused hacc'
  obtain ⟨rfl, rfl⟩ := Prod.mk.inj (Option.some.inj (heq.symm.trans heq'))
  rcases hu with ⟨rfl, _⟩ | hupd
  · -- the chain is as it was
    refine h.observe_none hchains (fun _ _ => rfl) ?_ (hholds.hear f)
    rw [heldAfter, hfirst, hacc']
    cases hbuf : (s.umac.stad.datapath.fragChains i).buf with
    | none => exact (hholds.empty hbuf).symm
    | some buf => rfl
  have hbuf : (u'.stad.datapath.fragChains i).buf = none := by
    rw [hupd, update_self]
    rfl
  refine h.observe_none hchains ?_ ?_ (.of_released _ hbuf)
  · intro j hj
    rw [hupd, update_of_ne hj]
  · rw [heldAfter, hbuf]
    rfl

theorem datapathDefragStart_runOk (env : UmacEnv) (h : RunOk s)
    (i : FragChainIdx) (hfragment : datapathDefragIsFragment f.hdr = true)
    (hfirst : datapathDefragIsFirstFragment f.hdr = true) :
    ∃ u' ret, (datapathDefragStart env s.umac i f.hdr).bind
        (fun u => datapathDefragContinue u i f.hdr f.rxbuf) = some (u', ret)
      ∧ RunOk (s.observe u' i f ret) := by
  obtain ⟨u₁, buf, heq₁, _, hbuf, _, hupd₁⟩ := datapathDefragStart_spec env s.umac i f.hdr
  have hchain₁ : u₁.stad.datapath.fragChains i = ⟨f.sequenceNumber, f.isProtected, buf⟩ := by
    rw [hupd₁, update_self]
    rfl
  have hchains₁ : FragChainsOk u₁ := by
    refine h.chains.update hupd₁ fun pkt hpkt => ?_
    rw [(hbuf pkt hpkt).startOffset]
  have hother₁ : ∀ j, j ≠ i →
      u₁.stad.datapath.fragChains j = s.umac.stad.datapath.fragChains j := by
    intro j hj
    rw [hupd₁, update_of_ne hj]
  obtain ⟨u', ret, heq, _, hchains, _⟩ := datapathDefragContinue_isSome hchains₁ i f.hdr f.rxbuf
  refine ⟨u', ret, by rw [heq₁]; exact heq, ?_⟩
  have hzero : f.number = ([] : List RxFragment).length := by
    unfold datapathDefragIsFirstFragment at hfirst
    rw [RxFragment.number, beq_iff_eq.mp hfirst]
    rfl
  by_cases hacc : chainAccepts (u₁.stad.datapath.fragChains i) f = true
  · obtain ⟨pkt₁, hpkt₁, _⟩ := chainAccepts_eq_true.mp hacc
    have hfresh : FreshBuffer pkt₁ := by
      rw [hchain₁] at hpkt₁
      exact hbuf pkt₁ hpkt₁
    rcases datapathDefragContinue_accepted hchains₁ hpkt₁ hacc with
      ⟨_, u'', buf', heq', hdata, hupd⟩ | ⟨hlast, _⟩
    · obtain ⟨rfl, rfl⟩ := Prod.mk.inj (Option.some.inj (heq.symm.trans heq'))
      have hempty : ChainHolds (u₁.stad.datapath.fragChains i) [] (s.heard i) := by
        refine ⟨inSequence_nil .., List.nil_sublist _, ?_, fun _ => rfl⟩
        intro b hb
        obtain rfl := Option.some.inj (hpkt₁.symm.trans hb)
        exact hfresh.data
      have hchain : u'.stad.datapath.fragChains i
          = { u₁.stad.datapath.fragChains i with buf := some buf' } := by
        rw [hupd, update_self]
      refine h.observe_none hchains ?_ ?_ (hchain ▸ (hempty.take hpkt₁ hacc hzero hdata).1)
      · intro j hj
        rw [hupd, update_of_ne hj, hother₁ j hj]
      · rw [heldAfter, hchain, hfirst]
        rfl
    -- number 0 and no more fragments is no fragment at all
    unfold datapathDefragIsFragment at hfragment
    unfold datapathDefragIsFirstFragment at hfirst
    rw [beq_iff_eq.mp hfirst] at hfragment
    have hmore : f.moreFragments = true := by
      show dot11FrameControlGetMoreFragments (frameControl f.hdr) = true
      simpa using hfragment
    rw [hmore] at hlast
    exact Bool.noConfusion hlast
  have hacc' := Bool.eq_false_iff.mpr hacc
  obtain ⟨u'', heq', hu⟩ := datapathDefragContinue_refused hacc'
  obtain ⟨rfl, rfl⟩ := Prod.mk.inj (Option.some.inj (heq.symm.trans heq'))
  have hrelease : (u'.stad.datapath.fragChains i).buf = none
      ∧ ∀ j, j ≠ i → u'.stad.datapath.fragChains j = s.umac.stad.datapath.fragChains j := by
    rcases hu with ⟨rfl, hforeign⟩ | hupd
    · -- the chain was set up for this very fragment, so only its buffer can be missing
      rw [hchain₁] at hforeign ⊢
      rcases hforeign with hnone | hseq | hprot
      · exact ⟨hnone, hother₁⟩
      · exact absurd rfl hseq
      · exact absurd rfl hprot
    · refine ⟨by rw [hupd, update_self]; rfl, fun j hj => ?_⟩
      rw [hupd, update_of_ne hj, hother₁ j hj]
  refine h.observe_none hchains hrelease.2 ?_ (.of_released _ hrelease.1)
  rw [heldAfter, hrelease.1]
  rfl

theorem defragStep_runOk (env : UmacEnv) (h : RunOk s) (e : DefragEvent)
    (hnext : NextFragment s e) : ∃ s', defragStep env s e = some s' ∧ RunOk s' := by
  cases e with
  | timeout i =>
    refine ⟨_, rfl, ?_, ?_, h.delivers⟩
    · refine h.chains.update rfl fun buf hbuf => ?_
      exact absurd hbuf (by simp [DatapathDefragDataChain.release])
    intro j
    show ChainHolds (update s.umac.stad.datapath.fragChains i _ j)
      (update s.held i [] j) (s.heard j)
    by_cases hj : j = i
    · rw [hj, update_self, update_self]
      exact .of_released _ rfl
    · rw [update_of_ne hj, update_of_ne hj]
      exact h.holds j
  | frame tidIdx f =>
    unfold defragStep
    dsimp only
    by_cases hfragment : datapathDefragIsFragment f.hdr = true
    · simp only [if_pos hfragment]
      cases hi : datapathDefragGetFragChain tidIdx with
      | none =>
        have heq : datapathDefrag env s.umac f.hdr f.rxbuf tidIdx = some (s.umac, none) := by
          rw [datapathDefrag, if_neg (by simp [hfragment]), hi]
        rw [heq]
        exact ⟨_, rfl, h⟩
      | some i =>
        by_cases hfirst : datapathDefragIsFirstFragment f.hdr = true
        · obtain ⟨u', ret, heq, hok⟩ := datapathDefragStart_runOk env h i hfragment hfirst
          have heq' : datapathDefrag env s.umac f.hdr f.rxbuf tidIdx = some (u', ret) := by
            rw [datapathDefrag, if_neg (by simp [hfragment]), hi]
            dsimp only
            rw [if_pos hfirst, heq]
          rw [heq']
          exact ⟨_, rfl, hok⟩
        obtain ⟨u', ret, heq, hok⟩ :=
          datapathDefragContinue_runOk h hi (Bool.eq_false_iff.mpr hfirst) hnext
        have heq' : datapathDefrag env s.umac f.hdr f.rxbuf tidIdx = some (u', ret) := by
          rw [datapathDefrag, if_neg (by simp [hfragment]), hi]
          dsimp only
          rw [if_neg hfirst, heq]
        rw [heq']
        exact ⟨_, rfl, hok⟩
    have heq : datapathDefrag env s.umac f.hdr f.rxbuf tidIdx
        = some (s.umac, some (f.rxbuf, f.hdr)) := by
      rw [datapathDefrag, if_pos (by simp [hfragment])]
    simp only [if_neg hfragment]
    rw [heq]
    exact ⟨_, rfl, h⟩

/-! ## Runs -/

theorem defragInit_runOk : RunOk defragInit where
  chains := by
    intro i buf hbuf
    exact absurd hbuf (by simp [defragInit, umacStadInit])
  holds := fun _ => .of_released _ rfl
  delivers := by
    intro r hr
    exact absurd hr (by simp [defragInit])

/-- Every buffer reassembled in a run is a whole MSDU, if every fragment that enters
a chain is the next one. -/
theorem defrag_delivers_complete_msdus (env : UmacEnv) (es : List DefragEvent)
    (hnext : Along (defragStep env) NextFragment defragInit es) :
    Throughout (defragStep env) DeliversComplete defragInit es := by
  have hrun : Throughout (defragStep env) RunOk defragInit es := by
    refine throughout_of_step (fun s e s' hs he hstep => ?_) defragInit_runOk hnext
    obtain ⟨t, ht, hok⟩ := defragStep_runOk env hs e he
    obtain rfl : t = s' := Option.some.inj (ht.symm.trans hstep)
    exact hok
  exact hrun.mono fun s hs => hs.delivers

/-- A fragment of the given frame control, sequence control and payload. -/
def bareFragment (fc seqCtrl : U16) (payload : List U8) : RxFragment where
  hdr := bareHdr fc seqCtrl
  rxbuf :=
    { startOffset := sizeofDot11Hdr
      data := payload
      behind := fun _ => 0
      tailroom := 0
      rx := ⟨false, 0⟩ }

/-- Fragments 0 and 1 of one MSDU are delivered together. -/
theorem defrag_delivers_two_fragments :
    Throughout (defragStep openEnv) DeliversComplete defragInit
        [.frame 0 (bareFragment 0x0408 0x10 [1, 2]), .frame 0 (bareFragment 0x0008 0x11 [3])]
      ∧ ((runFrom (defragStep openEnv) defragInit
          [.frame 0 (bareFragment 0x0408 0x10 [1, 2]), .frame 0 (bareFragment 0x0008 0x11 [3])]).map
            fun s => s.delivered.map fun r => r.pkt.data) = some [[1, 2, 3]] := by
  refine ⟨defrag_delivers_complete_msdus openEnv _ ⟨?_, fun s hs => ⟨?_, fun _ _ => trivial⟩⟩, ?_⟩
  · intro i _ hfirst
    exact absurd hfirst (by decide)
  · intro i hi _ _
    have hheld : (defragStep openEnv defragInit
        (.frame 0 (bareFragment 0x0408 0x10 [1, 2]))).map (fun s => (s.held ⟨0, by decide⟩).length)
          = some 1 := by decide +kernel
    rw [hs] at hheld
    have hone : (s.held i).length = 1 := by
      cases hi
      exact Option.some.inj hheld
    rw [hone]
    decide
  · decide +kernel

theorem InSequence.last_number {frags : List RxFragment} {last : RxFragment} {sequenceNumber : U16}
    {isProtected : Bool} (h : InSequence (frags ++ [last]) sequenceNumber isProtected) :
    last.number = frags.length := by
  have hnumbers := h.numbers
  rw [List.map_append, List.map_singleton, List.length_append, List.length_singleton,
    List.range_succ] at hnumbers
  exact (List.append_inj_right' hnumbers rfl |> List.singleton_inj.mp)

/-- Fragments 0 and 2 are delivered as if they were a whole MSDU. -/
theorem defrag_delivers_with_gap :
    ¬ Throughout (defragStep openEnv) DeliversComplete defragInit
      [.frame 0 (bareFragment 0x0408 0x10 [1]), .frame 0 (bareFragment 0x0008 0x12 [3])] := by
  intro h
  have hrun : ∃ t r, runFrom (defragStep openEnv) defragInit
      [.frame 0 (bareFragment 0x0408 0x10 [1]), .frame 0 (bareFragment 0x0008 0x12 [3])] = some t
        ∧ r ∈ t.delivered
        ∧ r.heard = [bareFragment 0x0408 0x10 [1], bareFragment 0x0008 0x12 [3]] :=
    ⟨_, _, rfl, List.mem_singleton.mpr rfl, rfl⟩
  obtain ⟨t, r, ht, hr, hheard⟩ := hrun
  obtain ⟨frags, last, _, _, hseq, hlast, hsub, _⟩ := h.of_runFrom ht r hr
  rw [hheard] at hsub
  have hmem : last ∈ [bareFragment 0x0408 0x10 [1], bareFragment 0x0008 0x12 [3]] :=
    hsub.subset (by simp)
  have hlen : frags.length + 1 ≤ 2 := by simpa using hsub.length_le
  have hnumber := hseq.last_number
  rcases List.mem_cons.mp hmem with rfl | hmem
  · -- the first of the two announces more fragments
    exact absurd hlast (by decide)
  -- the other one is number 2, behind at most one fragment
  rw [List.mem_singleton.mp hmem] at hnumber
  have htwo : (bareFragment 0x0008 0x12 [3]).number = 2 := by decide
  omega

end MmIotEsp32.Umac.Datapath
