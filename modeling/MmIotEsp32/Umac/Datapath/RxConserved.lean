/-
  MmIotEsp32.Umac.Datapath.RxConserved

  No packet of the receive path is lost, and none is released twice.

  A function that is given a packet has it in its hand until it puts it somewhere.  `Holding` is
  the account with the packets in hand, and there is one lemma a function that says what is in hand
  before and after it.
-/
import MmIotEsp32.Umac.Ba.BaWindow
import MmIotEsp32.Umac.Datapath.RxOwners

namespace MmIotEsp32.Umac.Datapath

open Lib Dot11 Keys Ba

/-! ## The account -/

/-- In how many places a packet is. -/
def RxOwners.places (s : RxOwners) (id : PktId) : Nat :=
  (s.rxq.map RxPkt.id).count id + (s.rxReorderList.map RxPkt.id).count id
    + slotCount s.fragChains id + s.released.count id + s.delivered.count id

/-- Every packet is in hand or in one place. -/
def Holding (hand : List PktId) (s : RxOwners) : Prop :=
  Accounted (fun id => hand.count id + s.places id) s.issued

/-- Every packet that was received or allocated is in the queue, on the reorder list, in one
fragment chain, delivered, or released, and in one of these once. -/
def RxConserved (s : RxOwners) : Prop := Accounted s.places s.issued

theorem rxConserved_iff {s : RxOwners} : RxConserved s ↔ Holding [] s := by
  unfold RxConserved Holding
  simp only [List.count_nil, Nat.zero_add]

theorem rxConserved_init : RxConserved rxOwnersInit := by
  intro id
  show 0 + 0 + slotCount (fun _ => none) id + 0 + 0 = if id < 0 then 1 else 0
  rw [slotCount_empty, if_neg (Nat.not_lt_zero id)]

namespace RxOwners

variable (s : RxOwners) (a : PktId)

theorem places_release (id : PktId) :
    (s.release id).places a = [id].count a + s.places a := by
  simp only [places, release, count_cons_eq a id s.released]
  omega

theorem places_deliver (id : PktId) :
    (s.deliver id).places a = [id].count a + s.places a := by
  simp only [places, deliver, count_cons_eq a id s.delivered]
  omega

theorem places_setRxReorderList (l : List RxPkt) :
    (s.setRxReorderList l).places a + (s.rxReorderList.map RxPkt.id).count a
      = s.places a + (l.map RxPkt.id).count a := by
  simp only [places, setRxReorderList]
  omega

variable {s} in
theorem places_clearChain {i : FragChainIdx} {id : PktId} (hfull : s.fragChains i = some id) :
    s.places a = [id].count a + (s.clearChain i).places a := by
  simp only [places, clearChain, slotCount_clear hfull a]
  omega

variable {s} in
theorem places_allocChain {i : FragChainIdx} (hempty : s.fragChains i = none) :
    (s.allocChain i).places a = [s.issued].count a + s.places a := by
  simp only [places, allocChain, slotCount_fill hempty a s.issued]
  omega

theorem releaseChain_self (i : FragChainIdx) : (s.releaseChain i).fragChains i = none := by
  unfold releaseChain
  split
  · assumption
  · exact Function.update_self ..

theorem releaseChain_list (i : FragChainIdx) :
    (s.releaseChain i).rxReorderList = s.rxReorderList := by
  unfold releaseChain
  split <;> rfl

end RxOwners

namespace Holding

variable {hand : List PktId} {s : RxOwners} {id : PktId} {i : FragChainIdx}

theorem umac (h : Holding hand s) (u : UmacData) : Holding hand { s with umac := u } := h

theorem release (h : Holding (id :: hand) s) : Holding hand (s.release id) := by
  refine h.move fun a => ?_
  rw [s.places_release a id, count_cons_eq a id hand]
  omega

theorem deliver (h : Holding (id :: hand) s) : Holding hand (s.deliver id) := by
  refine h.move fun a => ?_
  rw [s.places_deliver a id, count_cons_eq a id hand]
  omega

theorem setRxReorderList {l : List RxPkt} (h : Holding (id :: hand) s)
    (hl : (l.map RxPkt.id).Perm (id :: s.rxReorderList.map RxPkt.id)) :
    Holding hand (s.setRxReorderList l) := by
  refine h.move fun a => ?_
  have hplaces := s.places_setRxReorderList a l
  rw [hl.count_eq a, count_cons_eq a id] at hplaces
  rw [count_cons_eq a id hand]
  omega

theorem dequeue {x : RxPkt} {rest : List RxPkt} (h : Holding hand s)
    (hl : s.rxReorderList = x :: rest) : Holding (x.id :: hand) (s.setRxReorderList rest) := by
  refine h.move fun a => ?_
  have hplaces := s.places_setRxReorderList a rest
  rw [hl, List.map_cons, count_cons_eq a x.id] at hplaces
  rw [count_cons_eq a x.id hand]
  omega

theorem clearChain (h : Holding hand s) (hfull : s.fragChains i = some id) :
    Holding (id :: hand) (s.clearChain i) := by
  refine h.move fun a => ?_
  rw [RxOwners.places_clearChain a hfull, count_cons_eq a id hand]
  omega

theorem releaseChain (h : Holding hand s) (i : FragChainIdx) : Holding hand (s.releaseChain i) := by
  unfold RxOwners.releaseChain
  split
  · exact h
  · rename_i id hfull
    exact (h.clearChain hfull).release

theorem allocChain (h : Holding hand s) (hempty : s.fragChains i = none) :
    Holding hand (s.allocChain i) := by
  refine h.issue fun a => ?_
  rw [RxOwners.places_allocChain a hempty]
  omega

theorem swap {id' : PktId} (h : Holding (id :: id' :: hand) s) :
    Holding (id' :: id :: hand) s := by
  refine h.move fun a => ?_
  rw [(List.Perm.swap id id' hand).count_eq a]

end Holding

/-! ## One frame -/

/-- A function that is given a packet, and keeps the reorder list. -/
structure Disposes (id : PktId) (s s' : RxOwners) : Prop where
  list : s'.rxReorderList = s.rxReorderList
  holding : ∀ {hand : List PktId}, Holding (id :: hand) s → Holding hand s'

theorem disposes_release (s : RxOwners) (id : PktId) : Disposes id s (s.release id) :=
  ⟨rfl, fun h => h.release⟩

/-- One that may return a packet. -/
structure Trades (id : PktId) (s s' : RxOwners) (ret : Option (RxPkt × BytePtr)) : Prop where
  list : s'.rxReorderList = s.rxReorderList
  holding : ∀ {hand : List PktId}, Holding (id :: hand) s →
    Holding ((ret.map fun r => r.1.id).toList ++ hand) s'

theorem Disposes.trades {id : PktId} {s s' : RxOwners} (h : Disposes id s s') :
    Trades id s s' none := ⟨h.list, h.holding⟩

namespace Owners

variable {env : UmacEnv} {s s' : RxOwners} {hdr : BytePtr}

theorem datapathDefragStart_holding {i : FragChainIdx}
    (heq : datapathDefragStart env s i hdr = some s') :
    s'.rxReorderList = s.rxReorderList ∧ ∀ {hand}, Holding hand s → Holding hand s' := by
  obtain ⟨u, -, rfl⟩ := Option.map_eq_some_iff.mp heq
  dsimp only
  split
  · exact ⟨s.releaseChain_list i, fun h => h.releaseChain i⟩
  · exact ⟨s.releaseChain_list i,
      fun h => (h.releaseChain i).allocChain (s.releaseChain_self i)⟩

theorem datapathDefragContinue_trades {i : FragChainIdx} {rxbuf : RxPkt}
    {ret : Option (RxPkt × BytePtr)} (heq : datapathDefragContinue s i hdr rxbuf = some (s', ret)) :
    Trades rxbuf.id s s' ret := by
  have hdrop : ∀ {s' ret}, some (s.release rxbuf.id, none) = some (s', ret) →
      Trades rxbuf.id s s' ret := by
    intro s' ret h
    cases h
    exact (disposes_release s rxbuf.id).trades
  unfold datapathDefragContinue at heq
  dsimp only at heq
  split at heq
  · rename_i buf bufId hbuf hid
    split at heq
    · exact hdrop heq
    split at heq
    · exact hdrop heq
    split at heq
    · -- no room: both packets are released
      cases heq
      exact ⟨s.releaseChain_list i, fun h => (h.releaseChain i).release⟩
    split at heq
    · cases heq
      exact ⟨rfl, fun h => h.release⟩
    -- the last fragment: the buffer is in hand instead of the packet
    obtain ⟨⟨u, ret'⟩, hcomplete, hret⟩ := Option.map_eq_some_iff.mp heq
    cases hret
    obtain ⟨pkt, hdr', rfl⟩ : ∃ pkt hdr', ret' = some (pkt, hdr') := by
      unfold datapathDefragComplete at hcomplete
      dsimp only at hcomplete
      split at hcomplete
      · cases hcomplete
      · split at hcomplete
        · cases hcomplete
        · exact ⟨_, _, (Prod.mk.inj (Option.some.inj hcomplete)).2.symm⟩
    exact ⟨rfl, fun h => (h.clearChain hid).swap.release⟩
  · exact hdrop heq

theorem datapathDefrag_trades {rxbuf : RxPkt} {tidIdx : U8} {ret : Option (RxPkt × BytePtr)}
    (heq : datapathDefrag env s hdr rxbuf tidIdx = some (s', ret)) : Trades rxbuf.id s s' ret := by
  unfold datapathDefrag at heq
  split at heq
  · -- not a fragment: it is returned as it came
    cases heq
    exact ⟨rfl, fun h => h⟩
  split at heq
  · cases heq
    exact (disposes_release s rxbuf.id).trades
  rename_i i _
  split at heq
  · obtain ⟨s₁, hstart, hcont⟩ := Option.bind_eq_some_iff.mp heq
    obtain ⟨hlist, hholding⟩ := datapathDefragStart_holding hstart
    have htrades := datapathDefragContinue_trades hcont
    exact ⟨htrades.list.trans hlist, fun h => htrades.holding (hholding h)⟩
  · exact datapathDefragContinue_trades heq

theorem rxDeliver_disposes {tidIndex : U8} {view : RxPkt}
    (heq : rxDeliver env s hdr tidIndex view = some s') : Disposes view.id s s' := by
  obtain ⟨u, -, rfl⟩ := Option.map_eq_some_iff.mp heq
  split
  · exact ⟨rfl, fun h => Holding.deliver h⟩
  · exact ⟨rfl, fun h => Holding.release h⟩

theorem rxReassemble_disposes {tidIndex : U8} {view : RxPkt}
    (heq : rxReassemble env s hdr tidIndex view = some s') : Disposes view.id s s' := by
  unfold rxReassemble at heq
  split at heq
  · split at heq
    · cases heq
      exact disposes_release s view.id
    split at heq
    · cases heq
      exact disposes_release s view.id
    · exact rxDeliver_disposes heq
  split at heq
  · exact nomatch heq
  · -- kept in a chain, or dropped
    rename_i s₁ hdefrag
    cases heq
    have htrades := datapathDefrag_trades hdefrag
    exact ⟨htrades.list, htrades.holding⟩
  rename_i s₁ view' hdr' hdefrag
  have htrades := datapathDefrag_trades hdefrag
  have hdisposes := rxDeliver_disposes heq
  exact ⟨hdisposes.list.trans htrades.list,
    fun h => hdisposes.holding (htrades.holding h)⟩

variable {x : RxPkt}

theorem afterReorder_disposes (heq : umacDatapathProcessRxDataFrameAfterReorder env s x = some s') :
    Disposes x.id s s' := by
  unfold umacDatapathProcessRxDataFrameAfterReorder at heq
  dsimp only at heq
  split at heq
  · exact nomatch heq
  split at heq
  · exact nomatch heq
  split at heq
  · cases heq
    exact ⟨rfl, fun h => Holding.release h⟩
  · have hreassemble := rxReassemble_disposes heq
    exact ⟨hreassemble.list, hreassemble.holding⟩

/-! ## The reorder list -/

variable {hand : List PktId}

theorem flushLoop_holding {l : List RxPkt} (hl : s.rxReorderList = l) (h : Holding hand s)
    (heq : flushRxReorderLoop env l s = some s') : Holding hand s' := by
  induction l generalizing s with
  | nil =>
    obtain rfl : s = s' := Option.some.inj heq
    exact h
  | cons x rest ih =>
    obtain ⟨s₁, hx, hrest⟩ := Option.bind_eq_some_iff.mp heq
    have hdisposes := afterReorder_disposes hx
    exact ih hdisposes.list (hdisposes.holding (h.dequeue hl)) hrest

theorem flush_holding (h : Holding hand s)
    (heq : umacDatapathFlushRxReorderList env s = some s') : Holding hand s' :=
  flushLoop_holding rfl h heq

theorem flushForTid_holding {tid : U16} (h : Holding hand s)
    (heq : umacDatapathFlushRxReorderListForTid env s tid = some s') : Holding hand s' := by
  unfold umacDatapathFlushRxReorderListForTid at heq
  split at heq
  · obtain rfl : s = s' := Option.some.inj heq
    exact h
  · obtain ⟨s₁, hfirst, hsecond⟩ := Option.bind_eq_some_iff.mp heq
    exact flush_holding (flush_holding h hfirst) hsecond

theorem evaluateLoop_holding {l : List RxPkt} (hl : s.rxReorderList = l) (h : Holding hand s)
    (heq : evaluateRxReorderLoop env l s = some s') : Holding hand s' := by
  induction l generalizing s with
  | nil =>
    obtain rfl : s = s' := Option.some.inj heq
    exact h
  | cons x rest ih =>
    unfold evaluateRxReorderLoop at heq
    split at heq
    · cases heq
      exact h
    rename_i u _
    obtain ⟨s₁, hx, hrest⟩ := Option.bind_eq_some_iff.mp heq
    have hdisposes := afterReorder_disposes hx
    exact ih hdisposes.list (hdisposes.holding ((h.umac u).dequeue hl)) hrest

theorem evaluate_holding (h : Holding hand s)
    (heq : umacDatapathEvaluateRxReorderList env s = some s') : Holding hand s' :=
  evaluateLoop_holding rfl h heq

theorem timeoutHandler_holding (h : Holding hand s)
    (heq : umacDatapathRxReorderTimeoutHandler env s = some s') : Holding hand s' := by
  obtain ⟨s₁, heval, rfl⟩ := Option.map_eq_some_iff.mp heq
  split
  · exact evaluate_holding h heval
  · exact (evaluate_holding h heval).umac _

theorem reorderInsertWalk_perm {seqCtrl : U16} {list l : List RxPkt}
    (heq : reorderInsertWalk x seqCtrl list = some (some l)) : l.Perm (x :: list) := by
  induction list generalizing l with
  | nil => exact nomatch heq
  | cons walk rest ih =>
    cases rest with
    | nil =>
      cases heq
      exact .swap x walk []
    | cons next rest =>
      unfold reorderInsertWalk at heq
      dsimp only at heq
      split at heq
      · exact nomatch heq
      split at heq
      · cases heq
        exact .swap x walk (next :: rest)
      · obtain ⟨o, hwalk, ho⟩ := Option.map_eq_some_iff.mp heq
        obtain ⟨l', rfl, rfl⟩ := Option.map_eq_some_iff.mp ho
        exact ((ih hwalk).cons walk).trans (.swap x walk (next :: rest))

theorem insert_holding {seqCtrl : U16} (h : Holding (x.id :: hand) s)
    (heq : reorderInsert env s x seqCtrl = some s') : Holding hand s' := by
  unfold reorderInsert at heq
  split at heq
  · exact nomatch heq
  · cases heq
    exact h.release
  · rename_i l hwalk
    exact evaluate_holding (h.setRxReorderList ((reorderInsertWalk_perm hwalk).map RxPkt.id)) heq

theorem add_holding {seqCtrl : U16} {maxlen : U8} (h : Holding (x.id :: hand) s)
    (heq : umacDatapathAddRxMpduToReorderList env s x seqCtrl maxlen = some s') :
    Holding hand s' := by
  unfold umacDatapathAddRxMpduToReorderList at heq
  dsimp only at heq
  split at heq
  · -- the list is empty
    rename_i hnil
    cases heq
    refine Holding.setRxReorderList (h.umac _) ?_
    show List.Perm [x.id] (x.id :: s.rxReorderList.map RxPkt.id)
    rw [hnil]
    exact .refl _
  rename_i head rest hlist
  split at heq
  · cases heq
    exact h.release
  split at heq
  · split at heq
    · cases heq
      exact h.release
    cases heq
    refine h.setRxReorderList ?_
    rw [hlist]
    exact .refl _
  split at heq
  · -- the list is full: its head makes room
    obtain ⟨s₁, hhead, hinsert⟩ := Option.bind_eq_some_iff.mp heq
    exact insert_holding ((afterReorder_disposes hhead).holding (h.dequeue hlist)) hinsert
  · exact insert_holding h heq

theorem claim_holding {tidIndex : U8} (h : Holding hand s)
    (heq : rxReorderClaim env s tidIndex = some s') : Holding hand s' := by
  unfold rxReorderClaim at heq
  split at heq
  · obtain ⟨s₁, hflush, rfl⟩ := Option.map_eq_some_iff.mp heq
    exact (flush_holding h hflush).umac _
  · obtain rfl : s = s' := Option.some.inj heq
    exact h

/-! ## A received data frame -/

theorem rxReorder_holding {tidIndex reorderBufSize : U8} (h : Holding (x.id :: hand) s)
    (heq : rxReorder env s x tidIndex reorderBufSize = some s') : Holding hand s' := by
  unfold rxReorder at heq
  dsimp only at heq
  split at heq
  · exact (afterReorder_disposes heq).holding h
  split at heq
  · obtain ⟨s₁, hx, heval⟩ := Option.bind_eq_some_iff.mp heq
    exact evaluate_holding ((afterReorder_disposes hx).holding h) heval
  split at heq
  · cases heq
    exact Holding.release h
  · exact add_holding h heq

theorem processRxDataFrame_holding (h : Holding (x.id :: hand) s)
    (heq : umacDatapathProcessRxDataFrame env s x = some s') : Holding hand s' := by
  unfold umacDatapathProcessRxDataFrame at heq
  dsimp only at heq
  split at heq
  · cases heq
    exact h.release
  split at heq
  · cases heq
  split at heq
  · exact (afterReorder_disposes heq).holding h
  · obtain ⟨s₁, hclaim, hreorder⟩ := Option.bind_eq_some_iff.mp heq
    exact rxReorder_holding (claim_holding h hclaim) hreorder

theorem processRxFrame_holding (h : Holding (x.id :: hand) s)
    (heq : umacDatapathProcessRxFrame env s x = some s') : Holding hand s' := by
  unfold umacDatapathProcessRxFrame at heq
  split at heq
  · cases heq
    exact h.release
  · exact processRxDataFrame_holding h heq

theorem rxFrame_conserved {rxbuf : Mmpkt} (h : RxConserved s)
    (heq : umacDatapathRxFrame env s rxbuf = some s') : RxConserved s' := by
  obtain ⟨⟨u, dropFrame⟩, -, rfl⟩ := Option.map_eq_some_iff.mp heq
  dsimp only
  split
  · exact Accounted.issue h fun a =>
      RxOwners.places_release { s with umac := u, issued := s.issued + 1 } a s.issued
  · refine Accounted.issue h fun a => ?_
    simp only [RxOwners.places, List.map_append, List.map_cons, List.map_nil, List.count_append]
    omega

theorem processRx_conserved {rxq : List RxPkt} (h : RxConserved s) (hq : s.rxq = x :: rxq)
    (heq : umacDatapathProcessRxFrame env { s with rxq := rxq } x = some s') : RxConserved s' := by
  refine rxConserved_iff.mpr (processRxFrame_holding (s := { s with rxq := rxq }) ?_ heq)
  refine Accounted.move h fun a => ?_
  simp only [RxOwners.places, hq, List.map_cons, count_cons_eq a x.id (rxq.map RxPkt.id)]
  omega

/-! ## The other events -/

theorem rxDelba_holding {field : BytePtr} {fieldLen : Nat} (h : Holding hand s)
    (heq : umacBaRxDelba env s field fieldLen = some s') : Holding hand s' := by
  have hsame : ∀ {s'}, some s = some s' → Holding hand s' := by
    intro s' hs
    cases hs
    exact h
  unfold umacBaRxDelba at heq
  dsimp only at heq
  split at heq
  · exact hsame heq
  split at heq
  · exact hsame heq
  split at heq
  all_goals
    split at heq
    · exact hsame heq
    · obtain ⟨s₁, hflush, rfl⟩ := Option.map_eq_some_iff.mp heq
      exact (flushForTid_holding (h.umac _) hflush).umac _

theorem baProcessRxFrame_holding {frame : BytePtr} {frameLen : Nat} (h : Holding hand s)
    (heq : umacBaProcessRxFrame env s frame frameLen = some s') : Holding hand s' := by
  unfold umacBaProcessRxFrame at heq
  split at heq
  · exact rxDelba_holding h heq
  · obtain ⟨u, -, rfl⟩ := Option.map_eq_some_iff.mp heq
    exact h

theorem defragDeinit_holding (h : Holding hand s) : Holding hand (datapathDefragDeinit s) := by
  unfold datapathDefragDeinit
  induction List.finRange maxFragChains generalizing s with
  | nil => exact h
  | cons i rest ih => exact ih ((h.releaseChain i).umac _)

theorem stadFlush_holding (h : Holding hand s)
    (heq : umacDatapathStadFlush env s = some s') : Holding hand s' := by
  obtain ⟨s₁, hflush, rfl⟩ := Option.map_eq_some_iff.mp heq
  exact (defragDeinit_holding (flush_holding h hflush)).umac _

theorem fireTimeout_holding {timeout : UmacTimeout} (h : Holding hand s)
    (heq : fireTimeout env s timeout = some s') : Holding hand s' := by
  unfold fireTimeout at heq
  dsimp only at heq
  split at heq
  · split at heq
    · rename_i i _
      cases heq
      exact ((h.umac _).releaseChain i).umac _
    · exact timeoutHandler_holding (h.umac _) heq
    · cases heq
      exact h
  · cases heq
    exact h

end Owners

/-! ## Runs -/

/-- The record of the station holds no packet. -/
def RecordEmpty (s : RxOwners) : Prop := s.rxReorderList = [] ∧ ∀ i, s.fragChains i = none

/-- A record that is removed holds no packet. -/
def RemovesEmpty (s : RxOwners) (e : RxEvent) : Prop := e = .apRemoveSta → RecordEmpty s

theorem apRemoveSta_conserved_iff {s : RxOwners} (h : RxConserved s) :
    RxConserved (Owners.umacApRemoveSta s) ↔ RecordEmpty s := by
  -- what was accounted for before has to be in the places that are left
  have hplaces : ∀ id, s.places id = (Owners.umacApRemoveSta s).places id
      + (s.rxReorderList.map RxPkt.id).count id + slotCount s.fragChains id := by
    intro id
    simp only [RxOwners.places, Owners.umacApRemoveSta, List.map_nil, List.count_nil,
      slotCount_empty]
    omega
  constructor
  · intro h'
    have hzero : ∀ id, (s.rxReorderList.map RxPkt.id).count id = 0
        ∧ slotCount s.fragChains id = 0 := by
      intro id
      have hsame : (Owners.umacApRemoveSta s).places id = s.places id := (h' id).trans (h id).symm
      have := hplaces id
      omega
    refine ⟨?_, fun i => ?_⟩
    · rw [← List.map_eq_nil_iff (f := RxPkt.id)]
      exact List.eq_nil_iff_forall_not_mem.mpr fun id => List.count_eq_zero.mp (hzero id).1
    by_contra hfull
    obtain ⟨id, hid⟩ := Option.ne_none_iff_exists'.mp hfull
    have hcount := slotCount_clear hid id
    rw [(hzero id).2, List.count_singleton_self] at hcount
    omega
  rintro ⟨hlist, hchains⟩
  refine Accounted.move h fun id => ?_
  rw [hplaces id, hlist, funext hchains, slotCount_empty, List.map_nil, List.count_nil]
  rfl

theorem rxOwnersStep_conserved_iff {env : UmacEnv} {s s' : RxOwners} {e : RxEvent}
    (h : RxConserved s) (heq : rxOwnersStep env s e = some s') :
    RxConserved s' ↔ RemovesEmpty s e := by
  have hkept : e ≠ .apRemoveSta → RxConserved s' → (RxConserved s' ↔ RemovesEmpty s e) :=
    fun hne h' => iff_of_true h' fun he => absurd he hne
  cases e with
  | rxFrame rxbuf => exact hkept nofun (Owners.rxFrame_conserved h heq)
  | processRx =>
    refine hkept nofun ?_
    simp only [rxOwnersStep] at heq
    split at heq
    · cases heq
      exact h
    · rename_i x rxq hq
      exact Owners.processRx_conserved h hq heq
  | rxBaFrame frame frameLen =>
    exact hkept nofun (rxConserved_iff.mpr
      (Owners.baProcessRxFrame_holding (rxConserved_iff.mp h) heq))
  | sessionInit tid ssc timeout | sessionDeinit tid originator | keysChanged keys =>
    cases heq
    exact hkept nofun h
  | timeout timeout =>
    exact hkept nofun (rxConserved_iff.mpr
      (Owners.fireTimeout_holding (rxConserved_iff.mp h) heq))
  | freedTimeout timeout =>
    simp only [rxOwnersStep] at heq
    split at heq
    · exact nomatch heq
    · cases heq
      exact hkept nofun h
  | stadFlush =>
    exact hkept nofun (rxConserved_iff.mpr
      (Owners.stadFlush_holding (rxConserved_iff.mp h) heq))
  | apRemoveSta =>
    cases heq
    exact (apRemoveSta_conserved_iff h).trans ⟨fun hempty _ => hempty, fun hempty => hempty rfl⟩

/-- In every run, the packets are conserved throughout if and only if every record that
`umac_ap_remove_sta` removes is one that holds no packet. -/
theorem rx_packets_conserved_iff (env : UmacEnv) (events : List RxEvent) :
    Throughout (rxOwnersStep env) RxConserved rxOwnersInit events
      ↔ Along (rxOwnersStep env) RemovesEmpty rxOwnersInit events := by
  refine throughout_iff_along_of_keeps (fun s e h => ?_) rxConserved_init events
  constructor
  · intro hkeeps he
    -- a removal always comes back
    subst he
    exact (@rxOwnersStep_conserved_iff env _ _ _ h rfl).mp (hkeeps _ rfl) rfl
  · intro hempty s' hs'
    exact (rxOwnersStep_conserved_iff h hs').mpr hempty

/-- A request of the peer for a block-ack session, as the datapath receives it. -/
def addbaReqFrame : BytePtr :=
  fun i => if i < sizeofDot11Hdr then 0 else addbaReq 0 (i - sizeofDot11Hdr)

/-- A station sets up a session and sends a frame that is ahead of the expected one. -/
def aheadEvents : List RxEvent :=
  [.rxBaFrame addbaReqFrame 33, .rxFrame (qosMpdu ⟨0, umacBaMaxSessions_pos⟩ 0x20), .processRx]

/-- The frame on the reorder list is lost with the record of its station. -/
theorem removed_sta_loses_packet :
    ¬ ∀ (env : UmacEnv) (events : List RxEvent),
      Throughout (rxOwnersStep env) RxConserved rxOwnersInit events := by
  intro h
  have halong := (rx_packets_conserved_iff openEnv (aheadEvents ++ [.apRemoveSta])).mp
    (h openEnv (aheadEvents ++ [.apRemoveSta]))
  have hlist : (runFrom (rxOwnersStep openEnv) rxOwnersInit aheadEvents).map
      (fun s => s.rxReorderList.length) = some 1 := by decide +kernel
  obtain ⟨s, hrun, hlength⟩ := Option.map_eq_some_iff.mp hlist
  have hempty := (halong.last hrun rfl).1
  rw [hempty] at hlength
  exact nomatch hlength

end MmIotEsp32.Umac.Datapath
