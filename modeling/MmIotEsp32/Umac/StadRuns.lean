/-
  MmIotEsp32.Umac.StadRuns

  Everything that happens to a STA record between its set-up and its removal.
-/
import MmIotEsp32.Umac.Ba.UmacBa
import MmIotEsp32.Umac.Datapath.DatapathTimeouts
import MmIotEsp32.Umac.Datapath.ReorderContents

namespace MmIotEsp32.Umac

open Lib Dot11 Keys Ba Datapath

/-! ## Steps -/

/-- What happens to a STA record. -/
inductive StadEvent where
  | rxDataFrame (rxbuf : Mmpkt)
  | rxBaFrame (frame : BytePtr) (frameLen : Nat)
  | sessionInit (tid : U8) (ssc timeout : U16)
  | sessionDeinit (tid : U8) (originator : Bool)
  | keysChanged (keys : ConnectionKeysData)
  | timeout (timeout : UmacTimeout)

def stadStep (env : UmacEnv) (u : UmacData) : StadEvent → Option UmacData
  | .rxDataFrame rxbuf => umacDatapathProcessRxDataFrame env u rxbuf
  | .rxBaFrame frame frameLen => umacBaProcessRxFrame env u frame frameLen
  | .sessionInit tid ssc timeout => some (umacBaSessionInit env u tid ssc timeout)
  | .sessionDeinit tid originator => some (umacBaSessionDeinit env u tid originator)
  | .keysChanged keys => some (u.setKeys keys)
  | .timeout timeout => fireTimeout env u timeout

/-! ## Block-ack frames -/

/-- Only sessions and their timers changed. -/
structure SessionsOnly (u u' : UmacData) : Prop where
  datapath : u'.stad.datapath = u.stad.datapath
  outdatedDrops : u'.outdatedDrops = u.outdatedDrops
  keys : u'.stad.keys = u.stad.keys
  rxLog : u'.rxLog = u.rxLog
  timeouts : ∀ t, isAddbaReqTimeout t = false → u'.timeouts.count t ≤ u.timeouts.count t

namespace SessionsOnly

theorem refl (u : UmacData) : SessionsOnly u u := ⟨rfl, rfl, rfl, rfl, fun _ _ => Nat.le_refl _⟩

theorem trans {u u' u'' : UmacData} (h : SessionsOnly u u') (h' : SessionsOnly u' u'') :
    SessionsOnly u u'' where
  datapath := h'.datapath.trans h.datapath
  outdatedDrops := h'.outdatedDrops.trans h.outdatedDrops
  keys := h'.keys.trans h.keys
  rxLog := h'.rxLog.trans h.rxLog
  timeouts := fun t ht => (h'.timeouts t ht).trans (h.timeouts t ht)

theorem ticked (u : UmacData) : SessionsOnly u u.ticked := ⟨rfl, rfl, rfl, rfl, fun _ _ => Nat.le_refl _⟩

theorem setSession (u : UmacData) (ptr : UmacBaSessionPtr) (session : UmacBaSession) :
    SessionsOnly u (setSession u ptr session) := ⟨rfl, rfl, rfl, rfl, fun _ _ => Nat.le_refl _⟩

theorem cancel (u : UmacData) (timeout : UmacTimeout) :
    SessionsOnly u (umacCoreCancelTimeout u timeout) :=
  ⟨rfl, rfl, rfl, rfl, fun _ _ => List.Sublist.count_le _ List.filter_sublist⟩

theorem registerRequest (env : UmacEnv) (u : UmacData) (ptr : UmacBaSessionPtr) :
    SessionsOnly u (umacCoreRegisterTimeout env u (.umacBaAddbaReqTimeoutHandler ptr)).1 := by
  unfold umacCoreRegisterTimeout
  split
  · refine ⟨rfl, rfl, rfl, rfl, fun t ht => ?_⟩
    rw [show (_ : UmacData × Bool).1.timeouts = .umacBaAddbaReqTimeoutHandler ptr :: u.timeouts
      from rfl, List.count_cons_of_ne]
    rintro rfl
    cases ht
  · exact .ticked u

theorem txAddbaResp (env : UmacEnv) (u : UmacData) (ptr : UmacBaSessionPtr) :
    SessionsOnly u (umacBaTxAddbaResp env u ptr) := by
  unfold umacBaTxAddbaResp umacDatapathBuildAndTxMgmtFrame
  dsimp only
  split
  · exact .ticked u
  · exact (ticked u).trans (.setSession _ _ _)

theorem rxAddbaReq (env : UmacEnv) (u : UmacData) (field : BytePtr) (fieldLen : Nat) :
    SessionsOnly u (umacBaRxAddbaReq env u field fieldLen) := by
  unfold umacBaRxAddbaReq umacDatapathBuildAndTxMgmtFrame
  dsimp only
  split
  · exact .refl u
  split
  · exact .ticked u
  split_ifs
  · exact .ticked u
  · exact .refl u
  · exact (setSession u _ _).trans (.ticked _)
  · exact (setSession u _ _).trans (.txAddbaResp env _ _)

theorem txAddbaReq (env : UmacEnv) (u : UmacData) (ptr : UmacBaSessionPtr) :
    SessionsOnly u (umacBaTxAddbaReq env u ptr) := by
  unfold umacBaTxAddbaReq umacDatapathBuildAndTxMgmtFrame
  dsimp only
  split
  · exact .ticked u
  · exact (ticked u).trans (.setSession _ _ _)

theorem addbaRespSession (env : UmacEnv) (u : UmacData) (tid : BaTid) (field : BytePtr) :
    SessionsOnly u (umacBaAddbaRespSession env u tid field) := by
  unfold umacBaAddbaRespSession umacDatapathBuildAndTxMgmtFrame
  dsimp only
  split_ifs
  · exact .refl u
  · exact .setSession u _ _
  · exact .ticked u
  · exact .setSession u _ _

theorem rxAddbaResp (env : UmacEnv) (u : UmacData) (field : BytePtr) (fieldLen : Nat) :
    SessionsOnly u (umacBaRxAddbaResp env u field fieldLen) := by
  unfold umacBaRxAddbaResp umacDatapathBuildAndTxMgmtFrame
  dsimp only
  split
  · exact .refl u
  split
  · exact .ticked u
  · next tid _ =>
      exact (cancel u (.umacBaAddbaReqTimeoutHandler (.originator tid))).trans
        (.addbaRespSession env _ tid field)

theorem sessionInit (env : UmacEnv) (u : UmacData) (tid : U8) (ssc timeout : U16) :
    SessionsOnly u (umacBaSessionInit env u tid ssc timeout) := by
  unfold umacBaSessionInit
  split
  · exact .refl u
  next i _ =>
    dsimp only
    split
    · exact .refl u
    generalize ({ u.stad.ba.originator i with
      tid := tid
      timeout := timeout
      dialogToken := env.random u.tick
      bufferSize := umacConfigGetDatapathRxReorderListMaxlen
      startingSeqCtrl := ssc
      attemptBackoff := _ } : UmacBaSession) = session
    have hset := (ticked u).trans (.setSession u.ticked (.originator i) session)
    exact (hset.trans (.txAddbaReq env _ (.originator i))).trans (.registerRequest env _ _)

theorem sessionDeinit (env : UmacEnv) (u : UmacData) (tid : U8) (originator : Bool) :
    SessionsOnly u (umacBaSessionDeinit env u tid originator) := by
  unfold umacBaSessionDeinit umacDatapathBuildAndTxMgmtFrame
  split
  · exact .refl u
  next i _ =>
    dsimp only
    generalize (if originator = true then UmacBaSessionPtr.originator i else .recipient i) = ptr
    split_ifs
    · exact .refl u
    · exact .ticked u
    · exact (ticked u).trans (.setSession _ _ _)

theorem addbaReqTimeoutHandler (env : UmacEnv) (u : UmacData) (ptr : UmacBaSessionPtr) :
    SessionsOnly u (umacBaAddbaReqTimeoutHandler env u ptr) := by
  unfold umacBaAddbaReqTimeoutHandler umacDatapathBuildAndTxMgmtFrame
  dsimp only
  split_ifs
  · exact .refl u
  · exact .ticked u
  · exact (ticked u).trans (.setSession _ _ _)

theorem erase (u : UmacData) (timeout : UmacTimeout) :
    SessionsOnly u { u with timeouts := u.timeouts.erase timeout } :=
  ⟨rfl, rfl, rfl, rfl, fun _ _ => List.Sublist.count_le _ List.erase_sublist⟩

end SessionsOnly

/-! ## The invariant rule -/

/-- A property that the sessions and their timers are no part of, kept by the receive path
and by the timeouts that it starts. -/
structure KeyedInvariant (env : UmacEnv) (P : UmacData → Prop) : Prop where
  sessions : ∀ {u u' : UmacData}, P u → SessionsOnly u u' → P u'
  rxDataFrame : ∀ {u u' : UmacData} {x : Mmpkt}, P u →
    umacDatapathProcessRxDataFrame env u x = some u' → P u'
  flushForTid : ∀ {u u' : UmacData} {tid : U16}, P u →
    umacDatapathFlushRxReorderListForTid env u tid = some u' → P u'
  reorderTimeout : ∀ {u u' : UmacData}, P u →
    umacDatapathRxReorderTimeoutHandler env u = some u' → P u'
  defragTimeout : ∀ {u : UmacData} {i : FragChainIdx}, P u →
    .datapathDefragTimeout i ∈ u.timeouts →
      P (datapathDefragTimeout { u with timeouts := u.timeouts.erase (.datapathDefragTimeout i) } i)

/-- One that the keys are no part of either. -/
structure StadInvariant (env : UmacEnv) (P : UmacData → Prop) : Prop
    extends KeyedInvariant env P where
  keys : ∀ {u : UmacData} (keys : ConnectionKeysData), P u → P (u.setKeys keys)

namespace KeyedInvariant

variable {env : UmacEnv} {P : UmacData → Prop} (hP : KeyedInvariant env P)
include hP

variable {u u' : UmacData}

theorem rxDelba {field : BytePtr} {fieldLen : Nat} (hu : P u)
    (heq : umacBaRxDelba env u field fieldLen = some u') : P u' := by
  rcases umacBaRxDelba_cases heq with rfl | ⟨ptr, tid, u₁, hflush, rfl⟩
  · exact hu
  · have hcancel := hP.sessions hu (.cancel u (.umacBaAddbaReqTimeoutHandler ptr))
    exact hP.sessions (hP.flushForTid hcancel hflush) (.setSession _ _ _)

theorem processRxFrame {frame : BytePtr} {frameLen : Nat} (hu : P u)
    (heq : umacBaProcessRxFrame env u frame frameLen = some u') : P u' := by
  unfold umacBaProcessRxFrame at heq
  dsimp only at heq
  split_ifs at heq
  · cases heq
    exact hP.sessions hu (.rxAddbaReq env u _ _)
  · cases heq
    exact hP.sessions hu (.rxAddbaResp env u _ _)
  · exact hP.rxDelba hu heq
  · cases heq
    exact hu

theorem fireTimeout {timeout : UmacTimeout} (hu : P u)
    (heq : fireTimeout env u timeout = some u') : P u' := by
  unfold Ba.fireTimeout at heq
  split at heq
  · next hpending =>
      cases timeout with
      | datapathDefragTimeout i =>
        cases heq
        exact hP.defragTimeout hu hpending
      | umacDatapathRxReorderTimeoutHandler =>
        exact hP.reorderTimeout (hP.sessions hu (.erase u _)) heq
      | umacBaAddbaReqTimeoutHandler ptr =>
        cases heq
        exact hP.sessions (hP.sessions hu (.erase u _)) (.addbaReqTimeoutHandler env _ ptr)
  · cases heq
    exact hu

theorem step {e : StadEvent} (hu : P u) (hkeys : ∀ keys, e ≠ .keysChanged keys)
    (heq : stadStep env u e = some u') : P u' := by
  cases e with
  | rxDataFrame rxbuf => exact hP.rxDataFrame hu heq
  | rxBaFrame frame frameLen => exact hP.processRxFrame hu heq
  | sessionInit tid ssc timeout =>
    cases heq
    exact hP.sessions hu (.sessionInit env u tid ssc timeout)
  | sessionDeinit tid originator =>
    cases heq
    exact hP.sessions hu (.sessionDeinit env u tid originator)
  | keysChanged keys => exact absurd rfl (hkeys keys)
  | timeout timeout => exact hP.fireTimeout hu heq

end KeyedInvariant

namespace StadInvariant

variable {env : UmacEnv} {P : UmacData → Prop} (hP : StadInvariant env P)
include hP

theorem step {u u' : UmacData} {e : StadEvent} (hu : P u) (heq : stadStep env u e = some u') :
    P u' := by
  by_cases hkeys : ∃ keys, e = .keysChanged keys
  · obtain ⟨keys, rfl⟩ := hkeys
    cases heq
    exact hP.keys keys hu
  · exact hP.toKeyedInvariant.step hu (fun keys he => hkeys ⟨keys, he⟩) heq

theorem throughout {u : UmacData} (hu : P u) (events : List StadEvent) :
    Throughout (stadStep env) P u events :=
  throughout_of_invariant (fun _ _ _ hv heq => hP.step hv heq) hu events

end StadInvariant

/-! ## The list of one TID -/

theorem stadInvariant_listOfTid (env : UmacEnv) :
    StadInvariant env (ListOfTid fun _ => True) where
  sessions := by
    intro u u' h hsame
    unfold ListOfTid at h ⊢
    rw [hsame.datapath]
    refine ⟨?_, by rw [hsame.datapath], by rw [hsame.datapath]; exact h.entries⟩
    unfold FragChainsOk
    rw [hsame.datapath]
    exact h.chains
  keys := fun _ h => ⟨h.chains, rfl, h.entries⟩
  rxDataFrame := fun h heq => h.processRxDataFrame trivial heq
  flushForTid := fun h heq => h.flushForTid heq
  reorderTimeout := fun h heq => .of_contents (h.timeoutHandler heq)
  defragTimeout := by
    intro u i h _
    refine ⟨h.chains.update rfl fun buf hbuf => ?_, rfl, h.entries⟩
    cases hbuf

/-! ## Chains and their timers -/

/-- The timer of a chain is pending at most once, and only while the chain holds a buffer. -/
def ChainTimers (u : UmacData) : Prop := ∀ i, ChainTimer u i

theorem ChainTimers.of_same {u u' : UmacData} (h : ChainTimers u)
    (hchains : u'.stad.datapath.fragChains = u.stad.datapath.fragChains)
    (htimeouts : ∀ t, isAddbaReqTimeout t = false → t ≠ .umacDatapathRxReorderTimeoutHandler →
      u'.timeouts.count t ≤ u.timeouts.count t) : ChainTimers u' := by
  intro i
  unfold ChainTimer
  rw [hchains]
  exact (htimeouts _ rfl (by simp)).trans (h i)

theorem ChainTimers.of_chainEffect {u u' : UmacData} {i : FragChainIdx} (h : ChainTimers u)
    (heffect : ChainEffect i u u') : ChainTimers u' := by
  intro j
  by_cases hji : j = i
  · rw [hji]
    exact heffect.timer (h i)
  -- the timers of the other chains are filtered alike
  have hcount : ∀ timeouts : List UmacTimeout, timeouts.count (.datapathDefragTimeout j)
      = (timeouts.filter (· ≠ .datapathDefragTimeout i)).count (.datapathDefragTimeout j) := by
    intro timeouts
    rw [List.count_filter]
    simpa using hji
  unfold ChainTimer
  rw [heffect.others j hji, hcount, heffect.timeouts, ← hcount]
  exact h j

theorem receiveInvariant_chainTimers (env : UmacEnv) : ReceiveInvariant env ChainTimers where
  handOn := by
    intro u u' x h heq
    have hsame : ∀ {v v' : UmacData}, SameTimeouts v v' → ChainTimers v → ChainTimers v' :=
      fun hsame hv => hv.of_same hsame.chains fun _ _ _ => by rw [hsame.timeouts]
    rcases afterReorder_reassembly heq with hall | ⟨v, v', i, hbefore, heffect, hafter⟩
    · exact hsame hall h
    · exact hsame hafter ((hsame hbefore h).of_chainEffect heffect)
  list := fun _ h => h
  listTid := fun _ h => h
  ticked := fun h => h
  timeout := by
    intro u h
    refine h.of_same (by rw [umacCoreRegisterTimeout_stad]) fun t _ hother => ?_
    unfold umacCoreRegisterTimeout
    split
    · exact (List.count_cons_of_ne hother.symm).le
    · exact Nat.le_refl _
  outdated := fun _ h => h

theorem stadInvariant_chainTimers (env : UmacEnv) : StadInvariant env ChainTimers where
  sessions := fun h hsame => h.of_same (by rw [hsame.datapath]) fun t ht _ => hsame.timeouts t ht
  keys := fun _ h => h
  rxDataFrame := fun h heq => (receiveInvariant_chainTimers env).processRxDataFrame h heq
  flushForTid := fun h heq => (receiveInvariant_chainTimers env).flushForTid h heq
  reorderTimeout := fun h heq => (receiveInvariant_chainTimers env).timeoutHandler h heq
  defragTimeout := by
    intro u i h hpending j
    unfold ChainTimer
    show (u.timeouts.erase _).count _
      ≤ if (Function.update u.stad.datapath.fragChains i _ j).buf.isSome then 1 else 0
    by_cases hji : j = i
    · have htimer := h i
      unfold ChainTimer at htimer
      rw [hji, Function.update_self, List.count_erase_self]
      split at htimer <;> simp only [DatapathDefragDataChain.release] <;> simp <;> omega
    have hne : (UmacTimeout.datapathDefragTimeout j) ≠ .datapathDefragTimeout i := by
      intro heq
      injection heq with heq
      exact hji heq
    rw [Function.update_of_ne hji, List.count_erase_of_ne hne]
    exact h j

end MmIotEsp32.Umac
