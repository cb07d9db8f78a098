/-
  MmIotEsp32.Umac.Datapath.DatapathTimeouts

  What the receive path does to the timeouts of a STA record.
-/
import MmIotEsp32.Umac.Datapath.Reorder

namespace MmIotEsp32.Umac.Datapath

open Dot11 Keys Ba SupplicantShim Function

/-! ## One chain and its timer -/

/-- A chain has at most one timer pending, and none without a buffer. -/
def ChainTimer (u : UmacData) (i : FragChainIdx) : Prop :=
  u.timeouts.count (.datapathDefragTimeout i)
    ≤ if (u.stad.datapath.fragChains i).buf.isSome then 1 else 0

/-- At most the chain `i` and its timer changed. -/
structure ChainEffect (i : FragChainIdx) (u u' : UmacData) : Prop where
  ba : u'.stad.ba = u.stad.ba
  list : u'.stad.datapath.rxReorderList = u.stad.datapath.rxReorderList
  others : ∀ j, j ≠ i → u'.stad.datapath.fragChains j = u.stad.datapath.fragChains j
  timeouts : u'.timeouts.filter (· ≠ .datapathDefragTimeout i)
    = u.timeouts.filter (· ≠ .datapathDefragTimeout i)
  timer : ChainTimer u i → ChainTimer u' i

theorem ChainEffect.refl (i : FragChainIdx) (u : UmacData) : ChainEffect i u u :=
  ⟨rfl, rfl, fun _ _ => rfl, rfl, id⟩

variable {i : FragChainIdx}

theorem ChainEffect.trans {u u' u'' : UmacData} (h : ChainEffect i u u')
    (h' : ChainEffect i u' u'') : ChainEffect i u u'' where
  ba := h'.ba.trans h.ba
  list := h'.list.trans h.list
  others := fun j hj => (h'.others j hj).trans (h.others j hj)
  timeouts := h'.timeouts.trans h.timeouts
  timer := fun htimer => h'.timer (h.timer htimer)

theorem chainEffect_release (u : UmacData) (i : FragChainIdx) :
    ChainEffect i u (umacCoreCancelTimeout (u.setFragChain i (u.stad.datapath.fragChains i).release)
      (.datapathDefragTimeout i)) := by
  refine ⟨rfl, rfl, fun j hj => update_of_ne hj _ _, ?_, fun _ => ?_⟩
  · show (u.timeouts.filter _).filter _ = _
    rw [List.filter_filter]
    simp
  · show (u.timeouts.filter _).count _ ≤ _
    rw [List.count_eq_zero_of_not_mem (by simp)]
    exact Nat.zero_le _

theorem chainEffect_setFragChain (u : UmacData) (i : FragChainIdx)
    {chain : DatapathDefragDataChain}
    (hchain : (u.stad.datapath.fragChains i).buf.isSome = chain.buf.isSome) :
    ChainEffect i u (u.setFragChain i chain) := by
  refine ⟨rfl, rfl, fun j hj => update_of_ne hj _ _, rfl, fun htimer => ?_⟩
  unfold ChainTimer at htimer ⊢
  rw [hchain] at htimer
  show _ ≤ if (update u.stad.datapath.fragChains i chain i).buf.isSome then 1 else 0
  rw [update_self]
  exact htimer

theorem chainEffect_startTimer (env : UmacEnv) (u : UmacData) (i : FragChainIdx)
    {chain : DatapathDefragDataChain} (hchain : chain.buf.isSome = true)
    (hnone : .datapathDefragTimeout i ∉ u.timeouts) :
    ChainEffect i u
      (umacCoreRegisterTimeout env (u.setFragChain i chain) (.datapathDefragTimeout i)).1 := by
  have hset : ∀ timeouts, timeouts.count (.datapathDefragTimeout i) ≤ 1 →
      ChainTimer { (u.setFragChain i chain).ticked with timeouts := timeouts } i := by
    intro timeouts hcount
    show _ ≤ if (update u.stad.datapath.fragChains i chain i).buf.isSome then 1 else 0
    rw [update_self, if_pos hchain]
    exact hcount
  have hzero := List.count_eq_zero_of_not_mem hnone
  unfold umacCoreRegisterTimeout
  split
  · refine ⟨rfl, rfl, fun j hj => update_of_ne hj _ _, ?_, fun _ => ?_⟩
    · exact List.filter_cons_of_neg (by simp)
    apply hset
    rw [List.count_cons_self]
    show u.timeouts.count _ + 1 ≤ 1
    omega
  · refine ⟨rfl, rfl, fun j hj => update_of_ne hj _ _, rfl, fun _ => ?_⟩
    exact hset u.timeouts (by omega)

variable {u u' : UmacData} {env : UmacEnv}

theorem chainEffect_datapathDefragInitBuffer
    (heq : datapathDefragInitBuffer env u i = some u') : ChainEffect i u u' := by
  have hrelease := chainEffect_release u i
  have hnone : .datapathDefragTimeout i ∉ (umacCoreCancelTimeout
      (u.setFragChain i (u.stad.datapath.fragChains i).release)
        (.datapathDefragTimeout i)).timeouts := by
    simp [umacCoreCancelTimeout]
  unfold datapathDefragInitBuffer at heq
  dsimp only at heq
  generalize umacCoreCancelTimeout _ _ = released at heq hrelease hnone
  have hticked : ChainEffect i u released.ticked :=
    hrelease.trans ⟨rfl, rfl, fun _ _ => rfl, rfl, id⟩
  split at heq
  · cases heq
    exact hticked
  split at heq
  · cases heq
  · cases heq
    exact hticked.trans (chainEffect_startTimer env released.ticked i rfl hnone)

/-! ## Reassembly -/

variable {hdr : BytePtr}

theorem chainEffect_datapathDefragStart
    (heq : datapathDefragStart env u i hdr = some u') : ChainEffect i u u' := by
  obtain ⟨u₁, hinit, rfl⟩ := Option.map_eq_some_iff.mp heq
  exact (chainEffect_datapathDefragInitBuffer hinit).trans (chainEffect_setFragChain u₁ i rfl)

variable {ret : Option (Mmpkt × BytePtr)}

theorem chainEffect_datapathDefragComplete {buf : Mmpkt}
    (heq : datapathDefragComplete u i hdr buf = some (u', ret)) : ChainEffect i u u' := by
  unfold datapathDefragComplete at heq
  dsimp only at heq
  split at heq
  · cases heq
  split at heq
  · cases heq
  · obtain ⟨rfl, -⟩ := Prod.mk.inj (Option.some.inj heq)
    exact chainEffect_release u i

theorem chainEffect_datapathDefragContinue {rxbuf : Mmpkt}
    (heq : datapathDefragContinue u i hdr rxbuf = some (u', ret)) : ChainEffect i u u' := by
  unfold datapathDefragContinue at heq
  dsimp only at heq
  split at heq
  · obtain ⟨rfl, -⟩ := Prod.mk.inj (Option.some.inj heq)
    exact .refl i u
  next buf hbuf =>
    cases hadd : datapathDefragAddFragment buf rxbuf with
    | none =>
      rw [hadd] at heq
      dsimp only at heq
      split_ifs at heq
      · obtain ⟨rfl, -⟩ := Prod.mk.inj (Option.some.inj heq)
        exact .refl i u
      · obtain ⟨rfl, -⟩ := Prod.mk.inj (Option.some.inj heq)
        exact .refl i u
      · obtain ⟨rfl, -⟩ := Prod.mk.inj (Option.some.inj heq)
        exact chainEffect_release u i
    | some buf' =>
      rw [hadd] at heq
      dsimp only at heq
      split_ifs at heq
      · obtain ⟨rfl, -⟩ := Prod.mk.inj (Option.some.inj heq)
        exact .refl i u
      · obtain ⟨rfl, -⟩ := Prod.mk.inj (Option.some.inj heq)
        exact .refl i u
      · obtain ⟨rfl, -⟩ := Prod.mk.inj (Option.some.inj heq)
        refine chainEffect_setFragChain u i ?_
        rw [hbuf]
        rfl
      · exact chainEffect_datapathDefragComplete heq

theorem chainEffect_datapathDefrag {rxbuf : Mmpkt} {tidIdx : U8}
    (heq : datapathDefrag env u hdr rxbuf tidIdx = some (u', ret)) :
    u' = u ∨ ∃ i, ChainEffect i u u' := by
  unfold datapathDefrag at heq
  split at heq
  · obtain ⟨rfl, -⟩ := Prod.mk.inj (Option.some.inj heq)
    exact Or.inl rfl
  split at heq
  · obtain ⟨rfl, -⟩ := Prod.mk.inj (Option.some.inj heq)
    exact Or.inl rfl
  next i _ =>
    split at heq
    · obtain ⟨u₁, hstart, hcontinue⟩ := Option.bind_eq_some_iff.mp heq
      exact Or.inr ⟨i, (chainEffect_datapathDefragStart hstart).trans
        (chainEffect_datapathDefragContinue hcontinue)⟩
    · exact Or.inr ⟨i, chainEffect_datapathDefragContinue heq⟩

/-! ## Handing a frame on -/

/-- The chains, the timeouts, the list and the originators are the same. -/
structure SameTimeouts (u u' : UmacData) : Prop where
  originator : u'.stad.ba.originator = u.stad.ba.originator
  list : u'.stad.datapath.rxReorderList = u.stad.datapath.rxReorderList
  chains : u'.stad.datapath.fragChains = u.stad.datapath.fragChains
  timeouts : u'.timeouts = u.timeouts

theorem SameTimeouts.trans {u u' u'' : UmacData} (h : SameTimeouts u u')
    (h' : SameTimeouts u' u'') : SameTimeouts u u'' :=
  ⟨h'.originator.trans h.originator, h'.list.trans h.list, h'.chains.trans h.chains,
    h'.timeouts.trans h.timeouts⟩

theorem sameTimeouts_rxDeliver {tidIndex : U8}
    {view : Mmpkt} (heq : rxDeliver env u hdr tidIndex view = some u') : SameTimeouts u u' := by
  have hmap : ∀ {view' : Option Mmpkt} {call : Mmpkt → RxUpcall} {v : UmacData},
      SameTimeouts u v → (view'.map fun view => v.upcall (call view)) = some u' →
        SameTimeouts u u' := by
    intro view' call v hsame hcall
    obtain ⟨_, _, rfl⟩ := Option.map_eq_some_iff.mp hcall
    exact hsame.trans ⟨rfl, rfl, rfl, rfl⟩
  unfold rxDeliver at heq
  split at heq
  · split at heq
    · cases heq
      exact ⟨rfl, rfl, rfl, rfl⟩
    · exact hmap ⟨rfl, rfl, rfl, rfl⟩ heq
  unfold rxDeliverToStack at heq
  dsimp only at heq
  split_ifs at heq
  · cases heq
    exact ⟨rfl, rfl, rfl, rfl⟩
  · cases heq
    exact ⟨rfl, rfl, rfl, rfl⟩
  · cases heq
    exact ⟨rfl, rfl, rfl, rfl⟩
  · exact hmap (v := u.ticked) ⟨rfl, rfl, rfl, rfl⟩ heq
  · exact hmap (v := u.ticked) ⟨rfl, rfl, rfl, rfl⟩ heq
  · cases heq
    exact ⟨rfl, rfl, rfl, rfl⟩
  · cases heq
    exact ⟨rfl, rfl, rfl, rfl⟩

theorem sameTimeouts_moveExpected (u : UmacData) (tidIndex : U8) (expected : Option U16) :
    SameTimeouts u (moveExpected u tidIndex expected) := by
  cases expected with
  | none => exact ⟨rfl, rfl, rfl, rfl⟩
  | some seqNum =>
    exact ⟨umacBaSetExpectedRxSeqNum_originator u.stad.ba tidIndex seqNum, rfl, rfl, rfl⟩

theorem afterReorder_reassembly {rxbuf : Mmpkt}
    (heq : umacDatapathProcessRxDataFrameAfterReorder env u rxbuf = some u') :
    SameTimeouts u u' ∨ ∃ v v' i, SameTimeouts u v ∧ ChainEffect i v v' ∧ SameTimeouts v' u' := by
  unfold umacDatapathProcessRxDataFrameAfterReorder at heq
  dsimp only at heq
  split at heq
  · cases heq
  next tidIndex view _ =>
    split at heq
    · cases heq
    next security _ =>
      split at heq
      · -- the security checks dropped the frame
        cases heq
        exact Or.inl ⟨rfl, rfl, rfl, rfl⟩
      next view' _ =>
        have hmoved := sameTimeouts_moveExpected (u.setKeys security.keys) tidIndex
          (rxExpected env rxbuf.dataStart tidIndex)
        generalize hv : UmacData.log _ _ = v at heq
        have hkeys : SameTimeouts u (u.setKeys security.keys) := ⟨rfl, rfl, rfl, rfl⟩
        have hsame : SameTimeouts u v := by
          rw [← hv]
          exact (hkeys.trans hmoved).trans ⟨rfl, rfl, rfl, rfl⟩
        unfold rxReassemble at heq
        split_ifs at heq
        · cases heq
          exact Or.inl hsame
        · cases heq
          exact Or.inl hsame
        · exact Or.inl (hsame.trans (sameTimeouts_rxDeliver heq))
        split at heq
        · cases heq
        · next v₁ hdefrag =>
            obtain rfl := Option.some.inj heq
            rcases chainEffect_datapathDefrag hdefrag with rfl | ⟨i, heffect⟩
            · exact Or.inl hsame
            · exact Or.inr ⟨v, v₁, i, hsame, heffect, ⟨rfl, rfl, rfl, rfl⟩⟩
        next v₁ view₁ hdr₁ hdefrag =>
          have hdeliver := sameTimeouts_rxDeliver heq
          rcases chainEffect_datapathDefrag hdefrag with rfl | ⟨i, heffect⟩
          · exact Or.inl (hsame.trans hdeliver)
          · exact Or.inr ⟨v, v₁, i, hsame, heffect, hdeliver⟩

/-! ## Originators and their timers -/

/-- The timers that give up on a response. -/
def isAddbaReqTimeout : UmacTimeout → Bool
  | .umacBaAddbaReqTimeoutHandler _ => true
  | _ => false

/-- The originator sessions are these, and so are their timers. -/
def OriginatorsAre (originator : BaTid → UmacBaSession) (timers : List UmacTimeout)
    (u : UmacData) : Prop :=
  u.stad.ba.originator = originator ∧ u.timeouts.filter isAddbaReqTimeout = timers

variable {originator : BaTid → UmacBaSession} {timers : List UmacTimeout}

theorem OriginatorsAre.of_same
    (h : OriginatorsAre originator timers u) (hsame : SameTimeouts u u') :
    OriginatorsAre originator timers u' := by
  constructor
  · rw [hsame.originator]
    exact h.1
  · rw [hsame.timeouts]
    exact h.2

theorem OriginatorsAre.of_chainEffect
    (h : OriginatorsAre originator timers u) (heffect : ChainEffect i u u') :
    OriginatorsAre originator timers u' := by
  have hother : ∀ timeouts : List UmacTimeout, timeouts.filter isAddbaReqTimeout
      = (timeouts.filter (· ≠ .datapathDefragTimeout i)).filter isAddbaReqTimeout := by
    intro timeouts
    rw [List.filter_filter]
    apply List.filter_congr
    intro timeout _
    cases timeout <;> simp [isAddbaReqTimeout]
  constructor
  · rw [heffect.ba]
    exact h.1
  · rw [hother, heffect.timeouts, ← hother]
    exact h.2

theorem receiveInvariant_originator (env : UmacEnv) (originator : BaTid → UmacBaSession)
    (timers : List UmacTimeout) : ReceiveInvariant env (OriginatorsAre originator timers) where
  handOn := by
    intro u u' x h heq
    rcases afterReorder_reassembly heq with hsame | ⟨v, v', i, hv, heffect, hv'⟩
    · exact h.of_same hsame
    · exact ((h.of_same hv).of_chainEffect heffect).of_same hv'
  list := fun _ h => h
  listTid := fun _ h => h
  ticked := fun h => h
  timeout := by
    intro u h
    unfold umacCoreRegisterTimeout
    split
    · refine ⟨h.1, ?_⟩
      show (UmacTimeout.umacDatapathRxReorderTimeoutHandler :: u.timeouts).filter _ = timers
      rw [List.filter_cons_of_neg (by simp [isAddbaReqTimeout])]
      exact h.2
    · exact h
  outdated := fun _ h => h

theorem flushForTid_originator {tid : U16} (h : OriginatorsAre originator timers u)
    (heq : umacDatapathFlushRxReorderListForTid env u tid = some u') :
    OriginatorsAre originator timers u' :=
  (receiveInvariant_originator env originator timers).flushForTid h heq

end MmIotEsp32.Umac.Datapath
