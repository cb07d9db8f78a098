/-
  MmIotEsp32.Umac.Ba.BaTimers

  Requested sessions and the timers that end them.
-/
import MmIotEsp32.Umac.Ba.UmacBa
import MmIotEsp32.Umac.Datapath.DatapathTimeouts

namespace MmIotEsp32.Umac.Ba

open Lib Dot11 Datapath Function

/-! ## Runs -/

/-- What happens to the block-ack sessions of a STA record. -/
inductive BaEvent where
  | sessionInit (tid : U8) (ssc timeout : U16)
  | addbaResp (field : BytePtr) (fieldLen : Nat)
  | delba (field : BytePtr) (fieldLen : Nat)
  | sessionDeinit (tid : U8) (originator : Bool)
  | timeout (timeout : UmacTimeout)

def baStep (env : UmacEnv) (u : UmacData) : BaEvent → Option UmacData
  | .sessionInit tid ssc timeout => some (umacBaSessionInit env u tid ssc timeout)
  | .addbaResp field fieldLen => some (umacBaRxAddbaResp env u field fieldLen)
  | .delba field fieldLen => umacBaRxDelba env u field fieldLen
  | .sessionDeinit tid originator => some (umacBaSessionDeinit env u tid originator)
  | .timeout timeout => fireTimeout env u timeout

def requestTimer (tid : BaTid) : UmacTimeout := .umacBaAddbaReqTimeoutHandler (.originator tid)

/-- The requested sessions among `tids` have their timer pending. -/
def HaveTimers (tids : BaTid → Prop) (u : UmacData) : Prop :=
  ∀ tid, tids tid → (u.stad.ba.originator tid).status = .requested →
    requestTimer tid ∈ u.timeouts

/-- Every requested session has its timer pending. -/
def RequestedHaveTimers (u : UmacData) : Prop := HaveTimers (fun _ => True) u

/-- The response is one that ends the wait: for the request, and refused or immediate. -/
def EndsRequest (u : UmacData) (field : BytePtr) : Prop :=
  ∀ tid, baTid? ((dot11BaParameterSetFieldGetTid (field.le16 5)).setWidth 8) = some tid →
    (u.stad.ba.originator tid).status = .requested →
      (u.stad.ba.originator tid).dialogToken = field 2
        ∧ (field.le16 3 ≠ dot11StatusSuccess
          ∨ dot11BaParameterSetFieldGetBaPolicy (field.le16 5) = dot11BaPolicyImmediate)

/-- The step does not lose the timer of a requested session. -/
def KeepsTimers (env : UmacEnv) (u : UmacData) : BaEvent → Prop
  | .addbaResp field fieldLen =>
    sizeofDot11ActionFieldAddbaResp ≤ fieldLen → EndsRequest u field
  | .timeout (.umacBaAddbaReqTimeoutHandler (.originator tid)) =>
    (u.stad.ba.originator tid).status = .requested →
      env.txMgmtFrame u.tick = true ∨ 1 < u.timeouts.count (requestTimer tid)
  | _ => True

/-! ## Sessions and timers -/

theorem requestTimer_injective {tid tid' : BaTid} (h : requestTimer tid = requestTimer tid') :
    tid = tid' := by
  unfold requestTimer at h
  cases h
  rfl

variable {tids : BaTid → Prop}

theorem HaveTimers.setOriginator {u : UmacData} (h : HaveTimers tids u)
    (tid : BaTid) {session : UmacBaSession} (hsession : session.status ≠ .requested) :
    HaveTimers (fun tid' => tids tid' ∨ tid' = tid) (setSession u (.originator tid) session) := by
  intro tid' htid' hrequested
  change (update u.stad.ba.originator tid session tid').status = _ at hrequested
  by_cases heq : tid' = tid
  · rw [heq, update_self] at hrequested
    exact absurd hrequested hsession
  · rw [update_of_ne heq] at hrequested
    exact h tid' (htid'.resolve_right heq) hrequested

theorem HaveTimers.cancel {u : UmacData} (h : RequestedHaveTimers u) (tid : BaTid) :
    HaveTimers (· ≠ tid) (umacCoreCancelTimeout u (requestTimer tid)) := by
  intro tid' hne hrequested
  apply List.mem_filter.mpr
  refine ⟨h tid' trivial hrequested, ?_⟩
  rw [decide_eq_true_iff]
  exact fun heq => hne (requestTimer_injective heq)

theorem HaveTimers.all {tid : BaTid} {u : UmacData} (h : HaveTimers tids u)
    (hall : ∀ tid', tids tid' ∨ tid' = tid)
    (htid : (u.stad.ba.originator tid).status ≠ .requested) : RequestedHaveTimers u := by
  intro tid' _ hrequested
  rcases hall tid' with hmem | rfl
  · exact h tid' hmem hrequested
  · exact absurd hrequested htid

theorem HaveTimers.of_originatorsAre {u u' : UmacData} (h : HaveTimers tids u)
    (hsame : OriginatorsAre u.stad.ba.originator (u.timeouts.filter isAddbaReqTimeout) u') :
    HaveTimers tids u' := by
  intro tid htid hrequested
  rw [hsame.1] at hrequested
  have hmem : requestTimer tid ∈ u.timeouts.filter isAddbaReqTimeout :=
    List.mem_filter.mpr ⟨h tid htid hrequested, rfl⟩
  rw [← hsame.2] at hmem
  exact (List.mem_filter.mp hmem).1

/-! ## One step -/

variable {env : UmacEnv} {u : UmacData}

theorem sessionInit_keeps (hregister : ∀ n, env.registerTimeout n = true)
    (h : RequestedHaveTimers u) (tid : U8) (ssc timeout : U16) :
    RequestedHaveTimers (umacBaSessionInit env u tid ssc timeout) := by
  unfold umacBaSessionInit
  cases htid : baTid? tid with
  | none => exact h
  | some i =>
    dsimp only
    split
    · exact h
    -- Whether the request is sent or not, the timer of the session is pending.
    have hothers : ∀ (session : UmacBaSession) (v : UmacData),
        v.stad.ba.originator = update u.stad.ba.originator i session →
          v.timeouts = requestTimer i :: u.timeouts → RequestedHaveTimers v := by
      intro session v horiginator htimeouts j _ hrequested
      rw [htimeouts]
      by_cases hj : j = i
      · rw [hj]
        exact List.mem_cons_self ..
      · rw [horiginator, update_of_ne hj] at hrequested
        exact List.mem_cons_of_mem _ (h j trivial hrequested)
    unfold umacCoreRegisterTimeout
    rw [hregister, if_pos rfl]
    unfold umacBaTxAddbaReq umacDatapathBuildAndTxMgmtFrame
    dsimp only
    split
    · exact hothers _ _ rfl rfl
    · exact hothers _ _ (update_idem _ _ _) rfl

theorem RequestedHaveTimers.setSession (h : RequestedHaveTimers u) (ptr : UmacBaSessionPtr)
    {session : UmacBaSession} (hsession : session.status ≠ .requested) :
    RequestedHaveTimers (setSession u ptr session) := by
  cases ptr with
  | originator tid =>
    intro j _ hrequested
    exact HaveTimers.setOriginator h tid hsession j (Or.inl trivial) hrequested
  | recipient tid => exact h

theorem sessionDeinit_keeps (h : RequestedHaveTimers u) (tid : U8) (originator : Bool) :
    RequestedHaveTimers (umacBaSessionDeinit env u tid originator) := by
  unfold umacBaSessionDeinit
  cases htid : baTid? tid with
  | none => exact h
  | some i =>
    dsimp only [umacDatapathBuildAndTxMgmtFrame]
    generalize (if originator = true then UmacBaSessionPtr.originator i else .recipient i) = ptr
    split_ifs
    · exact h
    · exact h
    · exact RequestedHaveTimers.setSession (u := u.ticked) h ptr (by decide)

theorem delba_keeps (h : RequestedHaveTimers u) {u' : UmacData} {field : BytePtr}
    {fieldLen : Nat} (heq : umacBaRxDelba env u field fieldLen = some u') :
    RequestedHaveTimers u' := by
  rcases umacBaRxDelba_cases heq with rfl | ⟨ptr, flushTid, u₁, hflush, rfl⟩
  · exact h
  have hsame := flushForTid_originator ⟨rfl, rfl⟩ hflush
  cases ptr with
  | originator tid =>
    have hothers := (HaveTimers.cancel h tid).of_originatorsAre hsame
    intro j _ hrequested
    exact hothers.setOriginator tid (by simp) j (ne_or_eq j tid) hrequested
  | recipient tid =>
    -- the timer of a recipient is none of them
    have hcancel : RequestedHaveTimers (umacCoreCancelTimeout u
        (.umacBaAddbaReqTimeoutHandler (.recipient tid))) := by
      intro j _ hrequested
      apply List.mem_filter.mpr
      exact ⟨h j trivial hrequested, by simp [requestTimer]⟩
    exact HaveTimers.of_originatorsAre hcancel hsame

theorem addbaResp_keeps_iff (h : RequestedHaveTimers u) (field : BytePtr) (fieldLen : Nat) :
    RequestedHaveTimers (umacBaRxAddbaResp env u field fieldLen)
      ↔ (sizeofDot11ActionFieldAddbaResp ≤ fieldLen → EndsRequest u field) := by
  unfold umacBaRxAddbaResp EndsRequest
  by_cases hshort : fieldLen < sizeofDot11ActionFieldAddbaResp
  · rw [if_pos hshort]
    exact ⟨fun _ hlong => absurd hshort (Nat.not_lt_of_le hlong), fun _ => h⟩
  rw [if_neg hshort]
  have hlong : sizeofDot11ActionFieldAddbaResp ≤ fieldLen := Nat.le_of_not_lt hshort
  cases htid : baTid? ((dot11BaParameterSetFieldGetTid (field.le16 5)).setWidth 8) with
  | none => exact ⟨fun _ _ tid htid => (by cases htid), fun _ => h⟩
  | some tid =>
    have hothers := HaveTimers.cancel h tid
    -- the session itself has lost its timer
    have hlost : ∀ v : UmacData, v.timeouts
        = (umacCoreCancelTimeout u (requestTimer tid)).timeouts →
          (v.stad.ba.originator tid).status = .requested → ¬ RequestedHaveTimers v := by
      intro v htimeouts hrequested hv
      have hmem := hv tid trivial hrequested
      rw [htimeouts] at hmem
      simpa using (List.mem_filter.mp hmem).2
    have hother : ∀ j, j ≠ tid ∨ j = tid := fun j => ne_or_eq j tid
    dsimp only
    unfold umacBaAddbaRespSession
    dsimp only
    change RequestedHaveTimers (if (u.stad.ba.originator tid).status ≠ .requested
      || (u.stad.ba.originator tid).dialogToken ≠ field 2 then _ else _) ↔ _
    by_cases hrequested : (u.stad.ba.originator tid).status = .requested
    · by_cases htoken : (u.stad.ba.originator tid).dialogToken = field 2
      · rw [if_neg (by simp [hrequested, htoken])]
        split_ifs with hrefused hdelayed
        · refine ⟨fun _ _ j hj _ => ?_, fun _ j _ hj => ?_⟩
          · cases hj
            exact ⟨htoken, Or.inl hrefused⟩
          · exact hothers.setOriginator tid (by simp) j (hother j) hj
        · -- a delayed policy: the session stays requested
          refine ⟨fun hkept => absurd hkept (hlost _ rfl hrequested), fun hends => ?_⟩
          rcases (hends hlong tid rfl hrequested).2 with hstatus | himmediate
          · exact absurd hstatus hrefused
          · exact absurd himmediate hdelayed
        refine ⟨fun _ _ j hj _ => ?_, fun _ j _ hj => ?_⟩
        · cases hj
          exact ⟨htoken, Or.inr (not_not.mp hdelayed)⟩
        · exact hothers.setOriginator tid (by simp) j (hother j) hj
      · rw [if_pos (by simp [htoken])]
        refine ⟨fun hkept => absurd hkept (hlost _ rfl hrequested), fun hends => ?_⟩
        exact absurd (hends hlong tid rfl hrequested).1 htoken
    rw [if_pos (by simp [hrequested])]
    refine ⟨fun _ _ j hj hjrequested => ?_, fun _ => hothers.all hother hrequested⟩
    cases hj
    exact absurd hjrequested hrequested

theorem requestTimer_erase_keeps_iff (h : RequestedHaveTimers u) (tid : BaTid) :
    RequestedHaveTimers
        (umacBaAddbaReqTimeoutHandler env
          { u with timeouts := u.timeouts.erase (requestTimer tid) } (.originator tid))
      ↔ ((u.stad.ba.originator tid).status = .requested →
        env.txMgmtFrame u.tick = true ∨ 1 < u.timeouts.count (requestTimer tid)) := by
  have hothers : HaveTimers (· ≠ tid)
      { u with timeouts := u.timeouts.erase (requestTimer tid) } := by
    intro j hne hrequested
    have hne' : requestTimer j ≠ requestTimer tid := fun heq => hne (requestTimer_injective heq)
    exact (List.mem_erase_of_ne hne').mpr (h j trivial hrequested)
  have hagain : requestTimer tid ∈ u.timeouts.erase (requestTimer tid)
      ↔ 1 < u.timeouts.count (requestTimer tid) := by
    rw [← List.count_pos_iff, List.count_erase_self]
    omega
  unfold umacBaAddbaReqTimeoutHandler umacDatapathBuildAndTxMgmtFrame
  change RequestedHaveTimers (if (u.stad.ba.originator tid).status ≠ .requested then _ else _) ↔ _
  by_cases hrequested : (u.stad.ba.originator tid).status = .requested
  · rw [if_neg (not_not.mpr hrequested)]
    dsimp only
    cases hsent : env.txMgmtFrame u.tick with
    | false =>
      -- the DELBA is not sent: another timer has to be pending
      rw [if_pos (by rfl)]
      constructor
      · intro hkept _
        exact Or.inr (hagain.mp (hkept tid trivial hrequested))
      intro hcount j _ hj
      rcases ne_or_eq j tid with hne | rfl
      · exact hothers j hne hj
      · exact hagain.mpr ((hcount hrequested).resolve_left (by simp))
    | true =>
      rw [if_neg (by simp)]
      refine ⟨fun _ _ => Or.inl rfl, fun _ j _ hj => ?_⟩
      exact hothers.setOriginator tid (by simp) j (ne_or_eq j tid) hj
  · rw [if_pos hrequested]
    exact ⟨fun _ hr => absurd hr hrequested,
      fun _ => hothers.all (fun j => ne_or_eq j tid) hrequested⟩

theorem fireTimeout_keeps (h : RequestedHaveTimers u) {u' : UmacData} {timeout : UmacTimeout}
    (hother : ∀ tid, timeout ≠ requestTimer tid)
    (heq : timeoutHandler env { u with timeouts := u.timeouts.erase timeout } timeout = some u') :
    RequestedHaveTimers u' := by
  have herased : RequestedHaveTimers { u with timeouts := u.timeouts.erase timeout } := by
    intro j _ hrequested
    exact (List.mem_erase_of_ne (hother j).symm).mpr (h j trivial hrequested)
  cases timeout with
  | datapathDefragTimeout i =>
    cases heq
    exact herased
  | umacDatapathRxReorderTimeoutHandler =>
    generalize u.timeouts.erase UmacTimeout.umacDatapathRxReorderTimeoutHandler = timeouts
      at herased heq
    have hinv := receiveInvariant_originator env u.stad.ba.originator
      (timeouts.filter isAddbaReqTimeout)
    exact HaveTimers.of_originatorsAre herased
      (hinv.timeoutHandler (u := { u with timeouts := timeouts }) ⟨rfl, rfl⟩ heq)
  | umacBaAddbaReqTimeoutHandler ptr =>
    cases heq
    cases ptr with
    | originator tid => exact absurd rfl (hother tid)
    | recipient tid =>
      unfold umacBaAddbaReqTimeoutHandler umacDatapathBuildAndTxMgmtFrame
      dsimp only
      split_ifs
      all_goals exact herased

theorem baStep_keeps_iff (hregister : ∀ n, env.registerTimeout n = true)
    (h : RequestedHaveTimers u) (e : BaEvent) :
    (∀ u', baStep env u e = some u' → RequestedHaveTimers u') ↔ KeepsTimers env u e := by
  cases e with
  | sessionInit tid ssc timeout =>
    refine ⟨fun _ => trivial, fun _ u' heq => ?_⟩
    cases heq
    exact sessionInit_keeps hregister h tid ssc timeout
  | addbaResp field fieldLen =>
    show _ ↔ (sizeofDot11ActionFieldAddbaResp ≤ fieldLen → EndsRequest u field)
    rw [← @addbaResp_keeps_iff env u h field fieldLen]
    exact ⟨fun hstep => hstep _ rfl, fun hkept u' heq => Option.some.inj heq ▸ hkept⟩
  | delba field fieldLen => exact ⟨fun _ => trivial, fun _ u' heq => delba_keeps h heq⟩
  | sessionDeinit tid originator =>
    refine ⟨fun _ => trivial, fun _ u' heq => ?_⟩
    cases heq
    exact sessionDeinit_keeps h tid originator
  | timeout timeout =>
    have hkeeps : (∀ tid, timeout ≠ requestTimer tid) → ∀ u',
        baStep env u (.timeout timeout) = some u' → RequestedHaveTimers u' := by
      intro hother u' heq
      change (if timeout ∈ u.timeouts then _ else _) = _ at heq
      split at heq
      · exact fireTimeout_keeps h hother heq
      · exact Option.some.inj heq ▸ h
    cases timeout with
    | datapathDefragTimeout i => exact ⟨fun _ => trivial, fun _ => hkeeps (by simp [requestTimer])⟩
    | umacDatapathRxReorderTimeoutHandler =>
      exact ⟨fun _ => trivial, fun _ => hkeeps (by simp [requestTimer])⟩
    | umacBaAddbaReqTimeoutHandler ptr =>
      cases ptr with
      | recipient tid => exact ⟨fun _ => trivial, fun _ => hkeeps (by simp [requestTimer])⟩
      | originator tid =>
        show (∀ u', (if requestTimer tid ∈ u.timeouts then _ else _) = some u' → _) ↔
          ((u.stad.ba.originator tid).status = .requested → _)
        by_cases hpending : requestTimer tid ∈ u.timeouts
        · rw [if_pos hpending, ← requestTimer_erase_keeps_iff h tid]
          exact ⟨fun hstep => hstep _ rfl, fun hkept u' heq => Option.some.inj heq ▸ hkept⟩
        · rw [if_neg hpending]
          refine ⟨fun _ hrequested => ?_, fun _ u' heq => Option.some.inj heq ▸ h⟩
          exact absurd (h tid trivial hrequested) hpending

/-! ## Whole runs -/

/-- From zeroed sessions, as long as timers can be registered: every requested session has
its timer in every state of a run if and only if no step of the run loses one. -/
theorem requested_has_timer_iff (hregister : ∀ n, env.registerTimeout n = true)
    (hzero : u.stad.ba = umacBaDeinit) (events : List BaEvent) :
    Throughout (baStep env) RequestedHaveTimers u events
      ↔ Along (baStep env) (KeepsTimers env) u events := by
  have hinit : RequestedHaveTimers u := by
    intro tid _ hrequested
    rw [hzero] at hrequested
    cases hrequested
  exact throughout_iff_along_of_keeps (fun _ e hv => baStep_keeps_iff hregister hv e) hinit events

/-- The action field of a response with a token and a status, for TID 0, with the immediate
policy. -/
def addbaRespField (token status : U8) : BytePtr := fun i =>
  [4, dot11BaActionNdpAddbaResp, token, status, 0, 2, 0, 0, 0].getD i 0

/-- A request that the peer refuses. -/
theorem requested_has_timer_refused :
    Throughout (baStep openEnv) RequestedHaveTimers umacStadInit
      [.sessionInit 0 0 0, .addbaResp (addbaRespField 1 37) 9] := by
  refine (requested_has_timer_iff (fun _ => rfl) rfl _).mpr ⟨trivial, fun u hu => ⟨?_, ?_⟩⟩
  · cases hu
    intro _
    unfold EndsRequest
    decide +kernel
  · exact fun _ _ => trivial

/-- A response with another token cancels the timer of the request that it does not answer:
the session stays requested. -/
theorem requested_loses_timer_token :
    ¬ Throughout (baStep openEnv) RequestedHaveTimers umacStadInit
      [.sessionInit 0 0 0, .addbaResp (addbaRespField 7 0) 9] := by
  intro h
  have hkept := ((h.2 _ rfl).2 _ rfl).head ⟨0, by decide⟩ trivial (by decide +kernel)
  exact absurd hkept (by decide +kernel)

end MmIotEsp32.Umac.Ba
