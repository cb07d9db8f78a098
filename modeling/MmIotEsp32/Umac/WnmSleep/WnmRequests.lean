/-
  MmIotEsp32.Umac.WnmSleep.WnmRequests

  What becomes of the WNM sleep requests.

  A request that is accepted is answered once, with its own outcome, before another one is
  accepted; it is sent again at most 60 times, and only while it waits for the access point.
-/
import MmIotEsp32.Umac.Connection.StationMoves

namespace MmIotEsp32.Umac.WnmSleep

open Lib Connection

/-! ## The audit -/

/-- A request that is accepted and not answered yet, and how often it was sent again. -/
structure OpenRequest where
  enabled : Bool
  retries : Nat
  deriving Repr, DecidableEq

/-- One record of the log: `none` is a record that may not stand there. -/
def auditRecord (request : Option OpenRequest) : WnmRecord → Option (Option OpenRequest)
  | .accepted enabled =>
    match request with
    | none => some (some ⟨enabled, 0⟩)
    | some _ => none
  | .refused => some request
  | .answered event status =>
    match request with
    | none => none
    | some r => if requestOutcome r.enabled event = some status then some none else none
  | .retried =>
    match request with
    | none => none
    | some r =>
      if r.retries < wnmSleepMaxRetryReq then some (some { r with retries := r.retries + 1 })
      else none

/-- The log, oldest first, and the request that is open after it. -/
def audit (log : List WnmRecord) : Option (Option OpenRequest) := log.foldlM auditRecord none

theorem audit_append (log : List WnmRecord) (record : WnmRecord) :
    audit (log ++ [record]) = (audit log).bind fun request => auditRecord request record := by
  unfold audit
  rw [List.foldlM_append]
  simp

/-- The request that is open after the log is the one the station waits for. -/
def WaitsFor (w : UmacWnmSleepData) (request : Option OpenRequest) : Prop :=
  w.callback = request.isSome ∧ w.waiting = request.isSome
    ∧ ∀ r, request = some r → w.fsmInst.currentState = requestedState r.enabled
      ∧ w.retryCounter.toNat = r.retries ∧ r.retries ≤ wnmSleepMaxRetryReq

/-- The log is in order. -/
def Audited (w : UmacWnmSleepData) : Prop :=
  ∃ request, audit w.log = some request ∧ WaitsFor w request

section Steps

variable {u v : Umac} {timeoutOk : Bool}

theorem requestedState_inj {a b : Bool} (h : requestedState a = requestedState b) : a = b := by
  cases a <;> cases b <;> first | rfl | cases h

theorem no_open_request (hok : StationOk u) (hquiet : ¬ WnmRequested u) (h : Audited u.wnm) :
    audit u.wnm.log = some none := by
  obtain ⟨request, haudit, hcallback, -⟩ := h
  rw [(hok.no_callback hquiet).1] at hcallback
  cases request with
  | none => exact haudit
  | some r => cases hcallback

theorem open_request (hok : StationOk u) {enabled : Bool}
    (hstate : u.wnm.fsmInst.currentState = requestedState enabled) (h : Audited u.wnm) :
    audit u.wnm.log = some (some ⟨enabled, u.wnm.retryCounter.toNat⟩)
      ∧ u.wnm.retryCounter.toNat ≤ wnmSleepMaxRetryReq := by
  obtain ⟨request, haudit, hcallback, -, hrequest⟩ := h
  rw [(hok.callback_of_requested (wnmRequested_of_state hstate)).1] at hcallback
  cases request with
  | none => cases hcallback
  | some r =>
    obtain ⟨hr, hcounter, hretries⟩ := hrequest r rfl
    have henabled := requestedState_inj (hstate.symm.trans hr)
    rw [haudit, hcounter, henabled]
    exact ⟨rfl, hretries⟩

theorem audited_accepted (hok : StationOk u) (hquiet : ¬ WnmRequested u) (h : Audited u.wnm)
    (enabled timeoutOk : Bool) : Audited (accepted u.wnm enabled timeoutOk) := by
  refine ⟨some ⟨enabled, 0⟩, ?_, rfl, rfl, fun r hr => ?_⟩
  · show audit (u.wnm.log ++ [.accepted enabled]) = _
    rw [audit_append, no_open_request hok hquiet h]
    rfl
  · cases hr
    exact ⟨rfl, rfl, Nat.zero_le _⟩

theorem audited_answered (hok : StationOk u) {enabled : Bool} {event : WnmSleepFsmEvent}
    {status : MmwlanStatus} (q : WnmSleepFsmState)
    (hstate : u.wnm.fsmInst.currentState = requestedState enabled)
    (hstatus : requestOutcome enabled (some event) = some status) (h : Audited u.wnm) :
    Audited (answered u.wnm q event status) := by
  refine ⟨none, ?_, rfl, rfl, fun r hr => by cases hr⟩
  show audit (u.wnm.log ++ [.answered (some event) status]) = _
  rw [audit_append, (open_request hok hstate h).1]
  exact if_pos hstatus

theorem audited_move (hok : StationOk u) (hmove : WnmMove timeoutOk u v) (h : Audited u.wnm) :
    Audited v.wnm := by
  cases hmove with
  | ignored => exact h
  | refused =>
    obtain ⟨request, haudit, hwaits⟩ := h
    refine ⟨request, ?_, hwaits⟩
    show audit (u.wnm.log ++ [.refused]) = _
    rw [audit_append, haudit]
    rfl
  | settled enabled hquiet =>
    refine ⟨none, ?_, rfl, rfl, fun r hr => by cases hr⟩
    show audit (u.wnm.log ++ [.accepted enabled] ++ [.answered none .unavailable]) = _
    rw [audit_append, audit_append, no_open_request hok hquiet h]
    rfl
  | enter power hstate hconn =>
    refine audited_accepted hok (fun hrequested => ?_) h true timeoutOk
    rcases hrequested with hq | hq <;> rw [hstate] at hq <;> cases hq
  | leave hstate =>
    refine audited_accepted hok (fun hrequested => ?_) h false timeoutOk
    rcases hrequested with hq | hq <;> rw [hstate] at hq <;> cases hq
  | sleep hstate => exact audited_answered hok .active (show _ = requestedState true from hstate) rfl h
  | retried enabled hstate hretries =>
    refine ⟨some ⟨enabled, u.wnm.retryCounter.toNat + 1⟩, ?_, ?_, ?_, fun r hr => ?_⟩
    · show audit (u.wnm.log ++ [.retried]) = _
      rw [audit_append, (open_request hok hstate h).1]
      exact if_pos hretries
    · exact (hok.callback_of_requested (wnmRequested_of_state hstate)).1
    · exact (hok.callback_of_requested (wnmRequested_of_state hstate)).2
    cases hr
    refine ⟨hstate, ?_, hretries⟩
    show (u.wnm.retryCounter + 1).toNat = u.wnm.retryCounter.toNat + 1
    unfold wnmSleepMaxRetryReq at hretries
    rw [BitVec.toNat_add]
    exact Nat.mod_eq_of_lt (by simp; omega)
  | ended enabled event status hstate hstatus => exact audited_answered hok .idle hstate hstatus h
  | woken hstate =>
    have hquiet : ¬ WnmRequested u := fun hrequested => by
      rcases hrequested with hq | hq <;> rw [hstate] at hq <;> cases hq
    refine ⟨none, ?_, ?_, ?_, fun r hr => by cases hr⟩
    · show audit u.wnm.log = _
      exact no_open_request hok hquiet h
    · exact (hok.no_callback hquiet).1
    · exact (hok.no_callback hquiet).2

end Steps

/-! ## Retries -/

/-- A request that waits has its retry timeout. -/
def RetriesPending (u : Umac) : Prop := WnmRequested u → u.wnm.retryTimeouts ≠ 0

theorem retries_end (k : Nat) : ∀ {u : Umac}, StationOk u → Audited u.wnm →
    u.wnm.retryTimeouts ≠ 0 → u.wnm.retryCounter.toNat + k = wnmSleepMaxRetryReq →
    ∃ u', runFrom umacStep u (List.replicate (k + 1) (.retryTimeout true)) = some u'
      ∧ u'.wnm.callback = false := by
  induction k with
  | zero =>
    intro u hok haudited htimers hk
    refine ⟨{ u with wnm := answered u.wnm .idle .retriesExhausted .timedOut }, ?_, rfl⟩
    have hstep : umacStep u (.retryTimeout true)
        = some { u with wnm := answered u.wnm .idle .retriesExhausted .timedOut } := by
      refine (retryTimeoutExpired_eq hok htimers).trans ?_
      rw [if_neg (by omega)]
    show (umacStep u (.retryTimeout true)).bind _ = _
    rw [hstep]
    rfl
  | succ k ih =>
    intro u hok haudited htimers hk
    have hretries : u.wnm.retryCounter.toNat < wnmSleepMaxRetryReq := by omega
    have hstep : umacStep u (.retryTimeout true) = some { u with wnm := retried u.wnm true } := by
      refine (retryTimeoutExpired_eq hok htimers).trans ?_
      rw [if_pos hretries]
    obtain ⟨enabled, hstate⟩ := (hok.timers htimers).state
    have hmove : WnmMove true u { u with wnm := retried u.wnm true } :=
      .retried enabled hstate hretries
    have hcounter : (u.wnm.retryCounter + 1).toNat = u.wnm.retryCounter.toNat + 1 := by
      unfold wnmSleepMaxRetryReq at hretries
      rw [BitVec.toNat_add]
      exact Nat.mod_eq_of_lt (by simp; omega)
    obtain ⟨u', hrun, hcallback⟩ := ih (hok.wnmMove hmove) (audited_move hok hmove haudited)
      (show (1 : Nat) ≠ 0 by decide)
      (show (u.wnm.retryCounter + 1).toNat + k = wnmSleepMaxRetryReq by omega)
    refine ⟨u', ?_, hcallback⟩
    show (umacStep u (.retryTimeout true)).bind _ = _
    rw [hstep]
    exact hrun

theorem retriesPending_move {u v : Umac} (hmove : WnmMove true u v) (h : RetriesPending u) :
    RetriesPending v := by
  intro hrequested
  cases hmove with
  | ignored | refused => exact h hrequested
  | settled enabled hquiet => exact absurd hrequested hquiet
  | enter power hstate hconn | leave hstate | retried enabled hstate hretries =>
    exact Nat.succ_ne_zero _
  | sleep hstate | ended enabled event status hstate hstatus | woken hstate =>
    rcases hrequested with hq | hq <;> cases hq

/-! ## Runs -/

/-- What holds of the requests: the log is in order, the retry timer only runs while a request
waits for the access point, and a request whose retry timer runs is given up after at most 61
timeouts, if nothing else ends it. -/
structure RequestsAnswered (u : Umac) : Prop where
  audited : Audited u.wnm
  timers : u.wnm.retryTimeouts ≠ 0 → WnmRequested u
  ends : u.wnm.retryTimeouts ≠ 0 → ∃ n ≤ wnmSleepMaxRetryReq + 1, ∃ u',
    runFrom umacStep u (List.replicate n (.retryTimeout true)) = some u' ∧ u'.wnm.callback = false

theorem requestsAnswered_of_audited {u : Umac} (hok : StationOk u) (h : Audited u.wnm) :
    RequestsAnswered u where
  audited := h
  timers := hok.timers
  ends := fun htimers => by
    obtain ⟨enabled, hstate⟩ := (hok.timers htimers).state
    have hretries := (open_request hok hstate h).2
    obtain ⟨u', hrun, hcallback⟩ := retries_end (wnmSleepMaxRetryReq - u.wnm.retryCounter.toNat) hok
      h htimers (by omega)
    exact ⟨_, by omega, u', hrun, hcallback⟩

theorem audited_step (u : Umac) (e : UmacEvent) (u' : Umac) (h : StationOk u ∧ Audited u.wnm)
    (hstep : umacStep u e = some u') : StationOk u' ∧ Audited u'.wnm := by
  obtain ⟨v, hmove, hwnm⟩ := umacStep_wnm h.1 hstep
  refine ⟨umacStep_ok u e u' h.1 hstep, ?_⟩
  rw [hwnm]
  exact audited_move h.1 hmove h.2

/-- **Every accepted request is answered once**, with its own outcome and before another one is
accepted; and while every timeout can be registered, a request that waits has its retry timer. -/
theorem wnm_requests_answered (config : UmacConfigData) (es : List UmacEvent) :
    Throughout umacStep RequestsAnswered (umacInit config) es
      ∧ ((∀ e ∈ es, e.timeoutOk = true) →
          Throughout umacStep RetriesPending (umacInit config) es) := by
  have haudited : Audited (umacInit config).wnm :=
    ⟨none, rfl, rfl, rfl, fun r hr => by cases hr⟩
  constructor
  · have hruns := throughout_of_invariant audited_step ⟨stationOk_init config, haudited⟩ es
    exact hruns.mono fun u h => requestsAnswered_of_audited h.1 h.2
  intro htimeouts
  refine Throughout.mono (fun u (h : StationOk u ∧ RetriesPending u) => h.2) ?_
  refine throughout_of_step (C := fun _ e => e.timeoutOk = true) ?_ ⟨stationOk_init config, ?_⟩
    (along_of_forall_mem fun e he _ => htimeouts e he)
  · intro u e u' h hregisters hstep
    obtain ⟨v, hmove, hwnm⟩ := umacStep_wnm h.1 hstep
    rw [hregisters] at hmove
    have hpending := retriesPending_move hmove h.2
    refine ⟨umacStep_ok u e u' h.1 hstep, ?_⟩
    unfold RetriesPending WnmRequested at hpending ⊢
    rw [hwnm]
    exact hpending
  · intro h
    rcases h with h | h <;> cases h

end MmIotEsp32.Umac.WnmSleep
