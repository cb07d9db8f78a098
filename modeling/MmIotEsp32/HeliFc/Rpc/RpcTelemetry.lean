/-
  MmIotEsp32.HeliFc.Rpc.RpcTelemetry

  `rpc_send_telemetry` in several tasks, and `rpc_receive_telemetry` in one (`rpc/rpc_core.c`).
-/
import MmIotEsp32.HeliFc.Rpc.RpcCore
import MmIotEsp32.Lib.Transition
import Mathlib.Data.List.Nodup
import Mathlib.Data.List.Range

namespace MmIotEsp32.HeliFc

open Lib Function

/-! ## The tasks and the queue -/

/-- A message in the queue, and how many were placed before it. -/
structure TelemEntry (M : Type*) where
  number : Nat
  msg : M
  deriving Repr, DecidableEq

/-- Where a task is in `rpc_send_telemetry`. -/
inductive SendPc (M : Type*) where
  | idle
  /-- In the `xQueueSend` that waits. -/
  | sending (msg : M)
  /-- The queue is full: before the `xQueueReceive`. -/
  | discarding (msg : M)
  /-- Before the second `xQueueSend`. -/
  | retrying (msg : M)
  /-- Before `telem_sent++`. -/
  | counting (entry : TelemEntry M)
  deriving Repr, DecidableEq

/-- Where the receiver is in `rpc_receive_telemetry`. -/
inductive ReceivePc where
  | idle
  /-- Before `telem_recv++`. -/
  | counting
  deriving Repr, DecidableEq

/-- A message that was thrown away, and the call that did it. -/
structure Discard (τ M : Type*) where
  entry : TelemEntry M
  task : τ
  msg : M
  deriving Repr, DecidableEq

/-- `telem_queue` and its part of `s_stats`. -/
structure RpcTelemetry (τ M : Type*) where
  queue : List (TelemEntry M)
  calls : τ → SendPc M
  receiver : ReceivePc
  telemSent : U32
  telemRecv : U32
  telemDropped : U32
  /-- What was placed, oldest first. -/
  placed : List (TelemEntry M)
  /-- What a call has returned 0 for. -/
  returned : List (TelemEntry M)
  /-- What was received, oldest first. -/
  received : List (TelemEntry M)
  discarded : List (Discard τ M)
  /-- The calls that found the queue full for their whole wait. -/
  foundFull : List (τ × M)

/-- The steps of the calls. -/
inductive TelemetryEvent (τ M : Type*) where
  | call (task : τ) (msg : M)
  | place (task : τ)
  | timeOut (task : τ)
  | discard (task : τ)
  | retry (task : τ)
  | count (task : τ)
  | receive
  | countReceived
  deriving Repr, DecidableEq

section

variable {τ M : Type*} [DecidableEq τ]

/-- After `rpc_init`. -/
def rpcTelemetryInit : RpcTelemetry τ M where
  queue := []
  calls := fun _ => .idle
  receiver := .idle
  telemSent := 0
  telemRecv := 0
  telemDropped := 0
  placed := []
  returned := []
  received := []
  discarded := []
  foundFull := []

def RpcTelemetry.setCall (s : RpcTelemetry τ M) (task : τ) (pc : SendPc M) : RpcTelemetry τ M :=
  { s with calls := update s.calls task pc }

/-- The `xQueueSend` of a task succeeds. -/
def RpcTelemetry.enqueue (s : RpcTelemetry τ M) (task : τ) (msg : M) : RpcTelemetry τ M :=
  let entry : TelemEntry M := ⟨s.placed.length, msg⟩
  RpcTelemetry.setCall { s with queue := s.queue ++ [entry], placed := s.placed ++ [entry] } task
    (.counting entry)

/-- The `xQueueReceive` of a task that needs room. -/
def RpcTelemetry.discardOldest (s : RpcTelemetry τ M) (task : τ) (msg : M) : RpcTelemetry τ M :=
  match s.queue with
  | [] => s.setCall task (.retrying msg)
  | oldest :: rest =>
    RpcTelemetry.setCall
      { s with queue := rest, discarded := s.discarded ++ [⟨oldest, task, msg⟩] } task
      (.retrying msg)

def rpcTelemetryStep (s : RpcTelemetry τ M) : TelemetryEvent τ M → Option (RpcTelemetry τ M)
  | .call task msg =>
    match s.calls task with
    | .idle => some (s.setCall task (.sending msg))
    | _ => none
  | .place task =>
    match s.calls task with
    | .sending msg =>
      -- it waits for up to 5 ms, in which the receiver may make room
      if s.queue.length < rpcTelemQueueDepth then some (s.enqueue task msg) else none
    | _ => none
  | .timeOut task =>
    match s.calls task with
    | .sending msg =>
      if rpcTelemQueueDepth ≤ s.queue.length then
        some (RpcTelemetry.setCall { s with foundFull := (task, msg) :: s.foundFull } task
          (.discarding msg))
      else none
    | _ => none
  | .discard task =>
    match s.calls task with
    | .discarding msg => some (s.discardOldest task msg)
    | _ => none
  | .retry task =>
    match s.calls task with
    | .retrying msg =>
      if s.queue.length < rpcTelemQueueDepth then some (s.enqueue task msg)
      -- another task was faster: -1
      else
        some (RpcTelemetry.setCall { s with telemDropped := s.telemDropped + 1 } task .idle)
    | _ => none
  | .count task =>
    match s.calls task with
    | .counting entry =>
      some (RpcTelemetry.setCall
        { s with telemSent := s.telemSent + 1, returned := s.returned ++ [entry] } task .idle)
    | _ => none
  | .receive =>
    match s.receiver, s.queue with
    | .idle, [] => some s
    | .idle, entry :: rest =>
      some { s with queue := rest, received := s.received ++ [entry], receiver := .counting }
    | .counting, _ => none
  | .countReceived =>
    match s.receiver with
    | .counting => some { s with telemRecv := s.telemRecv + 1, receiver := .idle }
    | .idle => none

/-! ## What is promised -/

/-- Nobody is in a call. -/
def Quiescent (s : RpcTelemetry τ M) : Prop := (∀ task, s.calls task = .idle) ∧ s.receiver = .idle

/-- What was reported as sent is received, or will be, and the counters agree. -/
structure SentDelivered (s : RpcTelemetry τ M) : Prop where
  delivered : ∀ e ∈ s.returned, e ∈ s.received ∨ e ∈ s.queue
  counted : Quiescent s → s.telemSent = s.telemRecv + BitVec.ofNat 32 s.queue.length

/-- What is kept of that promise by a queue that drops its oldest message when it is full. -/
structure SentAccounted (s : RpcTelemetry τ M) : Prop where
  /-- Received in the order in which they were placed. -/
  order : (s.received ++ s.queue).Sublist s.placed
  /-- At most once, and not when it is discarded. -/
  once : (s.received ++ s.queue ++ s.discarded.map Discard.entry).Nodup
  fate : ∀ e ∈ s.returned, e ∈ s.received ∨ e ∈ s.queue ∨ ∃ d ∈ s.discarded, d.entry = e
  /-- A message is discarded only by a call that found the queue full. -/
  full : ∀ d ∈ s.discarded, (d.task, d.msg) ∈ s.foundFull
  lossless : s.foundFull = [] → ∀ e ∈ s.returned, e ∈ s.received ∨ e ∈ s.queue
  counted : Quiescent s →
    s.telemSent = s.telemRecv + BitVec.ofNat 32 (s.discarded.length + s.queue.length)

/-! ## The ledger -/

/-- Where every message that was placed is, and who has still to count it. -/
structure Ledger (s : RpcTelemetry τ M) : Prop where
  numbers : s.placed.map TelemEntry.number = List.range s.placed.length
  places : (s.received ++ s.queue ++ s.discarded.map Discard.entry).Perm s.placed
  order : (s.received ++ s.queue).Sublist s.placed
  returned_placed : ∀ e ∈ s.returned, e ∈ s.placed
  returned_nodup : s.returned.Nodup
  uncounted : ∀ e ∈ s.placed, e ∈ s.returned ∨ ∃ task, s.calls task = .counting e
  counting_placed : ∀ task e, s.calls task = .counting e → e ∈ s.placed ∧ e ∉ s.returned
  counting_unique : ∀ task task' e, s.calls task = .counting e → s.calls task' = .counting e →
    task = task'
  discarding_full : ∀ task msg, s.calls task = .discarding msg → (task, msg) ∈ s.foundFull
  discarded_full : ∀ d ∈ s.discarded, (d.task, d.msg) ∈ s.foundFull
  sent : s.telemSent = BitVec.ofNat 32 s.returned.length
  recv : s.telemRecv + (if s.receiver = .counting then 1 else 0)
    = BitVec.ofNat 32 s.received.length

omit [DecidableEq τ] in
theorem Ledger.placed_nodup {s : RpcTelemetry τ M} (h : Ledger s) : s.placed.Nodup := by
  apply List.Nodup.of_map TelemEntry.number
  rw [h.numbers]
  exact List.nodup_range

omit [DecidableEq τ] in
theorem Ledger.init : Ledger (rpcTelemetryInit : RpcTelemetry τ M) where
  numbers := rfl
  places := List.Perm.nil
  order := List.Sublist.slnil
  returned_placed := fun e he => by cases he
  returned_nodup := List.nodup_nil
  uncounted := fun e he => by cases he
  counting_placed := fun task e he => by cases he
  counting_unique := fun task task' e he => by cases he
  discarding_full := fun task msg he => by cases he
  discarded_full := fun d hd => by cases hd
  sent := rfl
  recv := rfl

variable {task : τ}

theorem Ledger.setCall {s : RpcTelemetry τ M} (h : Ledger s) {pc : SendPc M}
    (hbefore : ∀ e, s.calls task ≠ .counting e) (hafter : ∀ e, pc ≠ .counting e)
    (hfull : ∀ msg, pc = .discarding msg → (task, msg) ∈ s.foundFull) : Ledger (s.setCall task pc) := by
  -- who counts is the same as before
  have hcounting : ∀ task' e, (s.setCall task pc).calls task' = .counting e ↔
      s.calls task' = .counting e := by
    intro task' e
    show update s.calls task pc task' = _ ↔ _
    by_cases htask : task' = task
    · subst htask
      rw [update_self]
      exact iff_of_false (hafter e) (hbefore e)
    · rw [update_of_ne htask]
  refine { h with
    uncounted := fun e he => ?_
    counting_placed := fun task' e he => h.counting_placed task' e ((hcounting task' e).mp he)
    counting_unique := fun t t' e ht ht' =>
      h.counting_unique t t' e ((hcounting t e).mp ht) ((hcounting t' e).mp ht')
    discarding_full := fun task' msg he => ?_ }
  · rcases h.uncounted e he with hret | ⟨task', htask'⟩
    · exact Or.inl hret
    · exact Or.inr ⟨task', (hcounting task' e).mpr htask'⟩
  change update s.calls task pc task' = _ at he
  by_cases htask : task' = task
  · subst htask
    rw [update_self] at he
    exact hfull msg he
  · rw [update_of_ne htask] at he
    exact h.discarding_full task' msg he

omit [DecidableEq τ] in
theorem Ledger.next_fresh {s : RpcTelemetry τ M} (h : Ledger s) (msg : M) :
    (⟨s.placed.length, msg⟩ : TelemEntry M) ∉ s.placed := by
  intro hmem
  have hnumber := List.mem_map_of_mem (f := TelemEntry.number) hmem
  rw [h.numbers, List.mem_range] at hnumber
  exact Nat.lt_irrefl _ hnumber

theorem Ledger.enqueue {s : RpcTelemetry τ M} (h : Ledger s) {msg : M}
    (hbefore : ∀ e, s.calls task ≠ .counting e) : Ledger (s.enqueue task msg) := by
  have hfresh := h.next_fresh msg
  have hself : (s.enqueue task msg).calls task = .counting ⟨s.placed.length, msg⟩ :=
    update_self ..
  have hother : ∀ task', task' ≠ task → (s.enqueue task msg).calls task' = s.calls task' :=
    fun task' hne => update_of_ne hne ..
  constructor
  case numbers =>
    show (s.placed ++ [_]).map _ = List.range (s.placed ++ [_]).length
    rw [List.map_append, h.numbers, List.length_append, List.length_singleton, List.range_succ]
    rfl
  case places =>
    -- the new entry is last in the queue
    show (s.received ++ (s.queue ++ [_]) ++ s.discarded.map Discard.entry).Perm (s.placed ++ [_])
    refine List.Perm.trans ?_ (h.places.append_right _)
    simp only [List.append_assoc]
    exact (List.Perm.append_left _ (List.Perm.append_left _ List.perm_append_comm))
  case order =>
    show (s.received ++ (s.queue ++ [_])).Sublist (s.placed ++ [_])
    rw [← List.append_assoc]
    exact h.order.append (List.Sublist.refl _)
  case returned_placed =>
    exact fun e he => List.mem_append_left _ (h.returned_placed e he)
  case returned_nodup => exact h.returned_nodup
  case uncounted =>
    intro e he
    rcases List.mem_append.mp he with hold | hnew
    · rcases h.uncounted e hold with hret | ⟨task', htask'⟩
      · exact Or.inl hret
      · refine Or.inr ⟨task', ?_⟩
        rw [hother task' fun heq => hbefore e (heq ▸ htask')]
        exact htask'
    · obtain rfl := List.mem_singleton.mp hnew
      exact Or.inr ⟨task, hself⟩
  case counting_placed =>
    intro task' e he
    by_cases htask : task' = task
    · subst htask
      rw [hself] at he
      injection he with he
      subst he
      exact ⟨List.mem_append_right _ (List.mem_singleton_self _),
        fun hret => hfresh (h.returned_placed _ hret)⟩
    · rw [hother task' htask] at he
      obtain ⟨hplaced, hret⟩ := h.counting_placed task' e he
      exact ⟨List.mem_append_left _ hplaced, hret⟩
  case counting_unique =>
    -- the new entry is in no other task's hands
    have hnew : ∀ t e, t ≠ task → (s.enqueue task msg).calls t = .counting e →
        e ≠ ⟨s.placed.length, msg⟩ := by
      intro t e hne ht heq
      rw [hother t hne] at ht
      exact hfresh (heq ▸ (h.counting_placed t e ht).1)
    have hown : ∀ e, (s.enqueue task msg).calls task = .counting e →
        e = ⟨s.placed.length, msg⟩ := by
      intro e he
      rw [hself] at he
      injection he with he
      exact he.symm
    intro t t' e ht ht'
    by_cases htask : t = task
    · by_cases htask' : t' = task
      · exact htask.trans htask'.symm
      · subst htask
        exact absurd (hown e ht) (hnew t' e htask' ht')
    by_cases htask' : t' = task
    · subst htask'
      exact absurd (hown e ht') (hnew t e htask ht)
    · rw [hother t htask] at ht
      rw [hother t' htask'] at ht'
      exact h.counting_unique t t' e ht ht'
  case discarding_full =>
    intro task' m he
    by_cases htask : task' = task
    · subst htask
      rw [hself] at he
      cases he
    · rw [hother task' htask] at he
      exact h.discarding_full task' m he
  case discarded_full => exact h.discarded_full
  case sent => exact h.sent
  case recv => exact h.recv

theorem Ledger.discardOldest {s : RpcTelemetry τ M} (h : Ledger s) {msg : M}
    (hcall : s.calls task = .discarding msg) : Ledger (s.discardOldest task msg) := by
  have hbefore : ∀ e, s.calls task ≠ .counting e := by
    intro e he
    rw [hcall] at he
    cases he
  unfold RpcTelemetry.discardOldest
  cases hqueue : s.queue with
  | nil => exact h.setCall hbefore (fun e he => by cases he) fun m he => by cases he
  | cons oldest rest =>
    refine Ledger.setCall ?_ hbefore (fun e he => by cases he) fun m he => by cases he
    have hplaces := h.places
    have horder := h.order
    rw [hqueue] at hplaces horder
    -- the oldest one changes its place, and leaves a gap in the order
    refine { h with places := ?_, order := ?_, discarded_full := ?_ }
    · show (s.received ++ rest ++ (s.discarded ++ [_]).map Discard.entry).Perm s.placed
      have hperm := List.perm_append_singleton oldest (rest ++ s.discarded.map Discard.entry)
      refine List.Perm.trans ?_ hplaces
      simp only [List.map_append, List.map_cons, List.map_nil, List.append_assoc,
        List.cons_append] at hperm ⊢
      exact hperm.append_left _
    · exact List.Sublist.trans (List.Sublist.append_left (List.sublist_cons_self ..) _) horder
    intro d hd
    rcases List.mem_append.mp hd with hold | hnew
    · exact h.discarded_full d hold
    · obtain rfl := List.mem_singleton.mp hnew
      exact h.discarding_full task msg hcall

theorem Ledger.timeOut {s : RpcTelemetry τ M} (h : Ledger s) {msg : M}
    (hcall : s.calls task = .sending msg) :
    Ledger (RpcTelemetry.setCall { s with foundFull := (task, msg) :: s.foundFull } task
      (.discarding msg)) := by
  refine Ledger.setCall ?_ (fun e he => ?_) (fun e he => by cases he) fun m he => ?_
  · refine { h with discarding_full := ?_, discarded_full := ?_ }
    · exact fun task' m he => List.mem_cons_of_mem _ (h.discarding_full task' m he)
    · exact fun d hd => List.mem_cons_of_mem _ (h.discarded_full d hd)
  · change s.calls task = _ at he
    rw [hcall] at he
    cases he
  · injection he with he
    subst he
    exact List.mem_cons_self ..

theorem Ledger.count {s : RpcTelemetry τ M} (h : Ledger s) {entry : TelemEntry M}
    (hcall : s.calls task = .counting entry) : Ledger (RpcTelemetry.setCall
      { s with telemSent := s.telemSent + 1, returned := s.returned ++ [entry] } task .idle) := by
  obtain ⟨hplaced, hnot⟩ := h.counting_placed task entry hcall
  have hother : ∀ task', task' ≠ task → update s.calls task .idle task' = s.calls task' :=
    fun task' hne => update_of_ne hne ..
  -- who still counts is another task, with another entry
  have hcounting : ∀ task' e, update s.calls task .idle task' = .counting e →
      task' ≠ task ∧ s.calls task' = .counting e := by
    intro task' e he
    by_cases htask : task' = task
    · subst htask
      rw [update_self] at he
      cases he
    · rw [hother task' htask] at he
      exact ⟨htask, he⟩
  refine { h with
    returned_placed := ?_
    returned_nodup := ?_
    uncounted := ?_
    counting_placed := ?_
    counting_unique := ?_
    discarding_full := ?_
    sent := ?_ }
  · intro e he
    rcases List.mem_append.mp he with hold | hnew
    · exact h.returned_placed e hold
    · obtain rfl := List.mem_singleton.mp hnew
      exact hplaced
  · exact List.nodup_append'.mpr ⟨h.returned_nodup, List.nodup_singleton _,
      List.disjoint_singleton.mpr hnot⟩
  · intro e he
    rcases h.uncounted e he with hret | ⟨task', htask'⟩
    · exact Or.inl (List.mem_append_left _ hret)
    by_cases htask : task' = task
    · subst htask
      rw [hcall] at htask'
      injection htask' with heq
      exact Or.inl (List.mem_append_right _ (List.mem_singleton.mpr heq.symm))
    · exact Or.inr ⟨task', (hother task' htask).trans htask'⟩
  · intro task' e he
    obtain ⟨hne, hcall'⟩ := hcounting task' e he
    refine ⟨(h.counting_placed task' e hcall').1, fun hmem => ?_⟩
    rcases List.mem_append.mp hmem with hold | hnew
    · exact (h.counting_placed task' e hcall').2 hold
    · obtain rfl := List.mem_singleton.mp hnew
      exact hne (h.counting_unique task' task e hcall' hcall)
  · intro t t' e ht ht'
    exact h.counting_unique t t' e (hcounting t e ht).2 (hcounting t' e ht').2
  · intro task' msg he
    by_cases htask : task' = task
    · subst htask
      change update s.calls task' .idle task' = _ at he
      rw [update_self] at he
      cases he
    · change update s.calls task .idle task' = _ at he
      rw [hother task' htask] at he
      exact h.discarding_full task' msg he
  · show s.telemSent + 1 = BitVec.ofNat 32 (s.returned ++ [entry]).length
    rw [h.sent, List.length_append, List.length_singleton, BitVec.ofNat_add]
    rfl

omit [DecidableEq τ] in
theorem Ledger.receive {s : RpcTelemetry τ M} (h : Ledger s) {entry : TelemEntry M}
    {rest : List (TelemEntry M)} (hqueue : s.queue = entry :: rest) (hidle : s.receiver = .idle) :
    Ledger { s with
      queue := rest
      received := s.received ++ [entry]
      receiver := .counting } := by
  have hplaces := h.places
  have horder := h.order
  have hrecv := h.recv
  rw [hqueue] at hplaces horder
  rw [hidle] at hrecv
  refine { h with places := ?_, order := ?_, recv := ?_ }
  · show (s.received ++ [entry] ++ rest ++ _).Perm s.placed
    rw [List.append_assoc s.received]
    exact hplaces
  · show (s.received ++ [entry] ++ rest).Sublist s.placed
    rw [List.append_assoc]
    exact horder
  show s.telemRecv + _ = BitVec.ofNat 32 (s.received ++ [entry]).length
  rw [List.length_append, List.length_singleton, BitVec.ofNat_add, ← hrecv, if_pos rfl,
    if_neg (by decide)]
  simp

omit [DecidableEq τ] in
theorem Ledger.countReceived {s : RpcTelemetry τ M} (h : Ledger s) (hcount : s.receiver = .counting) :
    Ledger { s with telemRecv := s.telemRecv + 1, receiver := .idle } := by
  have hrecv := h.recv
  rw [hcount, if_pos rfl] at hrecv
  refine { h with recv := ?_ }
  show s.telemRecv + 1 + (if ReceivePc.idle = .counting then 1 else 0) = _
  rw [hrecv, if_neg (by decide)]
  simp

theorem Ledger.step {s s' : RpcTelemetry τ M} {e : TelemetryEvent τ M} (h : Ledger s)
    (hs' : rpcTelemetryStep s e = some s') : Ledger s' := by
  cases e with
  | call task msg =>
    simp only [rpcTelemetryStep] at hs'
    split at hs'
    case h_1 hcall =>
      cases hs'
      exact h.setCall (fun e he => by rw [hcall] at he; cases he) (fun e he => by cases he)
        fun m he => by cases he
    case h_2 => cases hs'
  | place task =>
    simp only [rpcTelemetryStep] at hs'
    split at hs'
    case h_1 msg hcall =>
      split_ifs at hs'
      cases hs'
      exact h.enqueue fun e he => by rw [hcall] at he; cases he
    case h_2 => cases hs'
  | timeOut task =>
    simp only [rpcTelemetryStep] at hs'
    split at hs'
    case h_1 msg hcall =>
      split_ifs at hs'
      cases hs'
      exact h.timeOut hcall
    case h_2 => cases hs'
  | discard task =>
    simp only [rpcTelemetryStep] at hs'
    split at hs'
    case h_1 msg hcall =>
      cases hs'
      exact h.discardOldest hcall
    case h_2 => cases hs'
  | retry task =>
    simp only [rpcTelemetryStep] at hs'
    split at hs'
    case h_1 msg hcall =>
      have hbefore : ∀ e, s.calls task ≠ .counting e := by
        intro e he
        rw [hcall] at he
        cases he
      split_ifs at hs'
      · cases hs'
        exact h.enqueue hbefore
      · cases hs'
        refine Ledger.setCall ?_ hbefore (fun e he => by cases he) fun m he => by cases he
        exact { h with }
    case h_2 => cases hs'
  | count task =>
    simp only [rpcTelemetryStep] at hs'
    split at hs'
    case h_1 entry hcall =>
      cases hs'
      exact h.count hcall
    case h_2 => cases hs'
  | receive =>
    simp only [rpcTelemetryStep] at hs'
    split at hs'
    case h_1 hidle hqueue =>
      cases hs'
      exact h
    case h_2 entry rest hidle hqueue =>
      cases hs'
      exact h.receive hqueue hidle
    case h_3 => cases hs'
  | countReceived =>
    simp only [rpcTelemetryStep] at hs'
    split at hs'
    case h_1 hcount =>
      cases hs'
      exact h.countReceived hcount
    case h_2 => cases hs'

/-! ## What is reported as sent -/

omit [DecidableEq τ] in
theorem Ledger.quiescent_length {s : RpcTelemetry τ M} (h : Ledger s) (hq : Quiescent s) :
    s.returned.length = s.received.length + s.queue.length + s.discarded.length := by
  -- both have no repeats, and each one placed is counted or in the hands of a call
  have hperm : s.returned.Perm s.placed := by
    refine (List.perm_ext_iff_of_nodup h.returned_nodup h.placed_nodup).mpr fun e => ?_
    constructor
    · exact h.returned_placed e
    intro he
    rcases h.uncounted e he with hret | ⟨task, htask⟩
    · exact hret
    · rw [hq.1 task] at htask
      cases htask
  rw [hperm.length_eq, ← h.places.length_eq]
  simp only [List.length_append, List.length_map]

omit [DecidableEq τ] in
theorem Ledger.accounted {s : RpcTelemetry τ M} (h : Ledger s) : SentAccounted s := by
  have hfate : ∀ e ∈ s.returned, e ∈ s.received ∨ e ∈ s.queue ∨ ∃ d ∈ s.discarded, d.entry = e := by
    intro e he
    have hmem := h.places.mem_iff.mpr (h.returned_placed e he)
    rw [List.mem_append, List.mem_append, List.mem_map, or_assoc] at hmem
    -- the ledger has every placed message in exactly one place
    exact hmem
  refine ⟨h.order, h.places.nodup_iff.mpr h.placed_nodup, hfate, h.discarded_full, ?_, ?_⟩
  · intro hnever e he
    rcases hfate e he with hrecv | hqueue | ⟨d, hd, -⟩
    · exact Or.inl hrecv
    · exact Or.inr hqueue
    · have hfull := h.discarded_full d hd
      rw [hnever] at hfull
      cases hfull
  intro hq
  have hrecv := h.recv
  rw [hq.2, if_neg (by decide)] at hrecv
  simp only [BitVec.ofNat_eq_ofNat, BitVec.add_zero] at hrecv
  rw [h.sent, hrecv, h.quiescent_length hq, Nat.add_assoc, Nat.add_comm s.queue.length,
    BitVec.ofNat_add]

end

/-- One task sends a message that finds room. -/
def sendWithRoom (msg : Nat) : List (TelemetryEvent Unit Nat) :=
  [.call () msg, .place (), .count ()]

/-- Nine messages for eight places, as in the answer to a list of parameters, and then the
receiver runs. -/
def sendNine : List (TelemetryEvent Unit Nat) :=
  (List.range 8).flatMap sendWithRoom
    ++ [.call () 8, .timeOut (), .discard (), .retry (), .count ()]
    ++ (List.replicate 8 [.receive, .countReceived]).flatten

end MmIotEsp32.HeliFc
