/-
  MmIotEsp32.HeliFc.WaypointFlown

  The mission that sysmon keeps and the flight controller flies.
-/
import MmIotEsp32.HeliFc.Agents.AutonomousPhases

namespace MmIotEsp32.HeliFc

open Lib

variable {F D : Type*} [CFloat F] [CFloat D] [CFormats F D]

/-! ## The commands, statement by statement -/

/-- The statements that write the statics of `mission_mgr.c`. -/
inductive MgrStatement where
  | clearItems
  | setCount (count : U16)
  | clearStored
  | setCurrent (seq : U16)
  | copyItem (seq : U16) (item : MissionItem)
  | stampSeq (seq : U16)
  | countStored
  deriving Repr, DecidableEq

def MgrStatement.run (m : MissionMgr) : MgrStatement → MissionMgr
  | .clearItems => { m with items := fun _ => .zero }
  | .setCount count => { m with count := count }
  | .clearStored => { m with stored := 0 }
  | .setCurrent seq => { m with current := seq }
  | .copyItem seq item => { m with items := Function.update m.items seq.toNat item }
  | .stampSeq seq =>
    { m with
      items := Function.update m.items seq.toNat { m.items seq.toNat with seq := seq } }
  | .countStored => { m with stored := m.stored + 1 }

/-- The count that `mission_mgr_set_count` keeps. -/
def clampCount (count : U16) : U16 :=
  if missionMaxItems < count.toNat then BitVec.ofNat 16 missionMaxItems else count

/-- The end of `mission_mgr_set_count` and of `mission_mgr_clear`. -/
def resetStatements (count : U16) : List MgrStatement :=
  [.clearItems, .setCount count, .clearStored, .setCurrent 0]

/-- What a command makes sysmon execute, behind the checks of the index. -/
def commandStatements (m : MissionMgr) : RpcCommandMsg → List MgrStatement
  | .missionCount count => resetStatements (clampCount count)
  | .missionItem item =>
    if m.count.toNat ≤ item.seq.toNat ∨ missionMaxItems ≤ item.seq.toNat then []
    else [.copyItem item.seq item, .stampSeq item.seq, .countStored]
  | .missionRequestList => []
  | .missionClearAll => resetStatements 0
  | .missionSetCurrent seq => if seq.toNat < m.count.toNat then [.setCurrent seq] else []
  | .other => []

/-! ## The two tasks -/

structure MissionShare (F D : Type*) where
  ctrl : FlightCtrl F D
  mgr : MissionMgr
  /-- What sysmon has not executed yet of the command that it handles. -/
  todo : List MgrStatement
  /-- What `mission_mgr_get_current` has last returned to the flight controller. -/
  lastRead : U16

inductive ShareEvent (F D : Type*) where
  /-- Sysmon takes a command. -/
  | command (cmd : RpcCommandMsg)
  /-- Sysmon executes a statement of it. -/
  | statement
  /-- The flight controller iterates. -/
  | iterate (e : FlightInput F D)

def shareInit (params : Params F) (nowUs : U64) : MissionShare F D :=
  ⟨flightCtrlInit params nowUs, missionMgrInit, [], 0⟩

/-- The iteration finds the mission as it is. -/
def sees (g : MissionShare F D) (e : FlightInput F D) : FlightInput F D :=
  { e with mission := g.mgr }

/-- The iteration is one of `FLIGHT_MODE_MISSION`, with a mission and with a fix. -/
def navigatesMission (s : FlightCtrl F D) (m : MissionMgr) : Bool :=
  decide (s.status.armState = .armed) && decide (s.status.flightMode = .mission)
    && !s.missionFallsBack m

/-- It calls `mission_mgr_advance`. -/
def advancesMission (s : FlightCtrl F D) (m : MissionMgr) : Bool :=
  !missionMgrIsComplete m &&
    match missionMgrGetItem m (missionEntered s m).missionWpSeq with
    | none => true
    | some wp => (missionEntered s m).reached wp && decide (wp.autocontinue ≠ 0)

/-- What the iteration's last `mission_mgr_get_current` returns; `last` is what the one before
the iteration has returned. -/
def seqRead (s : FlightCtrl F D) (m : MissionMgr) (last : U16) : U16 :=
  if navigatesMission s m then
    if advancesMission s m then (missionMgrAdvance m).current
    else if s.Enters .mission then m.current else last
  else last

def shareStep (passes : Nat) (g : MissionShare F D) : ShareEvent F D → Option (MissionShare F D)
  | .command cmd =>
    if g.todo = [] then some { g with todo := commandStatements g.mgr cmd } else none
  | .statement =>
    match g.todo with
    | [] => none
    | statement :: rest => some { g with mgr := statement.run g.mgr, todo := rest }
  | .iterate e =>
    (flightIterate passes g.ctrl (sees g e)).map fun r =>
      { g with
        ctrl := r.1
        mgr := r.2
        lastRead := seqRead (flightRead g.ctrl e) g.mgr g.lastRead }

/-- The index of the item that the iteration steers to. -/
def flownSeq (g : MissionShare F D) (e : FlightInput F D) : Option U16 :=
  let seq := (missionEntered (flightRead g.ctrl e) g.mgr).missionWpSeq
  (missionMgrGetItem g.mgr seq).map fun _ => seq

/-- The iteration has a waypoint to navigate to. -/
def underway (g : MissionShare F D) (e : FlightInput F D) : Bool :=
  navigatesMission (flightRead g.ctrl e) g.mgr && !missionMgrIsComplete g.mgr

/-- The current index does not exceed the count. -/
def MissionMgr.InRange (m : MissionMgr) : Prop := m.current.toNat ≤ m.count.toNat

instance (m : MissionMgr) : Decidable m.InRange := inferInstanceAs (Decidable (_ ≤ _))

/-- What is demanded wherever one of the tasks looks at the mission: sysmon between two
commands, the flight controller in each iteration. -/
def FliesCurrent (g : MissionShare F D) : ShareEvent F D → Prop
  | .iterate e => g.mgr.InRange ∧ (underway g e = true → flownSeq g e = some g.mgr.current)
  | .command _ => g.todo = [] → g.mgr.InRange
  | .statement => True

/-- Sysmon has written the new count and not the new index. -/
def countWritten (todo : List MgrStatement) : Bool :=
  decide (todo = [.clearStored, .setCurrent 0]) || decide (todo = [.setCurrent 0])

/-- An iteration does not come between the two when the new count is below the index; and
after the first iteration in the mode, the index is the one that the flight controller has
last asked for. -/
def IndexStays (g : MissionShare F D) : ShareEvent F D → Prop
  | .iterate e => (countWritten g.todo = true → g.mgr.InRange)
      ∧ (underway g e = true → ¬ (flightRead g.ctrl e).Enters .mission →
        g.mgr.current = g.lastRead)
  | _ => True

/-! ## What a mode does to the waypoint -/

theorem missionEntered_seq (s : FlightCtrl F D) (m : MissionMgr) :
    (missionEntered s m).missionWpSeq
      = if s.Enters .mission then m.current else s.missionWpSeq := by
  unfold missionEntered
  split <;> rfl

theorem ModeMove.waypoint {c : FlightCycle F} {s t : FlightCtrl F D} {m m' : MissionMgr}
    {flag : Bool} (h : ModeMove c s m .mission t flag m') :
    t.missionWpSeq = (if s.missionFallsBack m then s.missionWpSeq
        else if advancesMission s m then (missionMgrAdvance m).current
        else (missionEntered s m).missionWpSeq)
      ∧ (m' = m ∨ m' = missionMgrAdvance m) := by
  unfold advancesMission
  cases h with
  | missionHolds hback hs =>
    rw [if_pos hback, hs, missionHold_frame]
    exact ⟨rfl, Or.inl rfl⟩
  | missionDone hback hdone hs =>
    rw [hback, hdone, hs]
    exact ⟨rfl, Or.inl rfl⟩
  | missionSkips hback hdone hitem hs =>
    rw [hback, hdone, hitem, hs]
    exact ⟨rfl, Or.inr rfl⟩
  | missionFlies hback hdone hitem hs hgoes =>
    rw [hback, hdone, hitem, hs]
    refine ⟨(if_neg ?_).symm, Or.inl rfl⟩
    simpa using hgoes
  | missionNext hback hdone hitem hs hgoes =>
    rw [hback, hdone, hitem]
    refine ⟨(if_pos ?_).symm, Or.inr rfl⟩
    simpa using hgoes

theorem ModeMove.waypoint_other {c : FlightCycle F} {s t : FlightCtrl F D} {m m' : MissionMgr}
    {mode : FlightMode} {flag : Bool} (h : ModeMove c s m mode t flag m')
    (hmode : mode ≠ .mission) : t.missionWpSeq = s.missionWpSeq ∧ m' = m := by
  cases h with
  | manual | acro => exact ⟨rfl, rfl⟩
  | stabilize hs => exact ⟨by rw [hs], rfl⟩
  | altHold hs => exact ⟨by rw [hs, altHoldSetpoint_frame], rfl⟩
  | loiter hs => exact ⟨by rw [hs, loiterSetpoint_frame], rfl⟩
  | rthHolds _ hs => exact ⟨by rw [hs, rthHold_frame], rfl⟩
  | rth _ hs => exact ⟨by rw [hs, rthAdvance_frame, rthStart_frame], rfl⟩
  | land hs => exact ⟨by rw [touchdownDetection_frame, hs, landSetpoint_frame], rfl⟩
  | missionHolds | missionDone | missionSkips | missionFlies | missionNext => exact absurd rfl hmode

theorem missionEntered_ready (passes : Nat) (s : FlightCtrl F D) (e : FlightInput F D)
    (m : MissionMgr) :
    missionEntered (readyState passes s e) m
      = { missionEntered (flightRead s e) m with
          prevCollective := (cycleOf passes s e).rcColl } := by
  unfold missionEntered
  by_cases henters : (flightRead s e).Enters .mission
  · have hready : (readyState passes s e).Enters .mission := henters
    rw [if_pos henters, if_pos hready]
    rfl
  · have hready : ¬ (readyState passes s e).Enters .mission := henters
    rw [if_neg henters, if_neg hready]
    rfl

theorem advancesMission_ready (passes : Nat) (s : FlightCtrl F D) (e : FlightInput F D) :
    advancesMission (readyState passes s e) e.mission
      = advancesMission (flightRead s e) e.mission := by
  unfold advancesMission
  rw [missionEntered_ready]
  rfl

theorem flightIterate_waypoint {passes : Nat} {s : FlightCtrl F D} {e : FlightInput F D}
    {r : FlightCtrl F D × MissionMgr} (h : flightIterate passes s e = some r) :
    r.1.missionWpSeq = seqRead (flightRead s e) e.mission s.missionWpSeq
      ∧ (r.2 = e.mission ∨ r.2 = missionMgrAdvance e.mission) := by
  have hkept := (flightRead_keepsModes s e).missionWpSeq
  unfold seqRead navigatesMission
  by_cases harm : (flightRead s e).status.armState = .armed
  · obtain ⟨t, act, hmove, heq⟩ := flightIterate_move harm h
    rw [heq]
    by_cases hmode : (flightRead s e).status.flightMode = .mission
    · rw [hmode] at hmove
      obtain ⟨hseq, hmgr⟩ := hmove.waypoint
      refine ⟨hseq.trans ?_, hmgr⟩
      rw [missionEntered_ready, advancesMission_ready, missionEntered_seq, hkept]
      have hback : (readyState passes s e).missionFallsBack e.mission
        = (flightRead s e).missionFallsBack e.mission := rfl
      have hready : (readyState passes s e).missionWpSeq = s.missionWpSeq := hkept
      rw [hback, hready]
      cases (flightRead s e).missionFallsBack e.mission <;> simp [harm, hmode]
    obtain ⟨hseq, hmgr⟩ := hmove.waypoint_other hmode
    refine ⟨?_, Or.inl hmgr⟩
    rw [decide_eq_false hmode, Bool.and_false, Bool.false_and, if_neg Bool.false_ne_true]
    exact hseq.trans hkept
  rw [flightIterate_disarmed harm] at h
  cases h
  rw [decide_eq_false harm, Bool.false_and, Bool.false_and, if_neg Bool.false_ne_true]
  exact ⟨hkept, Or.inl rfl⟩

/-! ## What holds between the steps -/

/-- Where sysmon is in its command, and what it has made of the mission. -/
inductive TodoOk (m : MissionMgr) : List MgrStatement → Prop where
  | idle (h : m.InRange) : TodoOk m []
  | clears {count : U16} (h : m.InRange) (hcount : count.toNat ≤ missionMaxItems) :
      TodoOk m (resetStatements count)
  | counts {count : U16} (h : m.InRange) (hcount : count.toNat ≤ missionMaxItems) :
      TodoOk m [.setCount count, .clearStored, .setCurrent 0]
  | counted : TodoOk m [.clearStored, .setCurrent 0]
  | cleared : TodoOk m [.setCurrent 0]
  | copies {seq : U16} {item : MissionItem} (h : m.InRange) :
      TodoOk m [.copyItem seq item, .stampSeq seq, .countStored]
  | stamps {seq : U16} (h : m.InRange) : TodoOk m [.stampSeq seq, .countStored]
  | stores (h : m.InRange) : TodoOk m [.countStored]
  | selects {seq : U16} (h : m.InRange) (hseq : seq.toNat < m.count.toNat) :
      TodoOk m [.setCurrent seq]

structure ShareInv (g : MissionShare F D) : Prop where
  waypoint : g.ctrl.missionWpSeq = g.lastRead
  count : g.mgr.count.toNat ≤ missionMaxItems
  todo : TodoOk g.mgr g.todo

omit [CFloat F] [CFloat D] [CFormats F D] in
variable {m : MissionMgr}

theorem TodoOk.inRange {todo : List MgrStatement} (h : TodoOk m todo)
    (hwritten : countWritten todo = false) : m.InRange := by
  cases h with
  | idle h | clears h | counts h | copies h | stamps h | stores h | selects h => exact h
  | counted | cleared => cases hwritten

theorem clampCount_le (count : U16) : (clampCount count).toNat ≤ missionMaxItems := by
  unfold clampCount
  split
  · decide
  · omega

theorem commandStatements_ok (h : m.InRange) (cmd : RpcCommandMsg) :
    TodoOk m (commandStatements m cmd) := by
  cases cmd with
  | missionCount count => exact .clears h (clampCount_le count)
  | missionItem item =>
    simp only [commandStatements]
    split
    · exact .idle h
    · exact .copies h
  | missionRequestList | other => exact .idle h
  | missionClearAll => exact .clears h (by decide)
  | missionSetCurrent seq =>
    simp only [commandStatements]
    split
    · next hseq => exact .selects h hseq
    · exact .idle h

theorem TodoOk.next {statement : MgrStatement} {rest : List MgrStatement}
    (h : TodoOk m (statement :: rest)) (hcount : m.count.toNat ≤ missionMaxItems) :
    TodoOk (statement.run m) rest ∧ (statement.run m).count.toNat ≤ missionMaxItems := by
  cases h with
  | clears h hnew => exact ⟨.counts h hnew, hcount⟩
  | counts h hnew => exact ⟨.counted, hnew⟩
  | counted => exact ⟨.cleared, hcount⟩
  | cleared => exact ⟨.idle (Nat.zero_le _), hcount⟩
  | copies h => exact ⟨.stamps h, hcount⟩
  | stamps h => exact ⟨.stores h, hcount⟩
  | stores h => exact ⟨.idle h, hcount⟩
  | selects h hseq => exact ⟨.idle (Nat.le_of_lt hseq), hcount⟩

theorem missionMgrAdvance_count (m : MissionMgr) : (missionMgrAdvance m).count = m.count := by
  unfold missionMgrAdvance
  split <;> rfl

theorem missionMgrAdvance_inRange (h : m.InRange) : (missionMgrAdvance m).InRange := by
  unfold missionMgrAdvance
  split
  · next hlt =>
      show (m.current + 1).toNat ≤ m.count.toNat
      have hsmall := m.count.isLt
      have hone : (1 : U16).toNat = 1 := rfl
      rw [BitVec.toNat_add, hone]
      omega
  · exact h

theorem TodoOk.advance {todo : List MgrStatement} (h : TodoOk m todo) :
    TodoOk (missionMgrAdvance m) todo := by
  cases h with
  | idle h => exact .idle (missionMgrAdvance_inRange h)
  | clears h hcount => exact .clears (missionMgrAdvance_inRange h) hcount
  | counts h hcount => exact .counts (missionMgrAdvance_inRange h) hcount
  | counted => exact .counted
  | cleared => exact .cleared
  | copies h => exact .copies (missionMgrAdvance_inRange h)
  | stamps h => exact .stamps (missionMgrAdvance_inRange h)
  | stores h => exact .stores (missionMgrAdvance_inRange h)
  | selects h hseq =>
    refine .selects (missionMgrAdvance_inRange h) ?_
    rw [missionMgrAdvance_count]
    exact hseq

omit [CFormats F D] in
theorem shareInit_inv (params : Params F) (nowUs : U64) :
    ShareInv (shareInit params nowUs : MissionShare F D) :=
  ⟨rfl, Nat.zero_le _, .idle (Nat.zero_le _)⟩

theorem shareStep_inv {passes : Nat} {g g' : MissionShare F D} {e : ShareEvent F D}
    (hinv : ShareInv g) (h : shareStep passes g e = some g') : ShareInv g' := by
  obtain ⟨hwaypoint, hcount, htodo⟩ := hinv
  cases e with
  | command cmd =>
    simp only [shareStep] at h
    split at h
    · next hidle =>
        cases h
        rw [hidle] at htodo
        exact ⟨hwaypoint, hcount, commandStatements_ok (htodo.inRange rfl) cmd⟩
    · cases h
  | statement =>
    simp only [shareStep] at h
    split at h
    · cases h
    next statement rest hrest =>
      cases h
      rw [hrest] at htodo
      obtain ⟨hnext, hle⟩ := htodo.next hcount
      exact ⟨hwaypoint, hle, hnext⟩
  | iterate e =>
    obtain ⟨r, hiterate, rfl⟩ := Option.map_eq_some_iff.mp h
    obtain ⟨hseq, hmgr⟩ := flightIterate_waypoint hiterate
    have hread : r.1.missionWpSeq = seqRead (flightRead g.ctrl e) g.mgr g.lastRead := by
      rw [← hwaypoint]
      exact hseq
    rcases hmgr with hmgr | hmgr
    · refine ⟨hread, ?_, ?_⟩
      · rw [hmgr]
        exact hcount
      · rw [hmgr]
        exact htodo
    refine ⟨hread, ?_, ?_⟩
    · rw [hmgr]
      exact (congrArg BitVec.toNat (missionMgrAdvance_count g.mgr)).trans_le hcount
    · rw [hmgr]
      exact htodo.advance

theorem flownSeq_eq_current_iff {g : MissionShare F D} {e : FlightInput F D} (hinv : ShareInv g)
    (hunderway : underway g e = true) :
    flownSeq g e = some g.mgr.current ↔
      (¬ (flightRead g.ctrl e).Enters .mission → g.mgr.current = g.lastRead) := by
  have hseq : (missionEntered (flightRead g.ctrl e) g.mgr).missionWpSeq
      = if (flightRead g.ctrl e).Enters .mission then g.mgr.current else g.lastRead := by
    rw [missionEntered_seq, (flightRead_keepsModes _ _).missionWpSeq, hinv.waypoint]
  have hincomplete : g.mgr.current.toNat < g.mgr.count.toNat := by
    simp only [underway, missionMgrIsComplete, Bool.and_eq_true, Bool.not_eq_true',
      Bool.or_eq_false_iff, decide_eq_false_iff_not] at hunderway
    omega
  have hitem : missionMgrGetItem g.mgr g.mgr.current = some (g.mgr.items g.mgr.current.toNat) := by
    refine if_neg ?_
    have hmax := hinv.count
    omega
  constructor
  · intro hflown henters
    obtain ⟨wp, -, heq⟩ := Option.map_eq_some_iff.mp hflown
    rw [hseq, if_neg henters] at heq
    exact heq.symm
  intro hstays
  have hcurrent : (missionEntered (flightRead g.ctrl e) g.mgr).missionWpSeq = g.mgr.current := by
    rw [hseq]
    split
    · rfl
    · next henters => exact (hstays henters).symm
  unfold flownSeq
  dsimp only
  rw [hcurrent, hitem]
  rfl

/-- In every run of the two tasks the waypoint that is flown is the current one if and only if
the index stays as it is under the flight controller. -/
theorem waypoint_flown_iff {passes : Nat} {params : Params F} {nowUs : U64}
    (events : List (ShareEvent F D)) :
    Along (shareStep passes) FliesCurrent (shareInit params nowUs) events ↔
      Along (shareStep passes) IndexStays (shareInit params nowUs) events := by
  have hinv : Throughout (shareStep passes) ShareInv
      (shareInit params nowUs : MissionShare F D) events :=
    throughout_of_invariant (fun _ _ _ hinv h => shareStep_inv hinv h)
      (shareInit_inv params nowUs) events
  refine Along.congr (Throughout.along_of ?_ hinv)
  intro g e hg
  cases e with
  | command cmd =>
    refine iff_true_intro fun hidle => hg.todo.inRange ?_
    rw [hidle]
    rfl
  | statement => exact Iff.rfl
  | iterate e =>
    refine and_congr ?_ ?_
    · constructor
      · exact fun h _ => h
      intro h
      cases hwritten : countWritten g.todo with
      | true => exact h hwritten
      | false => exact hg.todo.inRange hwritten
    · exact forall_congr' fun hunderway => flownSeq_eq_current_iff hg hunderway

/-- A waypoint, `degE7` north of the equator, where the vehicle is to stay. -/
def holdingItem (seq : U16) (degE7 : U32) : MissionItem :=
  { MissionItem.zero with seq := seq, command := 16, x := degE7, y := 80000000 }

/-- Two waypoints are uploaded, and flown from the first one. -/
def missionBegun : List (ShareEvent ℚ ℚ) :=
  .command (.missionCount 2) :: List.replicate 4 .statement
    ++ .command (.missionItem (holdingItem 0 471000000)) :: List.replicate 3 .statement
    ++ .command (.missionItem (holdingItem 1 472000000)) :: List.replicate 3 .statement
    ++ [.iterate (heardGps 2000 .disarmed .stabilize 3), .iterate (heardGps 4000 .armed .mission 3)]

/-- `MISSION_SET_CURRENT` has no effect on the vehicle: it goes on to the first waypoint. -/
theorem set_current_not_flown :
    ¬ ∀ events : List (ShareEvent ℚ ℚ),
      Along (shareStep 8) FliesCurrent (shareInit (paramInit fun _ => none) 0) events := by
  intro h
  have hrun : (runFrom (shareStep 8) (shareInit (paramInit fun _ => none) 0)
      (missionBegun ++ [.command (.missionSetCurrent 1), .statement])).any (fun g =>
        underway g (heardGps 6000 .armed .mission 3)
          && decide (flownSeq g (heardGps 6000 .armed .mission 3) = some 0)
          && decide (g.mgr.current = 1)) = true := by
    decide +kernel
  obtain ⟨g, hg, hlast⟩ := (Option.any_eq_true _ _).mp hrun
  simp only [Bool.and_eq_true, decide_eq_true_eq] at hlast
  obtain ⟨⟨hunderway, hflown⟩, hcurrent⟩ := hlast
  have hflies : FliesCurrent g (.iterate (heardGps 6000 .armed .mission 3)) :=
    (h ((missionBegun ++ [.command (.missionSetCurrent 1), .statement])
      ++ [.iterate (heardGps 6000 .armed .mission 3)])).last hg
  have hseq := hflies.2 hunderway
  rw [hflown, hcurrent] at hseq
  exact absurd hseq (by decide)

end MmIotEsp32.HeliFc
