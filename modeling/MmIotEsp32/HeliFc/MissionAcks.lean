/-
  MmIotEsp32.HeliFc.MissionAcks

  What the ground station is told about an upload.
-/
import MmIotEsp32.HeliFc.MissionTasks

namespace MmIotEsp32.HeliFc

open Lib

/-! ## What may be sent -/

/-- An acknowledgement stands for every item of the upload, and a request for one that is
not there yet. -/
structure SentOk (r : SentMessage) : Prop where
  ack : r.msg.payload = .missionAck mavMissionAccepted mavMissionTypeMission →
    ∀ up, r.upload = some up → up.Complete
  request : ∀ seq missionType, r.msg.payload = .missionRequestInt seq missionType →
    ∃ up, r.upload = some up ∧ seq.toNat < up.count.toNat ∧ seq ∉ up.stored

/-- The ground station ends the upload under way, or begins another one. -/
def endsUpload : MissionEvent → Bool
  | .receive _ msg =>
    match msg.payload with
    | .missionCount _ _ => true
    | .missionAck _ _ => true
    | .missionClearAll _ => true
    | _ => false
  | _ => false

/-- The handler stays in the upload, unless it is complete or the ground station ended it. -/
def LeavesWhenDone (s : MissionTasks) (e : MissionEvent) : Prop :=
  ∀ s', missionStep s e = some s' → s.handler.missionState = .uploading →
    s'.handler.missionState ≠ .uploading →
      endsUpload e = true ∨ ∃ up, s'.handler.upload = some up ∧ up.Complete

/-- What may be said to the handler during an upload: the item that it asked for, and
nothing that begins a download. -/
def FitsUpload (h : MavlinkHandler) : MavlinkPayload → Prop
  | .missionItemInt item => item.seq.toNat < missionMaxItems → item.seq = h.missionReceived
  | .missionRequestList missionType => missionType ≠ mavMissionTypeMission
  | _ => True

/-- While an upload is under way, each message fits it, and core 0 acknowledges nothing. -/
def KeepsOrder (s : MissionTasks) : MissionEvent → Prop
  | .drain _ => s.handler.missionState = .uploading →
      ∀ telem ∈ s.handler.rpcCtx.telemQueue.head?, telem.isMissionAck = false
  | .receive _ msg => s.handler.missionState = .uploading →
      ignored msg = false → FitsUpload s.handler msg.payload
  | _ => True

instance (h : MavlinkHandler) (p : MavlinkPayload) : Decidable (FitsUpload h p) :=
  match p with
  | .missionItemInt item =>
    inferInstanceAs (Decidable (item.seq.toNat < missionMaxItems → item.seq = h.missionReceived))
  | .missionRequestList missionType =>
    inferInstanceAs (Decidable (missionType ≠ mavMissionTypeMission))
  | .missionCount _ _ | .missionRequestInt _ _ | .missionAck _ _ | .missionClearAll _
  | .missionSetCurrent _ | .missionCurrent _ | .other => isTrue trivial

instance (s : MissionTasks) (e : MissionEvent) : Decidable (KeepsOrder s e) :=
  match e with
  | .drain _ => inferInstanceAs (Decidable (s.handler.missionState = .uploading →
      ∀ telem ∈ s.handler.rpcCtx.telemQueue.head?, telem.isMissionAck = false))
  | .receive _ msg => inferInstanceAs (Decidable (s.handler.missionState = .uploading →
      ignored msg = false → FitsUpload s.handler msg.payload))
  | .received | .command | .current | .telemetry | .advance => isTrue trivial

/-- An upload that has its first `received` items. -/
structure UnderWay (h : MavlinkHandler) (up : Upload) : Prop where
  upload : h.upload = some up
  expected : h.missionExpected = up.count
  count_le : up.count.toNat ≤ missionMaxItems
  received_lt : h.missionReceived.toNat < up.count.toNat
  stored : ∀ k, k ∈ up.stored ↔ k.toNat < h.missionReceived.toNat

structure AcksInv (h : MavlinkHandler) : Prop where
  sent : ∀ r ∈ h.sent, SentOk r
  uploading : h.missionState = .uploading → ∃ up, UnderWay h up
  otherwise : h.missionState ≠ .uploading → ∀ up, h.upload = some up → up.Complete

variable {h h' : MavlinkHandler} {txOk : Bool} {msg : MavlinkMessage}

theorem AcksInv.of_same (hinv : AcksInv h) (hsent : ∀ r ∈ h'.sent, SentOk r)
    (hstate : h'.missionState = h.missionState) (hupload : h'.upload = h.upload)
    (hexpected : h'.missionExpected = h.missionExpected)
    (hreceived : h'.missionReceived = h.missionReceived) : AcksInv h' where
  sent := hsent
  uploading := by
    rw [hstate]
    intro hup
    obtain ⟨up, hway⟩ := hinv.uploading hup
    refine ⟨up, hupload.trans hway.upload, hexpected.trans hway.expected, hway.count_le, ?_, ?_⟩
    · rw [hreceived]
      exact hway.received_lt
    · rw [hreceived]
      exact hway.stored
  otherwise := by
    rw [hstate, hupload]
    exact hinv.otherwise

theorem acksInv_of_ne (hsent : ∀ r ∈ h.sent, SentOk r) (hstate : h.missionState ≠ .uploading)
    (hdone : ∀ up, h.upload = some up → up.Complete) : AcksInv h :=
  ⟨hsent, fun hup => absurd hup hstate, fun _ => hdone⟩

theorem sentOk_send (hsent : ∀ r ∈ h.sent, SentOk r) (hok : SentOk ⟨msg, h.upload⟩) :
    ∀ r ∈ (sendMavlinkMsg h txOk msg).sent, SentOk r := by
  rw [sendMavlinkMsg_eq]
  cases txOk with
  | false => exact hsent
  | true =>
    intro r hr
    rcases List.mem_cons.mp hr with rfl | hr
    · exact hok
    · exact hsent r hr

theorem AcksInv.send (hinv : AcksInv h) (hok : SentOk ⟨msg, h.upload⟩) :
    AcksInv (sendMavlinkMsg h txOk msg) := by
  have hsent : ∀ r ∈ (sendMavlinkMsg h txOk msg).sent, SentOk r := sentOk_send hinv.sent hok
  rw [sendMavlinkMsg_eq] at hsent ⊢
  exact hinv.of_same hsent rfl rfl rfl rfl

theorem sentOk_of_plain {up : Option Upload} (hplain : msg.payload.plain = true) :
    SentOk ⟨msg, up⟩ where
  ack := by
    intro hpayload
    rw [show msg.payload = _ from hpayload] at hplain
    exact absurd hplain (by decide)
  request := by
    intro seq missionType hpayload
    rw [show msg.payload = _ from hpayload] at hplain
    cases hplain

theorem sentOk_ack {up : Option Upload} {result missionType : U8}
    (hdone : ∀ u, up = some u → u.Complete) :
    SentOk ⟨replyTo msg (.missionAck result missionType), up⟩ where
  ack := fun _ => hdone
  request := fun _ _ hpayload => by cases hpayload

/-! ## One message -/

variable {missionType : U8}

theorem AcksInv.requestList (hinv : AcksInv h)
    (hother : h.missionState = .uploading → forAnother msg = false →
      missionType ≠ mavMissionTypeMission) :
    AcksInv (handleMissionRequestList h txOk msg missionType) := by
  unfold handleMissionRequestList
  split
  · exact hinv
  next hours =>
    split
    · exact hinv.send (sentOk_of_plain rfl)
    split
    · exact hinv.send (sentOk_of_plain rfl)
    split
    · exact hinv
    next hmission =>
      -- the handler changes its state, so it was not in an upload
      have hidle : h.missionState ≠ .uploading := fun hup =>
        hother hup (by simpa using hours) (not_not.mp hmission)
      dsimp only
      refine acksInv_of_ne ?_ (by simp) ?_
      · exact sentOk_send (h := { h with
          missionGcsSysid := msg.sysid, missionGcsCompid := msg.compid })
          hinv.sent (sentOk_of_plain rfl)
      · rw [sendMavlinkMsg_eq]
        exact hinv.otherwise hidle

theorem AcksInv.count {count : U16} (hinv : AcksInv h) :
    AcksInv (handleMissionCount h txOk msg count missionType) := by
  have hgcs : AcksInv { h with missionGcsSysid := msg.sysid, missionGcsCompid := msg.compid } :=
    hinv.of_same hinv.sent rfl rfl rfl rfl
  unfold handleMissionCount
  split
  · exact hinv
  split
  · split
    · exact hinv.send (sentOk_of_plain rfl)
    · exact AcksInv.send (hinv.of_same hinv.sent rfl rfl rfl rfl) (sentOk_of_plain rfl)
  split
  · split
    · exact hinv.send (sentOk_of_plain rfl)
    · exact AcksInv.send (hinv.of_same hinv.sent rfl rfl rfl rfl) (sentOk_of_plain rfl)
  split
  · exact hinv
  dsimp only
  split
  · exact hgcs.send (sentOk_of_plain rfl)
  next hfits =>
    split
    · -- the first item is asked for
      next hpos =>
        have hne : count ≠ 0 := by
          rintro rfl
          exact absurd hpos (by decide)
        rw [if_neg hne]
        apply AcksInv.send
        · refine ⟨hinv.sent, fun _ => ⟨⟨count, []⟩, rfl, rfl, ?_, hpos, ?_⟩,
            fun hstate => absurd rfl hstate⟩
          · simpa using hfits
          · intro k
            show k ∈ [] ↔ k.toNat < 0
            simp
        · refine ⟨fun hpayload => (by cases hpayload), fun seq type hpayload => ?_⟩
          cases hpayload
          exact ⟨⟨count, []⟩, rfl, hpos, List.not_mem_nil⟩
    -- there is nothing to upload
    next hzero =>
      have hcount : count = 0 := BitVec.eq_of_toNat_eq (by
        show count.toNat = 0
        omega)
      rw [if_pos hcount]
      refine acksInv_of_ne ?_ (by simp) ?_
      · refine sentOk_send ?_ (sentOk_ack ?_)
        · exact hinv.sent
        · intro u hu
          cases hu
      · rw [sendMavlinkMsg_eq]
        intro u hu
        cases hu

theorem UnderWay.next {up : Upload} {item : MavlinkMissionItemInt} (hway : UnderWay h up)
    (hseq : item.seq = h.missionReceived) (k : U16) :
    k ∈ item.seq :: up.stored ↔ k.toNat < (h.missionReceived + 1).toNat := by
  have hlt := hway.received_lt
  have hfits := hway.count_le
  have hsucc : (h.missionReceived + 1).toNat = h.missionReceived.toNat + 1 := by
    rw [BitVec.toNat_add]
    show (h.missionReceived.toNat + 1) % 2 ^ 16 = _
    unfold missionMaxItems at hfits
    omega
  rw [List.mem_cons, hway.stored, hsucc, hseq, ← BitVec.toNat_inj]
  omega

theorem AcksInv.item {item : MavlinkMissionItemInt} (hinv : AcksInv h)
    (hnext : h.missionState = .uploading → forAnother msg = false →
      item.seq.toNat < missionMaxItems → item.seq = h.missionReceived) :
    AcksInv (handleMissionItemInt h txOk msg item) := by
  unfold handleMissionItemInt
  split
  · exact hinv
  next hours =>
    split
    · exact hinv
    next hup =>
      split
      · exact hinv
      next hfits =>
        have hup := not_not.mp hup
        obtain ⟨up, hway⟩ := hinv.uploading hup
        have hseq := hnext hup (by simpa using hours) (by omega)
        have hstored := hway.next hseq
        have hupload : h.upload.map (fun up => { up with stored := item.seq :: up.stored })
            = some { up with stored := item.seq :: up.stored } := by rw [hway.upload]; rfl
        dsimp only
        split
        · -- it was the last one
          next hlast =>
            have hdone : ∀ u, h.upload.map
                (fun up => { up with stored := item.seq :: up.stored }) = some u →
                u.Complete := by
              rw [hupload]
              rintro u hu k hk
              cases hu
              refine (hstored k).mpr (Nat.lt_of_lt_of_le hk ?_)
              rw [← hway.expected]
              exact hlast
            refine AcksInv.send (acksInv_of_ne hinv.sent (fun hstate => ?_) hdone)
              (sentOk_ack hdone)
            cases hstate
        -- the next one is asked for
        next hmore =>
          have hlt : (h.missionReceived + 1).toNat < up.count.toNat := by
            rw [← hway.expected]
            exact Nat.lt_of_not_le hmore
          apply AcksInv.send
          · refine ⟨hinv.sent, fun _ => ?_, fun hstate => absurd hup hstate⟩
            exact ⟨_, hupload, hway.expected, hway.count_le, hlt, hstored⟩
          refine ⟨fun hpayload => (by cases hpayload), fun seq type hpayload => ?_⟩
          cases hpayload
          refine ⟨_, hupload, hlt, fun hmem => ?_⟩
          exact absurd ((hstored _).mp hmem) (Nat.lt_irrefl _)

theorem AcksInv.clearAll (hinv : AcksInv h) :
    AcksInv (handleMissionClearAll h txOk msg missionType) := by
  unfold handleMissionClearAll
  split
  · exact hinv
  dsimp only
  generalize hfence : (if missionType = mavMissionTypeFence ∨ missionType = mavMissionTypeAll then
    { h with fenceCount := 0 } else h) = h₁
  have hinv₁ : AcksInv h₁ := by
    rw [← hfence]
    split
    · exact hinv.of_same hinv.sent rfl rfl rfl rfl
    · exact hinv
  generalize hrally : (if missionType = mavMissionTypeRally ∨ missionType = mavMissionTypeAll then
    { h₁ with rallyCount := 0 } else h₁) = h₂
  have hinv₂ : AcksInv h₂ := by
    rw [← hrally]
    split
    · exact hinv₁.of_same hinv₁.sent rfl rfl rfl rfl
    · exact hinv₁
  split
  · next hother =>
      refine hinv₂.send (sentOk_of_plain ?_)
      show (mavMissionAccepted != mavMissionAccepted || missionType != mavMissionTypeMission) = true
      simpa using hother.1
  · have hdone : ∀ u : Upload, none = some u → u.Complete := fun u hu => by cases hu
    refine AcksInv.send (acksInv_of_ne hinv₂.sent (fun hstate => ?_) hdone) (sentOk_ack hdone)
    cases hstate

theorem AcksInv.message (hinv : AcksInv h)
    (horder : h.missionState = .uploading → ignored msg = false → FitsUpload h msg.payload) :
    AcksInv (processMavlinkMessage h txOk msg) := by
  unfold processMavlinkMessage
  split
  · exact hinv
  next hours =>
    have hignored : ignored msg = forAnother msg := by
      unfold ignored
      rw [Bool.or_eq_right_iff_imp]
      intro hown
      exact absurd (by simpa using hown) hours
    rw [hignored] at horder
    cases hpayload : msg.payload with
    | missionRequestList missionType =>
      rw [hpayload] at horder
      exact hinv.requestList horder
    | missionCount count missionType => exact hinv.count
    | missionItemInt item =>
      rw [hpayload] at horder
      exact hinv.item horder
    | missionRequestInt seq missionType =>
      show AcksInv (handleMissionRequestInt h txOk msg seq)
      unfold handleMissionRequestInt
      split
      · exact hinv
      · split
        · exact hinv
        · exact hinv.send (sentOk_of_plain rfl)
    | missionAck result missionType =>
      refine acksInv_of_ne hinv.sent (fun hstate => ?_) (fun u hu => ?_)
      · cases hstate
      · cases hu
    | missionClearAll missionType => exact hinv.clearAll
    | missionSetCurrent seq =>
      show AcksInv (handleMissionSetCurrent h txOk msg seq)
      unfold handleMissionSetCurrent
      split
      · exact hinv
      · have hsent : AcksInv (sendMissionCurrent { h with missionCurrentSeq := seq } txOk) :=
          AcksInv.send (hinv.of_same hinv.sent rfl rfl rfl rfl) (sentOk_of_plain rfl)
        exact hsent.of_same hsent.sent rfl rfl rfl rfl
    | missionCurrent seq | other => exact hinv

theorem AcksInv.telemetry {telem : RpcTelemetryMsg} (hinv : AcksInv h)
    (horder : h.missionState = .uploading → telem.isMissionAck = false) :
    AcksInv (drainRpcTelemetryMsg h txOk telem) := by
  cases telem with
  | missionCount count | missionItem item current => exact hinv.send (sentOk_of_plain rfl)
  | missionAck result =>
    have hidle : h.missionState ≠ .uploading := fun hup => Bool.noConfusion (horder hup)
    have hsent : AcksInv (sendMavlinkMsg h txOk
        (toMissionGcs h (.missionAck result mavMissionTypeMission))) := by
      apply hinv.send
      exact ⟨fun _ => hinv.otherwise hidle, fun _ _ hpayload => by cases hpayload⟩
    unfold drainRpcTelemetryMsg
    dsimp only
    rw [sendMavlinkMsg_eq] at hsent ⊢
    refine acksInv_of_ne hsent.sent (fun hstate => ?_) (hinv.otherwise hidle)
    cases hstate
  | missionCurrent seq =>
    exact AcksInv.send (hinv.of_same hinv.sent rfl rfl rfl rfl) (sentOk_of_plain rfl)
  | other => exact hinv

/-! ## A run -/

@[simp] theorem sendMavlinkMsg_upload : (sendMavlinkMsg h txOk msg).upload = h.upload := by
  rw [sendMavlinkMsg_eq]

theorem processMavlinkMessage_upload (hends : endsUpload (.receive txOk msg) = false) :
    (processMavlinkMessage h txOk msg).upload.isSome = h.upload.isSome := by
  unfold processMavlinkMessage
  split
  · rfl
  cases hpayload : msg.payload with
  | missionRequestList missionType =>
    show (handleMissionRequestList h txOk msg missionType).upload.isSome = _
    unfold handleMissionRequestList
    dsimp only
    split_ifs <;> simp only [sendMavlinkMsg_upload]
  | missionItemInt item =>
    show (handleMissionItemInt h txOk msg item).upload.isSome = _
    unfold handleMissionItemInt
    dsimp only
    split_ifs
    · rfl
    · rfl
    · rfl
    · rw [sendMavlinkMsg_upload]
      exact Option.isSome_map
    · rw [sendMavlinkMsg_upload]
      exact Option.isSome_map
  | missionRequestInt seq missionType =>
    show (handleMissionRequestInt h txOk msg seq).upload.isSome = _
    unfold handleMissionRequestInt
    split_ifs <;> simp only [sendMavlinkMsg_upload]
  | missionSetCurrent seq =>
    show (handleMissionSetCurrent h txOk msg seq).upload.isSome = _
    unfold handleMissionSetCurrent
    split_ifs
    · rfl
    · show (sendMissionCurrent _ txOk).upload.isSome = _
      rw [sendMissionCurrent, sendMavlinkMsg_upload]
  | missionCurrent seq | other => rfl
  | missionCount count missionType | missionAck result missionType
  | missionClearAll missionType =>
    simp [endsUpload, hpayload] at hends

theorem drainRpcTelemetryMsg_upload {telem : RpcTelemetryMsg} :
    (drainRpcTelemetryMsg h txOk telem).upload = h.upload := by
  cases telem with
  | missionCount count | missionItem item current | missionAck result | missionCurrent seq =>
    exact sendMavlinkMsg_upload
  | other => rfl

variable {s s' : MissionTasks} {e : MissionEvent}

theorem AcksInv.step (hinv : AcksInv s.handler) (horder : KeepsOrder s e)
    (hstep : missionStep s e = some s') : AcksInv s'.handler := by
  cases missionStep_move hstep with
  | empty hqueue | received | advance => exact hinv
  | drain hqueue =>
    refine AcksInv.telemetry (hinv.of_same hinv.sent rfl rfl rfl rfl) fun hup => ?_
    exact horder hup _ (by rw [hqueue]; rfl)
  | receive => exact hinv.message horder
  | command hqueue | telemetry hmsg he => exact hinv.of_same hinv.sent rfl rfl rfl rfl

theorem missionStep_upload (hends : endsUpload e = false) (hstep : missionStep s e = some s') :
    s'.handler.upload.isSome = s.handler.upload.isSome := by
  cases missionStep_move hstep with
  | empty hqueue | received | command hqueue | telemetry hmsg he | advance => rfl
  | drain hqueue => exact congrArg Option.isSome drainRpcTelemetryMsg_upload
  | receive => exact processMavlinkMessage_upload hends

theorem leavesWhenDone (hinv : AcksInv s.handler)
    (hnext : ∀ s', missionStep s e = some s' → AcksInv s'.handler) : LeavesWhenDone s e := by
  intro s' hstep hup hleft
  by_cases hends : endsUpload e = true
  · exact Or.inl hends
  -- the upload is still there, so it is complete
  obtain ⟨up, hway⟩ := hinv.uploading hup
  have hsome := missionStep_upload (by simpa using hends) hstep
  rw [hway.upload] at hsome
  obtain ⟨up', hup'⟩ := Option.isSome_iff_exists.mp hsome
  exact Or.inr ⟨up', hup', (hnext s' hstep).otherwise hleft up' hup'⟩

/-- In a run that keeps the order, an acceptance is sent only when every item of the upload
is stored, a request names an item that is not stored yet, and an upload is left only when
it is complete or the ground station ends it. -/
theorem mission_ack_only_when_complete (mgr : MissionMgr) (events : List MissionEvent)
    (horder : Along missionStep KeepsOrder (missionTasksInit mgr) events) :
    Throughout missionStep (fun s => ∀ r ∈ s.handler.sent, SentOk r) (missionTasksInit mgr) events
      ∧ Along missionStep LeavesWhenDone (missionTasksInit mgr) events := by
  have hinit : AcksInv (missionTasksInit mgr).handler := by
    refine acksInv_of_ne (fun r hr => ?_) (fun hstate => ?_) (fun u hu => ?_)
    · cases hr
    · cases hstate
    · cases hu
  have hinv : Throughout missionStep (fun s => AcksInv s.handler) (missionTasksInit mgr) events :=
    throughout_of_step (fun s e s' hs he hstep => hs.step he hstep) hinit horder
  refine ⟨hinv.mono fun s hs => hs.sent, ?_⟩
  exact (hinv.along_next.and (hinv.along_of fun s e hs => hs)).mono
    fun s e h => leavesWhenDone h.2 h.1

/-- A message of the ground station to the vehicle. -/
def fromGroundStation (payload : MavlinkPayload) : MavlinkMessage := ⟨255, 190, 1, 1, payload⟩

/-- A mission item that only has its number. -/
def bareMissionItem (seq : U16) : MavlinkMissionItemInt := ⟨{ MissionItem.zero with seq := seq }, 0, 0⟩

/-- Two items are uploaded in order, and what core 0 says to them is passed on afterwards. -/
theorem mission_ack_in_order :
    (runFrom missionStep (missionTasksInit missionMgrInit)
      [.drain true, .receive true (fromGroundStation (.missionCount 2 0)),
        .receive true (fromGroundStation (.missionItemInt (bareMissionItem 0))),
        .receive true (fromGroundStation (.missionItemInt (bareMissionItem 1))),
        .received, .command, .drain true]).map MissionTasks.sentPayloads
        = some [.missionAck 0 0, .missionAck 0 0, .missionRequestInt 1 0, .missionRequestInt 0 0]
      ∧ Throughout missionStep (fun s => ∀ r ∈ s.handler.sent, SentOk r)
          (missionTasksInit missionMgrInit)
          [.drain true, .receive true (fromGroundStation (.missionCount 2 0)),
            .receive true (fromGroundStation (.missionItemInt (bareMissionItem 0))),
            .receive true (fromGroundStation (.missionItemInt (bareMissionItem 1))),
            .received, .command, .drain true] :=
  ⟨by decide +kernel, (mission_ack_only_when_complete _ _ (by decide +kernel)).1⟩

/-- The first of two items arrives twice, and the upload is accepted without the second. -/
theorem duplicate_item_is_acked :
    ¬ ∀ (mgr : MissionMgr) (events : List MissionEvent),
      Throughout missionStep (fun s => ∀ r ∈ s.handler.sent, SentOk r) (missionTasksInit mgr) events
        ∧ Along missionStep LeavesWhenDone (missionTasksInit mgr) events := by
  intro h
  have hend : (runFrom missionStep (missionTasksInit missionMgrInit)
      [.drain true, .receive true (fromGroundStation (.missionCount 2 0)),
        .receive true (fromGroundStation (.missionItemInt (bareMissionItem 0))),
        .receive true (fromGroundStation (.missionItemInt (bareMissionItem 0)))]).map
          (fun s => s.handler.sent.head?)
      = some (some ⟨⟨1, 1, 255, 190, .missionAck 0 0⟩, some ⟨2, [0, 0]⟩⟩) := by decide +kernel
  obtain ⟨s, hrun, hsent⟩ := Option.map_eq_some_iff.mp hend
  have hok := (h missionMgrInit _).1.of_runFrom hrun _ (List.mem_of_head? hsent)
  have hmissing := hok.ack rfl ⟨2, [0, 0]⟩ rfl 1 (by decide)
  exact absurd hmissing (by decide)

end MmIotEsp32.HeliFc
