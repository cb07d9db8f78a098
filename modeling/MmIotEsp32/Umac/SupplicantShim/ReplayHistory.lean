/-
  MmIotEsp32.Umac.SupplicantShim.ReplayHistory

  Histories of the keys of a STA record and of the protected frames it receives.
-/
import MmIotEsp32.Umac.SupplicantShim.Bip
import MmIotEsp32.Umac.SupplicantShim.Ccmp

namespace MmIotEsp32.Umac.SupplicantShim

open Keys Lib Function

/-! ## Histories -/

/-- A frame that is protected: a data frame, a management frame to the station, or one to a
group. -/
inductive ProtectedFrame where
  | dataFrame (ccmpHeader : BytePtr)
  | mgmtFrame (ccmpHeader : BytePtr)
  | groupMgmtFrame (header data : BytePtr) (dataLen : Nat) (allocated : Bool)

/-- What happens to the keys of a STA record. -/
inductive KeyEvent where
  /-- an installation, or a re-installation -/
  | install (key : UmacKey)
  | uninstall (keyId : U8)
  | frame (frame : ProtectedFrame)

/-- The counter that a frame is checked against. -/
structure FrameCounter where
  keyId : U8
  packetNumber : U64
  space : UmacKeyRxCounterSpace

/-- The key id and the packet number that a frame has, if it has any. -/
def ProtectedFrame.counter : ProtectedFrame → Option FrameCounter
  | .dataFrame ccmpHeader =>
    some ⟨parseCcmpKeyId ccmpHeader, parseCcmpPacketNumber ccmpHeader, .default⟩
  | .mgmtFrame ccmpHeader =>
    some ⟨parseCcmpKeyId ccmpHeader, parseCcmpPacketNumber ccmpHeader, .indRobustMgmt⟩
  | .groupMgmtFrame _ data dataLen _ =>
    (ieMmieFind data dataLen).map fun mmie =>
      ⟨mmieKeyId data mmie, mmiePacketNumber data mmie, .default⟩

/-- The keys, and the packet numbers that were accepted since each was installed, latest first. -/
structure ReplayHistory where
  keys : ConnectionKeysData
  accepted : KeySlot → UmacKeyRxCounterSpace → List U64

def replayInit : ReplayHistory := ⟨connectionKeysInit, fun _ _ => []⟩

/-- The installation of a key id ends. -/
def ReplayHistory.restart (h : ReplayHistory) (keyId : U8) : ReplayHistory :=
  { h with
    accepted := fun slot space => if keySlot? keyId = some slot then [] else h.accepted slot space }

/-- A packet number is accepted. -/
def ReplayHistory.record (h : ReplayHistory) (counter : Option FrameCounter) : ReplayHistory :=
  match counter with
  | none => h
  | some c =>
    { h with
      accepted := fun slot space =>
        if keySlot? c.keyId = some slot ∧ space = c.space then
          c.packetNumber :: h.accepted slot space
        else h.accepted slot space }

/-- The answer of the check of a frame. -/
def ReplayHistory.checked (h : ReplayHistory) (counter : Option FrameCounter)
    (keys : ConnectionKeysData) (valid : Bool) : ReplayHistory :=
  if valid then { h with keys := keys }.record counter else { h with keys := keys }

section Histories

variable (omac1Aes128 : Omac1Aes128)

/-- The check of a frame. -/
def ProtectedFrame.isValid (keys : ConnectionKeysData) :
    ProtectedFrame → Option (ConnectionKeysData × Bool)
  | .dataFrame ccmpHeader => ccmpIsValid keys ccmpHeader .default
  | .mgmtFrame ccmpHeader => ccmpIsValid keys ccmpHeader .indRobustMgmt
  | .groupMgmtFrame header data dataLen allocated =>
    bipIsValid omac1Aes128 keys header data dataLen allocated

/-- One event; `none` is an assertion on the key id, or a NULL pointer that is followed. -/
def replayStep (h : ReplayHistory) : KeyEvent → Option ReplayHistory
  | .install key =>
    match connectionKeysInstallKey h.keys key with
    | (_, false) => some h
    | (keys, true) => some ({ h with keys := keys }.restart key.keyId)
  | .uninstall keyId =>
    some ({ h with keys := (connectionKeysUninstallKey h.keys keyId).1 }.restart keyId)
  | .frame frame =>
    (frame.isValid omac1Aes128 h.keys).map fun answer =>
      h.checked frame.counter answer.1 answer.2

/-! ## The check of a frame -/

/-- What a key has to pass before its replay counter is looked at; `none` is a NULL pointer that is
followed. -/
def ProtectedFrame.passes : ProtectedFrame → Option UmacKey → Option Bool
  | .groupMgmtFrame header data dataLen allocated, some key =>
    if key.keyType ≠ .igtk ∨ maxSupportedKeyLen < key.keyLen then some false
    else
      (bipGenerateMic omac1Aes128 key.keyData header data dataLen allocated).map fun mic =>
        mic.any fun mic => (ieMmieFind data dataLen).any fun mmie =>
          decide (mmieMic data mmie = mic.take micLength)
  | .groupMgmtFrame .., none => some false
  | _, key? => some (key?.any fun key => decide (key.keyType ≠ .blank))

variable {omac1Aes128} {keys keys' : ConnectionKeysData} {frame : ProtectedFrame} {valid : Bool}
  {slot : KeySlot} {c : FrameCounter}

theorem ccmpIsValid_passes (ccmpHeader : BytePtr) (space : UmacKeyRxCounterSpace)
    (key? : Option UmacKey) (hkey : installedKey keys (ccmpSlot ccmpHeader) = key?) :
    ccmpIsValid keys ccmpHeader space
      = if key?.any fun key => decide (key.keyType ≠ .blank) then
          connectionKeysCheckAndUpdateRxReplay keys (parseCcmpKeyId ccmpHeader)
            (parseCcmpPacketNumber ccmpHeader) space
        else some (keys, false) := by
  unfold ccmpIsValid connectionKeysGetKeyType
  dsimp only
  rw [keySlot?_parseCcmpKeyId, Option.map_some, hkey]
  cases key? with
  | none => rfl
  | some key =>
    dsimp only
    generalize hty : key.keyType = keyType
    cases keyType <;> simp [hty]

theorem ProtectedFrame.isValid_eq (hc : frame.counter = some c)
    (hslot : keySlot? c.keyId = some slot) :
    frame.isValid omac1Aes128 keys
      = (frame.passes omac1Aes128 (installedKey keys slot)).bind fun passes =>
          if passes then connectionKeysCheckAndUpdateRxReplay keys c.keyId c.packetNumber c.space
          else some (keys, false) := by
  cases frame with
  | dataFrame ccmpHeader =>
    cases hc
    obtain rfl : ccmpSlot ccmpHeader = slot :=
      Option.some.inj ((keySlot?_parseCcmpKeyId ccmpHeader).symm.trans hslot)
    exact ccmpIsValid_passes ccmpHeader .default _ rfl
  | mgmtFrame ccmpHeader =>
    cases hc
    obtain rfl : ccmpSlot ccmpHeader = slot :=
      Option.some.inj ((keySlot?_parseCcmpKeyId ccmpHeader).symm.trans hslot)
    exact ccmpIsValid_passes ccmpHeader .indRobustMgmt _ rfl
  | groupMgmtFrame header data dataLen allocated =>
    obtain ⟨mmie, hmmie, rfl⟩ := Option.map_eq_some_iff.mp hc
    show bipIsValid omac1Aes128 keys header data dataLen allocated = _
    unfold bipIsValid connectionKeysGetKeyType connectionKeysGetKeyLen connectionKeysGetKeyData
    rw [hmmie]
    dsimp only at hslot ⊢
    rw [hslot]
    simp only [Option.map_some, Option.bind_some]
    cases hkey : installedKey keys slot with
    | none => rfl
    | some key =>
      simp only [Option.map_some, Option.bind_some, ProtectedFrame.passes, hmmie,
        Option.any_some]
      by_cases htype : key.keyType = .igtk
      · by_cases hlen : maxSupportedKeyLen < key.keyLen
        · simp [htype, hlen]
        simp only [htype, hlen, ne_eq, not_true_eq_false, if_false, or_self]
        cases hmic : bipGenerateMic omac1Aes128 key.keyData header data dataLen allocated with
        | none => rfl
        | some mic =>
          cases mic with
          | none => rfl
          | some mic =>
            by_cases heq : mmieMic data mmie = mic.take micLength <;> simp [heq]
      · simp [htype]

theorem ProtectedFrame.isValid_none (hc : frame.counter = none) :
    frame.isValid omac1Aes128 keys = some (keys, false) := by
  cases frame with
  | dataFrame ccmpHeader | mgmtFrame ccmpHeader => cases hc
  | groupMgmtFrame header data dataLen allocated =>
    have hmmie : ieMmieFind data dataLen = none := Option.map_eq_none_iff.mp hc
    show bipIsValid omac1Aes128 keys header data dataLen allocated = _
    unfold bipIsValid
    rw [hmmie]

theorem ProtectedFrame.isValid_badKeyId (hc : frame.counter = some c)
    (hslot : keySlot? c.keyId = none) : frame.isValid omac1Aes128 keys = none := by
  cases frame with
  | dataFrame ccmpHeader | mgmtFrame ccmpHeader =>
    cases hc
    cases (keySlot?_parseCcmpKeyId ccmpHeader).symm.trans hslot
  | groupMgmtFrame header data dataLen allocated =>
    obtain ⟨mmie, hmmie, rfl⟩ := Option.map_eq_some_iff.mp hc
    show bipIsValid omac1Aes128 keys header data dataLen allocated = _
    unfold bipIsValid connectionKeysGetKeyType
    rw [hmmie]
    dsimp only at hslot ⊢
    rw [hslot]
    rfl

/-- What a valid frame does, and one that is not valid. -/
theorem ProtectedFrame.isValid_cases (hok : KeychainOk keys)
    (hvalid : frame.isValid omac1Aes128 keys = some (keys', valid)) :
    (valid = false ∧ keys' = keys)
      ∨ ∃ c slot, valid = true ∧ frame.counter = some c ∧ keySlot? c.keyId = some slot
          ∧ KeychainOk keys' ∧ passesReplay (installedKey keys slot) c.packetNumber c.space = true
          ∧ ∀ slot', installedKey keys' slot' =
              if slot' = slot then
                (installedKey keys slot).map fun key => withRxSeq key c.space c.packetNumber
              else installedKey keys slot' := by
  cases hc : frame.counter with
  | none =>
    rw [ProtectedFrame.isValid_none hc] at hvalid
    cases hvalid
    exact .inl ⟨rfl, rfl⟩
  | some c =>
    cases hslot : keySlot? c.keyId with
    | none =>
      rw [ProtectedFrame.isValid_badKeyId hc hslot] at hvalid
      cases hvalid
    | some slot =>
      rw [ProtectedFrame.isValid_eq hc hslot] at hvalid
      obtain ⟨passes, -, hvalid⟩ := Option.bind_eq_some_iff.mp hvalid
      cases passes with
      | false =>
        cases hvalid
        exact .inl ⟨rfl, rfl⟩
      | true =>
        obtain ⟨hok', haccepted, hsame, hinstalled⟩ :=
          connectionKeysCheckAndUpdateRxReplay_installed hok hslot hvalid
        cases valid with
        | false => exact .inl ⟨rfl, hsame rfl⟩
        | true =>
          refine .inr ⟨c, slot, rfl, rfl, hslot, hok', haccepted.symm, fun slot' => ?_⟩
          rw [hinstalled slot']
          by_cases hhere : slot' = slot
          · rw [if_pos ⟨rfl, hhere⟩, if_pos hhere, hhere]
          · rw [if_neg fun hboth => hhere hboth.2, if_neg hhere]

/-! ## Packet numbers increase -/

/-- The packet numbers that are accepted increase strictly, within one installation of a key id and
one space. -/
def AcceptedIncrease (h : ReplayHistory) : Prop :=
  ∀ slot space, (h.accepted slot space).Pairwise fun later earlier => earlier.toNat < later.toNat

/-- A frame that is not valid changes nothing in the keychain. -/
def RejectedKeepsKeys (omac1Aes128 : Omac1Aes128) (h : ReplayHistory) (e : KeyEvent) : Prop :=
  ∀ frame keys', e = .frame frame → frame.isValid omac1Aes128 h.keys = some (keys', false) →
    keys' = h.keys

/-- The replay counters are not below what was accepted. -/
structure HistoryOk (h : ReplayHistory) : Prop where
  keychain : KeychainOk h.keys
  increase : AcceptedIncrease h
  bounded : ∀ slot space, ∀ pn ∈ h.accepted slot space, ∃ key, installedKey h.keys slot = some key
    ∧ pn.toNat ≤ (key.rxSeq space).toNat

theorem historyOk_init : HistoryOk replayInit where
  keychain := connectionKeysInit_ok
  increase := fun _ _ => List.Pairwise.nil
  bounded := fun _ _ _ hpn => nomatch hpn

variable {h h' : ReplayHistory} {e : KeyEvent}

theorem replayStep_install (omac1Aes128 : Omac1Aes128) (key : UmacKey) (hok : KeychainOk h.keys) :
    ∃ h', replayStep omac1Aes128 h (.install key) = some h' ∧ KeychainOk h'.keys ∧ ∀ slot,
      if umacKeysKeyParamsAreValid key = true ∧ keySlot? key.keyId = some slot then
        installedKey h'.keys slot = some (keyOver (installedKey h.keys slot) key)
          ∧ h'.accepted slot = fun _ => []
      else installedKey h'.keys slot = installedKey h.keys slot
        ∧ h'.accepted slot = h.accepted slot := by
  obtain ⟨hkeychain, hflag, hinstalled⟩ := connectionKeysInstallKey_installed key hok
  unfold replayStep
  dsimp only
  revert hkeychain hflag hinstalled
  generalize connectionKeysInstallKey h.keys key = answer
  obtain ⟨keys, installed⟩ := answer
  intro hkeychain hflag hinstalled
  dsimp only at hkeychain hflag hinstalled
  cases installed with
  | false =>
    refine ⟨h, rfl, hok, fun slot => ?_⟩
    rw [← hflag, if_neg (by simp)]
    exact ⟨rfl, rfl⟩
  | true =>
    refine ⟨_, rfl, hkeychain, fun slot => ?_⟩
    show ite _ (installedKey keys slot = _ ∧ (fun space => ite _ _ _) = _)
      (installedKey keys slot = _ ∧ (fun space => ite _ _ _) = _)
    rw [hinstalled slot]
    by_cases hslot : keySlot? key.keyId = some slot
    · rw [if_pos ⟨hflag.symm, hslot⟩, if_pos ⟨hflag.symm, hslot⟩]
      exact ⟨rfl, funext fun _ => if_pos hslot⟩
    · rw [if_neg fun hboth => hslot hboth.2, if_neg fun hboth => hslot hboth.2]
      exact ⟨rfl, funext fun _ => if_neg hslot⟩

theorem replayStep_uninstall (omac1Aes128 : Omac1Aes128) (keyId : U8) (hok : KeychainOk h.keys) :
    ∃ h', replayStep omac1Aes128 h (.uninstall keyId) = some h' ∧ KeychainOk h'.keys ∧ ∀ slot,
      if keySlot? keyId = some slot then
        installedKey h'.keys slot = none ∧ h'.accepted slot = fun _ => []
      else installedKey h'.keys slot = installedKey h.keys slot
        ∧ h'.accepted slot = h.accepted slot := by
  obtain ⟨hkeychain, hinstalled⟩ := connectionKeysUninstallKey_installed keyId hok
  refine ⟨_, rfl, hkeychain, fun slot => ?_⟩
  show ite _ (installedKey (connectionKeysUninstallKey h.keys keyId).1 slot = _
      ∧ (fun space => ite _ _ _) = _)
    (installedKey (connectionKeysUninstallKey h.keys keyId).1 slot = _
      ∧ (fun space => ite _ _ _) = _)
  rw [hinstalled slot]
  by_cases hslot : keySlot? keyId = some slot
  · rw [if_pos hslot, if_pos hslot]
    exact ⟨rfl, funext fun _ => if_pos hslot⟩
  · rw [if_neg hslot, if_neg hslot]
    exact ⟨rfl, funext fun _ => if_neg hslot⟩

/-- What an accepted frame does to the history of each key id. -/
theorem replayStep_frame (hok : KeychainOk h.keys)
    (hs : replayStep omac1Aes128 h (.frame frame) = some h') :
    h' = h ∨ ∃ c slot, frame.counter = some c ∧ keySlot? c.keyId = some slot ∧ KeychainOk h'.keys
      ∧ passesReplay (installedKey h.keys slot) c.packetNumber c.space = true
      ∧ (∀ slot', installedKey h'.keys slot' =
          if slot' = slot then
            (installedKey h.keys slot).map fun key => withRxSeq key c.space c.packetNumber
          else installedKey h.keys slot')
      ∧ ∀ slot' space, h'.accepted slot' space =
          if slot' = slot ∧ space = c.space then c.packetNumber :: h.accepted slot' space
          else h.accepted slot' space := by
  obtain ⟨⟨keys, valid⟩, hvalid, rfl⟩ := Option.map_eq_some_iff.mp hs
  rcases frame.isValid_cases hok hvalid with
    ⟨rfl, rfl⟩ | ⟨c, slot, rfl, hc, hslot, hkeychain, hpasses, hinstalled⟩
  · exact .inl rfl
  refine .inr ⟨c, slot, hc, hslot, ?_⟩
  rw [hc]
  refine ⟨hkeychain, hpasses, hinstalled, fun slot' space => ?_⟩
  show ite _ _ _ = _
  rw [hslot]
  simp only [Option.some.injEq, eq_comm]

theorem HistoryOk.of_cleared (hok : HistoryOk h) (hkeychain : KeychainOk h'.keys)
    (hslots : ∀ slot, h'.accepted slot = (fun _ => []) ∨
      installedKey h'.keys slot = installedKey h.keys slot ∧ h'.accepted slot = h.accepted slot) :
    HistoryOk h' := by
  refine ⟨hkeychain, fun slot space => ?_, fun slot space pn hpn => ?_⟩
  · rcases hslots slot with hnone | ⟨-, hsame⟩
    · rw [hnone]
      exact List.Pairwise.nil
    · rw [hsame]
      exact hok.increase slot space
  rcases hslots slot with hnone | ⟨hkey, hsame⟩
  · rw [hnone] at hpn
    cases hpn
  · rw [hsame] at hpn
    rw [hkey]
    exact hok.bounded slot space pn hpn

theorem HistoryOk.install {key : UmacKey} (hok : HistoryOk h)
    (hs : replayStep omac1Aes128 h (.install key) = some h') : HistoryOk h' := by
  obtain ⟨_, hs', hkeychain, hslots⟩ := replayStep_install omac1Aes128 key hok.keychain
  obtain rfl := Option.some.inj (hs'.symm.trans hs)
  refine hok.of_cleared hkeychain fun slot => ?_
  have hslot := hslots slot
  split at hslot
  · exact .inl hslot.2
  · exact .inr hslot

theorem HistoryOk.uninstall {keyId : U8} (hok : HistoryOk h)
    (hs : replayStep omac1Aes128 h (.uninstall keyId) = some h') : HistoryOk h' := by
  obtain ⟨_, hs', hkeychain, hslots⟩ :=
    replayStep_uninstall omac1Aes128 keyId hok.keychain
  obtain rfl := Option.some.inj (hs'.symm.trans hs)
  refine hok.of_cleared hkeychain fun slot => ?_
  have hslot := hslots slot
  split at hslot
  · exact .inl hslot.2
  · exact .inr hslot

theorem HistoryOk.check (hok : HistoryOk h)
    (hs : replayStep omac1Aes128 h (.frame frame) = some h') : HistoryOk h' := by
  rcases replayStep_frame hok.keychain hs with
    rfl | ⟨c, slot, hc, hslot, hkeychain, hpasses, hinstalled, haccepted⟩
  · exact hok
  obtain ⟨key, hkey, hlt⟩ : ∃ key, installedKey h.keys slot = some key
      ∧ (key.rxSeq c.space).toNat < c.packetNumber.toNat := by
    unfold passesReplay at hpasses
    cases hkey : installedKey h.keys slot with
    | none => rw [hkey] at hpasses; cases hpasses
    | some key =>
      rw [hkey] at hpasses
      exact ⟨key, rfl, by simpa using hpasses⟩
  refine ⟨hkeychain, fun slot' space => ?_, fun slot' space pn hpn => ?_⟩
  · rw [haccepted]
    by_cases hhere : slot' = slot ∧ space = c.space
    · rw [if_pos hhere]
      obtain ⟨rfl, rfl⟩ := hhere
      refine List.Pairwise.cons (fun pn hpn => ?_) (hok.increase _ _)
      obtain ⟨key', hkey', hle⟩ := hok.bounded _ _ pn hpn
      obtain rfl : key' = key := Option.some.inj (hkey'.symm.trans hkey)
      omega
    · rw [if_neg hhere]
      exact hok.increase _ _
  rw [haccepted] at hpn
  rw [hinstalled]
  by_cases hhere : slot' = slot
  · subst hhere
    rw [if_pos rfl, hkey]
    refine ⟨_, rfl, ?_⟩
    -- the counter that moves is at the packet number, the other one stays
    by_cases hspace : space = c.space
    · subst hspace
      rw [if_pos ⟨rfl, rfl⟩] at hpn
      show _ ≤ (update key.rxSeq c.space c.packetNumber c.space).toNat
      rw [update_self]
      rcases List.mem_cons.mp hpn with rfl | hpn
      · exact le_rfl
      · obtain ⟨key', hkey', hle⟩ := hok.bounded _ _ pn hpn
        obtain rfl : key' = key := Option.some.inj (hkey'.symm.trans hkey)
        omega
    rw [if_neg fun hboth => hspace hboth.2] at hpn
    show _ ≤ (update key.rxSeq c.space c.packetNumber space).toNat
    rw [update_of_ne hspace]
    obtain ⟨key', hkey', hle⟩ := hok.bounded _ _ pn hpn
    obtain rfl : key' = key := Option.some.inj (hkey'.symm.trans hkey)
    exact hle
  · rw [if_neg fun hboth => hhere hboth.1] at hpn
    rw [if_neg hhere]
    exact hok.bounded slot' space pn hpn

theorem HistoryOk.step (hok : HistoryOk h) (hs : replayStep omac1Aes128 h e = some h') :
    HistoryOk h' := by
  cases e with
  | install key => exact hok.install hs
  | uninstall keyId => exact hok.uninstall hs
  | frame frame => exact hok.check hs

/-! ## Counters do not influence each other -/

/-- A key as it is seen in one space: its other replay counter is not. -/
def seenIn (space : UmacKeyRxCounterSpace) (key : UmacKey) : UmacKey :=
  { key with rxSeq := fun _ => key.rxSeq space }

/-- The event is about this key id, and about this space if it is a frame. -/
def KeyEvent.concerns (slot : KeySlot) (space : UmacKeyRxCounterSpace) : KeyEvent → Bool
  | .install key => keySlot? key.keyId = some slot
  | .uninstall keyId => keySlot? keyId = some slot
  | .frame frame =>
    frame.counter.any fun c => decide (keySlot? c.keyId = some slot ∧ space = c.space)

/-- Two histories look alike in one slot and one space. -/
structure LookAlike (slot : KeySlot) (space : UmacKeyRxCounterSpace) (h t : ReplayHistory) :
    Prop where
  left : KeychainOk h.keys
  right : KeychainOk t.keys
  seen : (installedKey h.keys slot).map (seenIn space)
    = (installedKey t.keys slot).map (seenIn space)
  accepted : h.accepted slot space = t.accepted slot space

variable {t t' : ReplayHistory} {space : UmacKeyRxCounterSpace}

theorem ProtectedFrame.passes_seenIn (frame : ProtectedFrame) (space : UmacKeyRxCounterSpace)
    (key? : Option UmacKey) :
    frame.passes omac1Aes128 (key?.map (seenIn space)) = frame.passes omac1Aes128 key? := by
  cases frame <;> cases key? <;> rfl

theorem passesReplay_seenIn (key? : Option UmacKey) (packetNumber : U64) :
    passesReplay (key?.map (seenIn space)) packetNumber space
      = passesReplay key? packetNumber space := by
  cases key? <;> rfl

theorem seenIn_keyOver {old old' : Option UmacKey} (key : UmacKey)
    (h : old.map (seenIn space) = old'.map (seenIn space)) :
    keyOver old key = keyOver old' key := by
  unfold keyOver UmacKey.install
  have hdata : (old.getD .zero).keyData = (old'.getD .zero).keyData := by
    cases old with
    | none =>
      cases old' with
      | none => rfl
      | some key' => cases h
    | some key₁ =>
      cases old' with
      | none => cases h
      | some key₂ =>
        have hseen : seenIn space key₁ = seenIn space key₂ := Option.some.inj h
        show (seenIn space key₁).keyData = (seenIn space key₂).keyData
        rw [hseen]
  rw [hdata]

theorem LookAlike.concerned (hlike : LookAlike slot space h t) (he : e.concerns slot space = true)
    (hs : replayStep omac1Aes128 h e = some h') :
    ∃ t', replayStep omac1Aes128 t e = some t' ∧ LookAlike slot space h' t' := by
  cases e with
  | install key =>
    have hslot : keySlot? key.keyId = some slot := of_decide_eq_true he
    obtain ⟨h₁, hs₁, hkeychain, hslots⟩ := replayStep_install omac1Aes128 key hlike.left
    obtain ⟨t₁, ht₁, htkeychain, htslots⟩ :=
      replayStep_install omac1Aes128 key hlike.right
    obtain rfl := Option.some.inj (hs₁.symm.trans hs)
    have hh := hslots slot
    have ht := htslots slot
    refine ⟨t₁, ht₁, hkeychain, htkeychain, ?_, ?_⟩
    · split at hh
      · rw [if_pos ‹_›] at ht
        rw [hh.1, ht.1, seenIn_keyOver key hlike.seen]
      · rw [if_neg ‹_›] at ht
        rw [hh.1, ht.1, hlike.seen]
    split at hh
    · rw [if_pos ‹_›] at ht
      rw [hh.2, ht.2]
    · rw [if_neg ‹_›] at ht
      rw [hh.2, ht.2, hlike.accepted]
  | uninstall keyId =>
    have hslot : keySlot? keyId = some slot := of_decide_eq_true he
    obtain ⟨h₁, hs₁, hkeychain, hslots⟩ :=
      replayStep_uninstall omac1Aes128 keyId hlike.left
    obtain ⟨t₁, ht₁, htkeychain, htslots⟩ :=
      replayStep_uninstall omac1Aes128 keyId hlike.right
    obtain rfl := Option.some.inj (hs₁.symm.trans hs)
    have hh := hslots slot
    have ht := htslots slot
    rw [if_pos hslot] at hh ht
    refine ⟨t₁, ht₁, hkeychain, htkeychain, ?_, ?_⟩
    · rw [hh.1, ht.1]
    · rw [hh.2, ht.2]
  | frame frame =>
    obtain ⟨c, hc, hslot, rfl⟩ : ∃ c, frame.counter = some c ∧ keySlot? c.keyId = some slot
        ∧ space = c.space := by
      have hany : frame.counter.any _ = true := he
      cases hc : frame.counter with
      | none => rw [hc] at hany; cases hany
      | some c =>
        rw [hc] at hany
        exact ⟨c, rfl, of_decide_eq_true hany⟩
    obtain ⟨⟨keys, valid⟩, hvalid, rfl⟩ := Option.map_eq_some_iff.mp hs
    rw [ProtectedFrame.isValid_eq hc hslot] at hvalid
    obtain ⟨passes, hpasses, hvalid⟩ := Option.bind_eq_some_iff.mp hvalid
    have htvalid : frame.isValid omac1Aes128 t.keys
        = if passes then
            connectionKeysCheckAndUpdateRxReplay t.keys c.keyId c.packetNumber c.space
          else some (t.keys, false) := by
      rw [ProtectedFrame.isValid_eq hc hslot, ← frame.passes_seenIn c.space,
        ← hlike.seen, frame.passes_seenIn c.space, hpasses]
      rfl
    cases passes with
    | false =>
      cases hvalid
      refine ⟨t, ?_, hlike⟩
      show (frame.isValid omac1Aes128 t.keys).map _ = some t
      rw [htvalid]
      rfl
    | true =>
      -- the two counters are the same, so the two checks agree
      obtain ⟨⟨tkeys, tvalid⟩, htcheck⟩ : ∃ answer,
          connectionKeysCheckAndUpdateRxReplay t.keys c.keyId c.packetNumber c.space
            = some answer := by
        unfold connectionKeysCheckAndUpdateRxReplay
        rw [hslot]
        exact ⟨_, rfl⟩
      obtain ⟨hkeychain, hverdict, -, hinstalled⟩ :=
        connectionKeysCheckAndUpdateRxReplay_installed hlike.left hslot hvalid
      obtain ⟨htkeychain, htverdict, -, htinstalled⟩ :=
        connectionKeysCheckAndUpdateRxReplay_installed hlike.right hslot htcheck
      obtain rfl : valid = tvalid := by
        rw [hverdict, htverdict, ← passesReplay_seenIn, hlike.seen, passesReplay_seenIn]
      have hseen : (installedKey keys slot).map (seenIn c.space)
          = (installedKey tkeys slot).map (seenIn c.space) := by
        have hmove : ∀ key? : Option UmacKey,
            (key?.map fun key => withRxSeq key c.space c.packetNumber).map (seenIn c.space)
              = (key?.map (seenIn c.space)).map fun key =>
                  seenIn c.space (withRxSeq key c.space c.packetNumber) := by
          intro key?
          cases key? with
          | none => rfl
          | some key => simp [seenIn, withRxSeq]
        rw [hinstalled, htinstalled]
        split
        · rw [hmove, hmove, hlike.seen]
        · exact hlike.seen
      refine ⟨t.checked frame.counter tkeys valid, ?_, ?_⟩
      · show (frame.isValid omac1Aes128 t.keys).map _ = some _
        rw [htvalid, if_pos rfl, htcheck]
        rfl
      rw [hc]
      cases valid with
      | false => exact ⟨hkeychain, htkeychain, hseen, hlike.accepted⟩
      | true =>
        refine ⟨hkeychain, htkeychain, hseen, ?_⟩
        show ite _ _ _ = ite _ _ _
        rw [hlike.accepted]

theorem LookAlike.unconcerned (hlike : LookAlike slot space h t)
    (he : e.concerns slot space = false) (hs : replayStep omac1Aes128 h e = some h') :
    LookAlike slot space h' t := by
  cases e with
  | install key =>
    have hslot : keySlot? key.keyId ≠ some slot := of_decide_eq_false he
    obtain ⟨h₁, hs₁, hkeychain, hslots⟩ := replayStep_install omac1Aes128 key hlike.left
    obtain rfl := Option.some.inj (hs₁.symm.trans hs)
    have hh := hslots slot
    rw [if_neg fun hboth => hslot hboth.2] at hh
    exact ⟨hkeychain, hlike.right, by rw [hh.1, hlike.seen], by rw [hh.2, hlike.accepted]⟩
  | uninstall keyId =>
    have hslot : keySlot? keyId ≠ some slot := of_decide_eq_false he
    obtain ⟨h₁, hs₁, hkeychain, hslots⟩ :=
      replayStep_uninstall omac1Aes128 keyId hlike.left
    obtain rfl := Option.some.inj (hs₁.symm.trans hs)
    have hh := hslots slot
    rw [if_neg hslot] at hh
    exact ⟨hkeychain, hlike.right, by rw [hh.1, hlike.seen], by rw [hh.2, hlike.accepted]⟩
  | frame frame =>
    rcases replayStep_frame hlike.left hs with
      rfl | ⟨c, slot', hc, hslot', hkeychain, -, hinstalled, haccepted⟩
    · exact hlike
    have hother : ¬ (slot = slot' ∧ space = c.space) := by
      rintro ⟨rfl, rfl⟩
      simp [KeyEvent.concerns, hc, hslot'] at he
    refine ⟨hkeychain, hlike.right, ?_, by rw [haccepted, if_neg hother, hlike.accepted]⟩
    rw [hinstalled, ← hlike.seen]
    by_cases hsame : slot = slot'
    · -- the other counter of the same key is the one that moves
      have hspace : space ≠ c.space := fun hspace => hother ⟨hsame, hspace⟩
      rw [if_pos hsame, ← hsame, Option.map_map]
      refine congrArg (Option.map · _) (funext fun key => ?_)
      show seenIn space (withRxSeq key c.space c.packetNumber) = seenIn space key
      unfold seenIn withRxSeq
      dsimp only
      rw [update_of_ne hspace]
    · rw [if_neg hsame]

/-- What was accepted under a key id and in a space, and where its counter stands. -/
def ReplayHistory.view (h : ReplayHistory) (slot : KeySlot) (space : UmacKeyRxCounterSpace) :
    List U64 × Option U64 :=
  (h.accepted slot space, (installedKey h.keys slot).map fun key => key.rxSeq space)

theorem LookAlike.view_eq (hlike : LookAlike slot space h t) :
    h.view slot space = t.view slot space := by
  have hcounter : ∀ key? : Option UmacKey, key?.map (fun key => key.rxSeq space)
      = (key?.map (seenIn space)).map fun key => key.rxSeq space := by
    intro key?
    cases key? <;> rfl
  unfold ReplayHistory.view
  rw [hlike.accepted, hcounter, hlike.seen, ← hcounter]

/-- In every history, the packet numbers that are accepted within one installation of a key id and
one space increase strictly, a frame that is rejected changes nothing, and what happens to one key
id and space is what would happen if the events about the others did not take place. -/
theorem no_replayed_packet_number (es : List KeyEvent) :
    Throughout (replayStep omac1Aes128) AcceptedIncrease replayInit es
      ∧ Along (replayStep omac1Aes128) (RejectedKeepsKeys omac1Aes128) replayInit es
      ∧ ∀ h ∈ runFrom (replayStep omac1Aes128) replayInit es, ∀ slot space,
          ∃ t ∈ runFrom (replayStep omac1Aes128) replayInit
              (es.filter (KeyEvent.concerns slot space)),
            h.view slot space = t.view slot space := by
  have hok : Throughout (replayStep omac1Aes128) HistoryOk replayInit es :=
    throughout_of_invariant (fun _ _ _ h hs => h.step hs) historyOk_init es
  refine ⟨hok.mono fun _ h => h.increase, ?_, ?_⟩
  · refine hok.along_of fun h e hh frame keys' _ hvalid => ?_
    rcases frame.isValid_cases hh.keychain hvalid with ⟨-, hkeys⟩ | ⟨_, _, hvalid', _⟩
    · exact hkeys
    · cases hvalid'
  intro h hh slot space
  have hlike : LookAlike slot space replayInit replayInit :=
    ⟨connectionKeysInit_ok, connectionKeysInit_ok, rfl, rfl⟩
  have hin : ∀ s t e s', LookAlike slot space s t → KeyEvent.concerns slot space e = true →
      replayStep omac1Aes128 s e = some s' →
        ∃ t', replayStep omac1Aes128 t e = some t' ∧ LookAlike slot space s' t' :=
    fun _ _ _ _ hlike he hs => hlike.concerned he hs
  have hout : ∀ s t e s', LookAlike slot space s t → KeyEvent.concerns slot space e = false →
      replayStep omac1Aes128 s e = some s' → LookAlike slot space s' t :=
    fun _ _ _ _ hlike he hs => hlike.unconcerned he hs
  obtain ⟨t, ht, hview⟩ := runFrom_filter hin hout hlike hh
  exact ⟨t, ht, hview.view_eq⟩

end Histories

end MmIotEsp32.Umac.SupplicantShim
