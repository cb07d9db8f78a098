/-
  MmIotEsp32.Umac.Datapath.PacketNumbers

  The packet numbers that the driver is told against the frames that were encrypted.
-/
import MmIotEsp32.Umac.Datapath.SequenceNumbers

namespace MmIotEsp32.Umac.Datapath

open Dot11 Keys Lib

/-! ## What the log says of a key -/

/-- The packet number that the key of an id was first installed with. -/
def initialPn (keyId : U8) : List TxRecord → Option U64
  | [] => none
  | .keyInstalled id txSeq :: rest => if id = keyId then some txSeq else initialPn keyId rest
  | _ :: rest => initialPn keyId rest

/-- The frames that were counted under the key of an id. -/
def countedUnder (keyId : U8) : List TxRecord → Nat
  | [] => 0
  | .keyInstalled id _ :: rest => if id = keyId then 0 else countedUnder keyId rest
  | .counted id :: rest => countedUnder keyId rest + if id = keyId then 1 else 0
  | _ :: rest => countedUnder keyId rest

/-- The frames that were submitted to be encrypted under the key of an id. -/
def framesUnder (keyId : U8) : List TxRecord → Nat
  | [] => 0
  | .keyInstalled id _ :: rest => if id = keyId then 0 else framesUnder keyId rest
  | .submitted frame :: rest =>
    framesUnder keyId rest + if frame.hwEnc && frame.keyIdx == keyId then 1 else 0
  | _ :: rest => framesUnder keyId rest

/-- A key is installed in the chip with a packet number that no frame under it can have had. -/
def FreshPn (conf : MmdrvKeyConf) (log : List TxRecord) : Prop :=
  ∃ init, initialPn conf.keyIdx log = some init
    ∧ init.toNat + framesUnder conf.keyIdx log ≤ conf.txPn.toNat

/-- The same, as long as the counter of the key did not wrap. -/
def FreshPnUnlessWrapped (conf : MmdrvKeyConf) (log : List TxRecord) : Prop :=
  ∃ init, initialPn conf.keyIdx log = some init
    ∧ (init.toNat + countedUnder conf.keyIdx log < 2 ^ 64 →
      init.toNat + framesUnder conf.keyIdx log ≤ conf.txPn.toNat)

/-- What holds of every installation in the chip, where it was made. -/
def EveryInstall (P : MmdrvKeyConf → List TxRecord → Prop) : List TxRecord → Prop
  | [] => True
  | .driverKey (.installKey conf) :: rest => P conf rest ∧ EveryInstall P rest
  | _ :: rest => EveryInstall P rest

/-- The counter of an installed key: its first value and the frames counted since, of which
at least `spare` were not submitted. -/
structure CountsFrames (key : UmacKey) (log : List TxRecord) (spare : Nat) : Prop where
  txSeq : ∃ init, initialPn key.keyId log = some init
    ∧ key.txSeq = init + BitVec.ofNat 64 (countedUnder key.keyId log)
  frames : framesUnder key.keyId log + spare ≤ countedUnder key.keyId log

variable {key : UmacKey}

theorem CountsFrames.mono {log : List TxRecord} {m n : Nat}
    (h : CountsFrames key log n) (hle : m ≤ n) : CountsFrames key log m :=
  ⟨h.txSeq, Nat.le_trans (Nat.add_le_add_left hle _) h.frames⟩

theorem CountsFrames.congr {log other : List TxRecord} {n : Nat}
    (h : CountsFrames key log n) (hinit : initialPn key.keyId other = initialPn key.keyId log)
    (hcounted : countedUnder key.keyId other = countedUnder key.keyId log)
    (hframes : framesUnder key.keyId other = framesUnder key.keyId log) :
    CountsFrames key other n :=
  ⟨by rw [hinit, hcounted]; exact h.txSeq, by rw [hframes, hcounted]; exact h.frames⟩

theorem CountsFrames.freshPn {log : List TxRecord} {spare : Nat}
    (h : CountsFrames key log spare) {conf : MmdrvKeyConf} (hid : conf.keyIdx = key.keyId)
    (hpn : conf.txPn = key.txSeq) : FreshPnUnlessWrapped conf log := by
  obtain ⟨init, hinit, hseq⟩ := h.txSeq
  refine ⟨init, by rw [hid]; exact hinit, fun hwrap => ?_⟩
  rw [hid] at hwrap ⊢
  have hcount : (BitVec.ofNat 64 (countedUnder key.keyId log)).toNat
      = countedUnder key.keyId log := by
    rw [BitVec.toNat_ofNat]
    exact Nat.mod_eq_of_lt (by omega)
  rw [hpn, hseq, BitVec.toNat_add_of_lt (by rw [hcount]; exact hwrap), hcount]
  have hframes := h.frames
  omega

/-- A key knows its id, and counts its frames. -/
structure TxSeqsCount (s : TxData) : Prop where
  slots : SlotsOk s.keys
  counts : ∀ slot key, installedKey s.keys slot = some key → CountsFrames key s.log 0
  installs : EveryInstall FreshPnUnlessWrapped s.log

theorem keyId_of_installedKey {data : ConnectionKeysData} {slot : KeySlot}
    (hok : SlotsOk data) (h : installedKey data slot = some key) :
    keySlot? key.keyId = some slot := by
  obtain ⟨p, hp, rfl⟩ := Option.map_eq_some_iff.mp h
  exact keySlot?_eq_some.mpr (hok.entry slot p hp).2

/-! ## What the transmit paths keep -/

/-- The records that say nothing of keys. -/
def SaysNothing : TxRecord → Prop
  | .numbered _ => True
  | .seqNumSpaces _ => True
  | .submitted frame => frame.hwEnc = false
  | _ => False

variable {s : TxData}

theorem record_txSeqsCount (hs : TxSeqsCount s) {r : TxRecord} (hr : SaysNothing r) :
    TxSeqsCount (s.record r) := by
  obtain ⟨hslots, hcounts, hinstalls⟩ := hs
  cases r with
  | numbered space | seqNumSpaces req =>
    exact ⟨hslots, fun slot key hkey => (hcounts slot key hkey).congr rfl rfl rfl, hinstalls⟩
  | submitted frame =>
    refine ⟨hslots, fun slot key hkey => (hcounts slot key hkey).congr rfl rfl ?_, hinstalls⟩
    show _ + (if frame.hwEnc && _ then 1 else 0) = _
    rw [show frame.hwEnc = false from hr]
    rfl
  | keyInstalled _ _ | driverKey _ | counted _ => cases hr

theorem takeSequenceNumber_txSeqsCount (hs : TxSeqsCount s) (space : SeqNumSpace) :
    TxSeqsCount (takeSequenceNumber s space).1 := by
  have hmoved : TxSeqsCount { s with
      txSeqNumSpaces := Function.update s.txSeqNumSpaces space (s.txSeqNumSpaces space + 1) } :=
    ⟨hs.slots, hs.counts, hs.installs⟩
  exact record_txSeqsCount hmoved (r := .numbered space) trivial

theorem calls_txSeqsCount (hs : TxSeqsCount s) {calls : List MmdrvKeyCall}
    (hcalls : ∀ call ∈ calls, ∃ slot key, installedKey s.keys slot = some key
      ∧ call ∈ umacKeysMmdrvInstallKey [] key) :
    TxSeqsCount { s with log := calls.map .driverKey ++ s.log } := by
  induction calls with
  | nil => exact hs
  | cons call rest ih =>
    have hrest := ih fun call' hcall' => hcalls call' (List.mem_cons_of_mem _ hcall')
    obtain ⟨slot, key, hkey, hcall⟩ := hcalls call (List.mem_cons_self ..)
    obtain ⟨conf, rfl, hid, hpn⟩ := mem_mmdrvInstallKey hcall
    exact ⟨hrest.slots, fun slot' key' hkey' => (hrest.counts slot' key' hkey').congr rfl rfl rfl,
      (hrest.counts slot key hkey).freshPn hid hpn, hrest.installs⟩

/-- A frame was counted under the key, and is not submitted yet. -/
def Spare (s : TxData) (keyId : U8) : Prop :=
  ∀ slot key, installedKey s.keys slot = some key → key.keyId = keyId → CountsFrames key s.log 1

variable {s s' : TxData} {keyId : Int}

theorem umacKeysIncrementTxSeq_txSeqsCount (hs : TxSeqsCount s)
    (h : umacKeysIncrementTxSeq s keyId = some s') : TxSeqsCount s' ∧ Spare s' (keyIdOf keyId) := by
  obtain ⟨keys, hkeys, rfl⟩ := Option.map_eq_some_iff.mp h
  obtain ⟨slot, hslot, -⟩ := connectionKeysIncrementTxSeq_cases hkeys
  have hok := connectionKeysIncrementTxSeq_slotsOk hs.slots hkeys
  have hinstalled := installedKey_increment hs.slots hslot hkeys
  -- the key of the frame is one ahead, the other keys are where they were
  have hcount : ∀ slot' key, installedKey keys slot' = some key →
      CountsFrames key (.counted (keyIdOf keyId) :: s.log)
        (if key.keyId = keyIdOf keyId then 1 else 0) := by
    intro slot' key hkey
    have hid := keyId_of_installedKey hok hkey
    rw [hinstalled slot'] at hkey
    by_cases hsame : slot' = slot
    · rw [if_pos hsame] at hkey
      obtain ⟨old, hold, rfl⟩ := Option.map_eq_some_iff.mp hkey
      have hcount := hs.counts slot old hold
      have hold_id : old.keyId = keyIdOf keyId := by
        apply BitVec.eq_of_toNat_eq
        rw [keySlot?_eq_some.mp (keyId_of_installedKey hs.slots hold), keySlot?_eq_some.mp hslot]
      obtain ⟨init, hinit, hseq⟩ := hcount.txSeq
      have hframes := hcount.frames
      have hcounted : countedUnder old.keyId (.counted (keyIdOf keyId) :: s.log)
          = countedUnder old.keyId s.log + 1 := by
        show _ + (if _ then 1 else 0) = _
        rw [if_pos hold_id.symm]
      refine ⟨⟨init, hinit, ?_⟩, ?_⟩
      · show old.txSeq + 1 = _
        rw [hcounted, hseq, BitVec.ofNat_add, BitVec.add_assoc]
        rfl
      · show framesUnder old.keyId s.log + _ ≤ _
        rw [hcounted]
        split <;> omega
    rw [if_neg hsame] at hkey
    have hother : keyIdOf keyId ≠ key.keyId := by
      intro hsameId
      rw [← hsameId, hslot] at hid
      exact hsame (Option.some.inj hid).symm
    have hcount := hs.counts slot' key hkey
    have hcounted : countedUnder key.keyId (.counted (keyIdOf keyId) :: s.log)
        = countedUnder key.keyId s.log := by
      show _ + (if _ then 1 else 0) = _
      rw [if_neg hother]
      rfl
    rw [if_neg (Ne.symm hother)]
    exact ⟨by rw [hcounted]; exact hcount.txSeq, by rw [hcounted]; exact hcount.frames⟩
  refine ⟨⟨hok, fun slot' key hkey => (hcount slot' key hkey).mono (Nat.zero_le _), hs.installs⟩,
    fun slot' key hkey hid => ?_⟩
  have hspare := hcount slot' key hkey
  rw [if_pos hid] at hspare
  exact hspare

theorem submitted_txSeqsCount (hs : TxSeqsCount s) {frame : TxFrame}
    (hspare : Spare s frame.keyIdx) : TxSeqsCount (mmdrvTxFrame s frame) := by
  refine ⟨hs.slots, fun slot key hkey => ?_, hs.installs⟩
  have hframes : framesUnder key.keyId (.submitted frame :: s.log)
      ≤ framesUnder key.keyId s.log + if key.keyId = frame.keyIdx then 1 else 0 := by
    show _ + (if frame.hwEnc && frame.keyIdx == key.keyId then 1 else 0) ≤ _
    by_cases hid : key.keyId = frame.keyIdx
    · rw [if_pos hid]
      split <;> omega
    · rw [if_neg hid, if_neg]
      rw [Bool.and_eq_true, beq_iff_eq]
      exact fun h => hid h.2.symm
  by_cases hid : key.keyId = frame.keyIdx
  · have hcount := hspare slot key hkey hid
    rw [if_pos hid] at hframes
    exact ⟨hcount.txSeq, Nat.le_trans hframes hcount.frames⟩
  · have hcount := hs.counts slot key hkey
    rw [if_neg hid] at hframes
    exact ⟨hcount.txSeq, Nat.le_trans hframes hcount.frames⟩

theorem submitMgmtFrame_txSeqsCount (hs : TxSeqsCount s) (frame : MgmtFrame)
    (sequenceNumber : U16) (hspare : 0 ≤ keyId → Spare s (keyIdOf keyId)) :
    TxSeqsCount (submitMgmtFrame s frame sequenceNumber keyId) := by
  unfold submitMgmtFrame
  split
  · exact hs
  by_cases hkey : 0 ≤ keyId
  · refine submitted_txSeqsCount hs ?_
    show Spare s (if 0 ≤ keyId then _ else _)
    rw [if_pos hkey]
    exact hspare hkey
  · exact record_txSeqsCount hs (r := .submitted _) (decide_eq_false hkey)

theorem submitDataFrame_txSeqsCount (hs : TxSeqsCount s) {sequenceNumber : U16}
    (h : submitDataFrame s sequenceNumber keyId = some s') : TxSeqsCount s' := by
  unfold submitDataFrame at h
  dsimp only at h
  split at h
  · obtain ⟨s₁, hcount, rfl⟩ := Option.map_eq_some_iff.mp h
    obtain ⟨hs₁, hspare⟩ := umacKeysIncrementTxSeq_txSeqsCount hs hcount
    exact submitted_txSeqsCount hs₁ hspare
  · next hkey =>
      cases h
      exact record_txSeqsCount hs (r := .submitted _) (decide_eq_false hkey)

theorem keptByTx_txSeqsCount : KeptByTx TxSeqsCount where
  take space hs := takeSequenceNumber_txSeqsCount hs space
  plain frame n hs := submitMgmtFrame_txSeqsCount hs frame n fun hneg => absurd hneg (by decide)
  robust frame n hs hcount := by
    obtain ⟨hs', hspare⟩ := umacKeysIncrementTxSeq_txSeqsCount hs hcount
    exact submitMgmtFrame_txSeqsCount hs' frame n fun _ => hspare
  data hs h := submitDataFrame_txSeqsCount hs h

/-! ## Keys -/

theorem txDataInit_txSeqsCount : TxSeqsCount txDataInit where
  slots := connectionKeysInit_inv.toSlotsOk
  counts := by
    intro slot key hkey
    cases hkey
  installs := trivial

theorem installKey_txSeqsCount (hs : TxSeqsCount s) (key : UmacKey) :
    TxSeqsCount (installKey s key) := by
  have hok : SlotsOk (connectionKeysInstallKey s.keys key).1 :=
    keychainStep_slotsOk hs.slots (show keychainStep s.keys (.install key) = some _ from rfl)
  unfold installKey umacKeysInstallKey
  rcases connectionKeysInstallKey_cases s.keys key with ⟨slot, p, hv, hslot, hw, heq⟩ | ⟨-, heq⟩
  · rw [heq] at hok ⊢
    dsimp only at hok ⊢
    rw [if_pos rfl]
    have hkeys := fun slot' => @installedKey_store _ _ slot' _ key hs.slots hw
    generalize connectionKeysStore s.keys slot p key = keys at hok hkeys
    have htaken : TxSeqsCount
        { s with keys := keys, log := .keyInstalled key.keyId key.txSeq :: s.log } := by
      refine ⟨hok, fun slot' key' hkey' => ?_, hs.installs⟩
      have hid := keyId_of_installedKey hok hkey'
      rw [hkeys slot'] at hkey'
      by_cases hsame : slot' = slot
      · rw [if_pos hsame] at hkey'
        cases hkey'
        refine ⟨⟨key.txSeq, if_pos rfl, ?_⟩, ?_⟩
        · show key.txSeq = key.txSeq + BitVec.ofNat 64 (if key.keyId = key.keyId then 0 else _)
          rw [if_pos rfl]
          exact (BitVec.add_zero _).symm
        · show (if key.keyId = key.keyId then 0 else _) + 0 ≤ _
          rw [if_pos rfl]
          exact Nat.zero_le _
      rw [if_neg hsame] at hkey'
      have hother : key.keyId ≠ key'.keyId := by
        intro hsameId
        rw [← hsameId, hslot] at hid
        exact hsame (Option.some.inj hid).symm
      exact (hs.counts slot' key' hkey').congr (if_neg hother) (if_neg hother) (if_neg hother)
    refine calls_txSeqsCount htaken fun call hcall => ?_
    refine ⟨slot, (s.keys.pool p).install key, by rw [hkeys slot, if_pos rfl], ?_⟩
    -- the driver gets the key itself, whose octets beyond its length do not matter
    unfold umacKeysMmdrvInstallKey at hcall ⊢
    show call ∈ if key.keyType.isHw then _ else _
    split at hcall
    · next hhw =>
        rw [if_pos hhw]
        rw [List.mem_singleton.mp hcall, List.mem_singleton]
        congr 2
        funext i
        show (if i.val < key.keyLen then _ else _) = if i.val < key.keyLen then _ else _
        split
        · next hlt =>
            show key.keyData i = if i.val < key.keyLen then key.keyData i else _
            rw [if_pos hlt]
        · rfl
    · cases hcall
  · rw [heq]
    exact ⟨hs.slots, hs.counts, hs.installs⟩

theorem uninstallKey_txSeqsCount (hs : TxSeqsCount s) {keyId : U8}
    (h : uninstallKey s keyId = some s') : TxSeqsCount s' := by
  unfold uninstallKey at h
  rw [umacKeysUninstallKey_eq] at h
  cases h
  have hok : SlotsOk (connectionKeysUninstallKey s.keys keyId).1 :=
    keychainStep_slotsOk hs.slots (show keychainStep s.keys (.uninstall keyId) = some _ from rfl)
  refine ⟨hok, fun slot key hkey => ?_, hs.installs⟩
  rcases connectionKeysUninstallKey_cases s.keys keyId with ⟨slot', p, -, hp, heq⟩ | ⟨-, heq⟩
  · rw [heq] at hkey
    change installedKey (connectionKeysFree s.keys slot' p) slot = some key at hkey
    rw [installedKey_free hs.slots hp] at hkey
    split at hkey
    · cases hkey
    · exact hs.counts slot key hkey
  · rw [heq] at hkey
    exact hs.counts slot key hkey

theorem reinstallKeys_txSeqsCount (hs : TxSeqsCount s) (driverOk : KeySlot → Bool) :
    TxSeqsCount (reinstallKeys s driverOk) := by
  obtain ⟨made, hmade, hcalls⟩ := @mem_reinstallLoop driverOk s.keys
    (List.finRange umacKeysNumKeyIds) []
  rw [List.append_nil] at hmade
  have hlog : reinstallKeys s driverOk = { s with log := made.map .driverKey ++ s.log } := by
    rw [← hmade]
    rfl
  rw [hlog]
  exact calls_txSeqsCount hs hcalls

/-! ## Runs -/

theorem txStep_txSeqsCount {e : TxEvent} (hs : TxSeqsCount s)
    (h : txStep s e = some s') : TxSeqsCount s' := by
  cases e with
  | installKey key =>
    cases h
    exact installKey_txSeqsCount hs key
  | uninstallKey keyId => exact uninstallKey_txSeqsCount hs h
  | data frame => exact keptByTx_txSeqsCount.txFrame hs h
  | mgmt frame => exact keptByTx_txSeqsCount.mgmtFrame hs h
  | mgmtAp frame =>
    cases h
    exact submitMgmtFrame_txSeqsCount (takeSequenceNumber_txSeqsCount hs .baseline) frame _
      fun hneg => absurd hneg (by decide)
  | qosNull =>
    cases h
    exact record_txSeqsCount (takeSequenceNumber_txSeqsCount hs .qosNull) (r := .submitted _) rfl
  | reinstallKeys driverOk =>
    cases h
    exact reinstallKeys_txSeqsCount hs driverOk
  | handleHwRestarted =>
    cases h
    exact record_txSeqsCount hs (r := .seqNumSpaces _) trivial

/-- Over every history of a STA record, the packet number that the chip gets with a key is at
least the one the key was first installed with plus the frames submitted under it since, unless
the counter wrapped. -/
theorem packet_numbers_not_reused (es : List TxEvent) :
    Throughout txStep (fun s => EveryInstall FreshPnUnlessWrapped s.log) txDataInit es :=
  (throughout_of_invariant (fun _ _ _ hs h => txStep_txSeqsCount hs h)
    txDataInit_txSeqsCount es).mono fun _ hs => hs.installs

/-- The last packet number, and one frame: the chip is told to start again at 0. -/
theorem packet_numbers_wrap :
    ∃ s, runFrom txStep txDataInit
        [.installKey { UmacKey.zero with keyType := .pairwise, keyLen := 16, txSeq := 2 ^ 64 - 1 },
          .data { openDataFrame 0 with securityType := .sae },
          .reinstallKeys fun _ => true] = some s
      ∧ ¬ EveryInstall FreshPn s.log := by
  refine ⟨_, rfl, ?_⟩
  rintro ⟨⟨init, hinit, hle⟩, -⟩
  obtain rfl := Option.some.inj hinit
  exact absurd hle (by decide +kernel)

end MmIotEsp32.Umac.Datapath
