/-
  MmIotEsp32.Umac.SupplicantShim.BipExact

  Which group addressed management frames `bip_is_valid` accepts, against which are genuine.
-/
import MmIotEsp32.Umac.Datapath.RxMgmtFrame

namespace MmIotEsp32.Umac.SupplicantShim

open Ies Keys Datapath

/-! ## Genuine frames -/

/-- Where the element that ends a frame begins. -/
def lastElement (dataLen : Nat) : Nat := dataLen - sizeofDot11IeMmie

/-- The body ends with a Management MIC element. -/
def EndsWithMmie (data : BytePtr) (dataLen : Nat) : Prop :=
  sizeofDot11IeMmie ≤ dataLen ∧ data (lastElement dataLen) = dot11IeManagementMic
    ∧ (data (lastElement dataLen + 1)).toNat = sizeofDot11IeMmie - ieSizeofHeader

instance (data : BytePtr) (dataLen : Nat) : Decidable (EndsWithMmie data dataLen) :=
  inferInstanceAs (Decidable (_ ∧ _ ∧ _))

/-- The two octets of the frame control without RETRY, POWER_MGMT and MORE_DATA, which are bits 3 to
5 of the second, and the three addresses. -/
def maskedHeader (header : BytePtr) : List U8 :=
  header 0 :: (header 1 &&& ~~~0x38) :: (header.add 4).take 18

/-- What the MIC of a genuine frame is computed over. -/
def authenticatedOctets (header data : BytePtr) (dataLen : Nat) : List U8 :=
  maskedHeader header ++ data.take (dataLen - micLength) ++ List.replicate micLength 0

/-- The frame ends with an element that names an installed IGTK (one that AES-128-CMAC takes), and
carries the MIC and a packet number above the last one that was accepted. -/
def Genuine (omac1Aes128 : Omac1Aes128) (keys : ConnectionKeysData) (header data : BytePtr)
    (dataLen : Nat) : Prop :=
  EndsWithMmie data dataLen ∧ ∃ slot key mic,
    data.le16 (lastElement dataLen + 2) = BitVec.ofNat 16 slot.val
      ∧ installedKey keys slot = some key ∧ key.keyType = .igtk
      ∧ key.keyLen ≤ maxSupportedKeyLen
      ∧ omac1Aes128 key.keyData (authenticatedOctets header data dataLen) = some mic
      ∧ mmieMic data (lastElement dataLen) = mic.take micLength
      ∧ (key.rxSeq .default).toNat < (mmiePacketNumber data (lastElement dataLen)).toNat

/-- The check of a frame is exact: what it accepts is genuine, what is genuine it accepts (with
memory for the octets), and what it turns down leaves the replay counters, and all else of the keys,
alone. -/
structure BipExact (omac1Aes128 : Omac1Aes128) (keys : ConnectionKeysData) (header data : BytePtr)
    (dataLen : Nat) : Prop where
  sound : ∀ allocated keys',
    bipIsValid omac1Aes128 keys header data dataLen allocated = some (keys', true) →
      Genuine omac1Aes128 keys header data dataLen
  complete : Genuine omac1Aes128 keys header data dataLen →
    ∃ keys', bipIsValid omac1Aes128 keys header data dataLen true = some (keys', true)
  kept : ∀ allocated keys',
    bipIsValid omac1Aes128 keys header data dataLen allocated = some (keys', false) → keys' = keys

section Exact

variable {omac1Aes128 : Omac1Aes128} {keys keys' : ConnectionKeysData} {header data : BytePtr}
  {dataLen mmie : Nat} {allocated : Bool}

/-! ## What is authenticated -/

theorem high_append (b a : U8) : (((b ++ a : U16) >>> 8).setWidth 8 : U8) = b := by
  apply BitVec.eq_of_toNat_eq
  have ha := a.isLt
  have hb := b.isLt
  rw [BitVec.toNat_setWidth, BitVec.toNat_ushiftRight, Nat.shiftRight_eq_div_pow]
  show (BitVec.append b a).toNat / 2 ^ 8 % 2 ^ 8 = _
  rw [BitVec.append_eq, BitVec.toNat_append, Nat.shiftLeft_eq, Nat.mul_comm,
    ← Nat.two_pow_add_eq_or_of_lt ha]
  omega

theorem mask_low (w : U16) : ((w &&& ~~~0x3800).setWidth 8 : U8) = w.setWidth 8 := by
  ext i hi
  have hcases : i = 0 ∨ i = 1 ∨ i = 2 ∨ i = 3 ∨ i = 4 ∨ i = 5 ∨ i = 6 ∨ i = 7 := by omega
  rcases hcases with rfl | rfl | rfl | rfl | rfl | rfl | rfl | rfl <;> simp

theorem mask_high (w : U16) :
    (((w &&& ~~~0x3800) >>> 8).setWidth 8 : U8) = (w >>> 8).setWidth 8 &&& ~~~0x38 := by
  ext i hi
  have hcases : i = 0 ∨ i = 1 ∨ i = 2 ∨ i = 3 ∨ i = 4 ∨ i = 5 ∨ i = 6 ∨ i = 7 := by omega
  rcases hcases with rfl | rfl | rfl | rfl | rfl | rfl | rfl | rfl <;> simp

theorem bipAad_eq (header : BytePtr) : bipAad header = maskedHeader header := by
  unfold bipAad maskedHeader
  dsimp only
  rw [mask_low, mask_high,
    show (Dot11.frameControl header).setWidth 8 = header 0 from BitVec.setWidth_append_eq_right,
    show ((Dot11.frameControl header >>> 8).setWidth 8 : U8) = header 1 from high_append ..]
  rfl

theorem bipInput_eq (h : micLength ≤ dataLen) :
    bipInput header data dataLen = authenticatedOctets header data dataLen := by
  unfold bipInput authenticatedOctets
  have hlen : (maskedHeader header).length = aadLength := by
    unfold maskedHeader
    rw [List.length_cons, List.length_cons, BytePtr.length_take]
    rfl
  rw [bipAad_eq, List.take_append, hlen, List.take_of_length_le (by omega)]
  congr 2
  unfold BytePtr.take
  rw [← List.map_take, List.take_range]
  congr 2
  omega

/-! ## What is accepted -/

theorem mmieAccepted_of_valid
    (h : bipIsValid omac1Aes128 keys header data dataLen allocated = some (keys', true)) :
    ∃ mmie, ieMmieFind data dataLen = some mmie
      ∧ MmieAccepted omac1Aes128 keys header data dataLen mmie := by
  cases hmmie : ieMmieFind data dataLen with
  | none =>
    unfold bipIsValid at h
    rw [hmmie] at h
    cases h
  | some mmie => exact ⟨mmie, rfl, ((bipIsValid_spec hmmie).2 keys' true h).mp rfl⟩

theorem bipIsValid_true_iff :
    (∃ keys', bipIsValid omac1Aes128 keys header data dataLen true = some (keys', true))
      ↔ ∃ mmie, ieMmieFind data dataLen = some mmie
        ∧ MmieAccepted omac1Aes128 keys header data dataLen mmie := by
  constructor
  · rintro ⟨keys', h⟩
    exact mmieAccepted_of_valid h
  rintro ⟨mmie, hmmie, haccepted⟩
  obtain ⟨hnone, hsome⟩ := @bipIsValid_spec omac1Aes128 keys header data dataLen mmie true hmmie
  cases hbip : bipIsValid omac1Aes128 keys header data dataLen true with
  | none =>
    obtain ⟨key, mic, hkey, -⟩ := haccepted
    obtain ⟨slot, hslot, -⟩ := hkey.installed
    rcases hnone.mp hbip with hbad | ⟨_, -, hno⟩
    · cases hslot.symm.trans hbad
    · cases hno
  | some answer =>
    obtain ⟨keys', valid⟩ := answer
    obtain rfl := (hsome keys' valid hbip).mpr haccepted
    exact ⟨keys', rfl⟩

theorem connectionKeysCheckAndUpdateRxReplay_false {keyId : U8} {packetNumber : U64}
    {space : UmacKeyRxCounterSpace}
    (h : connectionKeysCheckAndUpdateRxReplay keys keyId packetNumber space
      = some (keys', false)) : keys' = keys := by
  unfold connectionKeysCheckAndUpdateRxReplay at h
  obtain ⟨slot, -, h⟩ := Option.map_eq_some_iff.mp h
  split at h
  · exact (Prod.mk.inj h).1.symm
  next p hp =>
    dsimp only at h
    split_ifs at h
    · cases (Prod.mk.inj h).2
    · exact (Prod.mk.inj h).1.symm

theorem bipIsValid_false
    (h : bipIsValid omac1Aes128 keys header data dataLen allocated = some (keys', false)) :
    keys' = keys := by
  unfold bipIsValid at h
  cases hmmie : ieMmieFind data dataLen with
  | none =>
    rw [hmmie] at h
    exact (Prod.mk.inj (Option.some.inj h)).1.symm
  | some mmie =>
    rw [hmmie] at h
    obtain ⟨keyType, -, h⟩ := Option.bind_eq_some_iff.mp h
    split_ifs at h with htype
    · exact (Prod.mk.inj (Option.some.inj h)).1.symm
    obtain ⟨keyLen, -, h⟩ := Option.bind_eq_some_iff.mp h
    split_ifs at h with hlong
    · exact (Prod.mk.inj (Option.some.inj h)).1.symm
    obtain ⟨keyData, -, h⟩ := Option.bind_eq_some_iff.mp h
    obtain ⟨keyData, -, h⟩ := Option.bind_eq_some_iff.mp h
    obtain ⟨mic, -, h⟩ := Option.bind_eq_some_iff.mp h
    cases mic with
    | none => exact (Prod.mk.inj (Option.some.inj h)).1.symm
    | some mic =>
      dsimp only at h
      split_ifs at h with hmic
      · exact (Prod.mk.inj (Option.some.inj h)).1.symm
      · exact connectionKeysCheckAndUpdateRxReplay_false h

/-! ## The frames on which the check is exact -/

/-- An element that some keys may accept: its key id is that of a slot, and its packet number is not
the lowest. -/
def CanPass (data : BytePtr) (mmie : Nat) : Prop :=
  (keySlot? (mmieKeyId data mmie)).isSome = true ∧ 0 < (mmiePacketNumber data mmie).toNat

/-- A frame that may be genuine. -/
def CanBeGenuine (data : BytePtr) (dataLen : Nat) : Prop :=
  EndsWithMmie data dataLen
    ∧ (data.le16 (lastElement dataLen + 2)).toNat < umacKeysNumKeyIds
    ∧ 0 < (mmiePacketNumber data (lastElement dataLen)).toNat

/-- The element says what the one that ends the frame says, and with a key id of one octet. -/
structure SaysTheSame (data : BytePtr) (dataLen mmie : Nat) : Prop where
  keyId : data.le16 (lastElement dataLen + 2) = (mmieKeyId data mmie).setWidth 16
  packetNumber : mmiePacketNumber data (lastElement dataLen) = mmiePacketNumber data mmie
  mic : mmieMic data (lastElement dataLen) = mmieMic data mmie

/-- The element that is found says the same as the one that ends the frame; or neither can be
accepted. -/
def FindsTheLast (data : BytePtr) (dataLen : Nat) : Prop :=
  (∃ mmie, ieMmieFind data dataLen = some mmie ∧ EndsWithMmie data dataLen
      ∧ SaysTheSame data dataLen mmie)
    ∨ ((∀ mmie, ieMmieFind data dataLen = some mmie → ¬ CanPass data mmie)
      ∧ ¬ CanBeGenuine data dataLen)

theorem keySlot?_eq_some_iff {keyId : U8} {slot : KeySlot} :
    keySlot? keyId = some slot ↔ keyId.toNat = slot.val := by
  unfold keySlot?
  split_ifs with hvalid
  · rw [Option.some_inj, Fin.ext_iff]
  · refine iff_of_false (fun h => nomatch h) fun h => hvalid ?_
    rw [h]
    exact slot.isLt

theorem canPass_of_accepted (h : MmieAccepted omac1Aes128 keys header data dataLen mmie) :
    CanPass data mmie := by
  obtain ⟨key, mic, hkey, -, -, hfresh⟩ := h
  obtain ⟨slot, hslot, -⟩ := hkey.installed
  refine ⟨?_, by omega⟩
  rw [hslot]
  rfl

theorem Genuine.canBeGenuine (h : Genuine omac1Aes128 keys header data dataLen) :
    CanBeGenuine data dataLen := by
  obtain ⟨hends, slot, key, mic, hslot, -, -, -, -, -, hfresh⟩ := h
  refine ⟨hends, ?_, by omega⟩
  have hlt := slot.isLt
  have hnum : umacKeysNumKeyIds = 6 := rfl
  rw [hslot, BitVec.toNat_ofNat]
  omega

theorem accepted_iff_genuine (hends : EndsWithMmie data dataLen)
    (hsame : SaysTheSame data dataLen mmie) :
    MmieAccepted omac1Aes128 keys header data dataLen mmie
      ↔ Genuine omac1Aes128 keys header data dataLen := by
  have hmic : micLength ≤ dataLen := Nat.le_trans (by decide) hends.1
  have hslot : ∀ slot : KeySlot, keySlot? (mmieKeyId data mmie) = some slot
      ↔ data.le16 (lastElement dataLen + 2) = BitVec.ofNat 16 slot.val := by
    intro slot
    have hlt := slot.isLt
    have hnum : umacKeysNumKeyIds = 6 := rfl
    have hid := (mmieKeyId data mmie).isLt
    rw [keySlot?_eq_some_iff, hsame.keyId, ← BitVec.toNat_inj, BitVec.toNat_setWidth,
      BitVec.toNat_ofNat]
    omega
  unfold MmieAccepted Genuine
  rw [bipInput_eq hmic, hsame.packetNumber, hsame.mic]
  constructor
  · rintro ⟨key, mic, ⟨⟨slot, hid, hinstalled⟩, higtk, hshort⟩, h⟩
    exact ⟨hends, slot, key, mic, (hslot slot).mp hid, hinstalled, higtk, hshort, h⟩
  · rintro ⟨-, slot, key, mic, hid, hinstalled, higtk, hshort, h⟩
    exact ⟨key, mic, ⟨⟨slot, (hslot slot).mpr hid, hinstalled⟩, higtk, hshort⟩, h⟩

/-- One IGTK, in a slot, with a packet number that was accepted last. -/
def oneIgtk (slot : KeySlot) (last : U64) : ConnectionKeysData where
  keys := fun s => if s = slot then some ⟨0, by decide⟩ else none
  pool := fun _ => ⟨BitVec.ofNat 8 slot.val, .igtk, fun _ => 0, 16, fun _ => last, 0⟩
  activeKeyLookup := fun _ => -1

theorem installedKey_oneIgtk {slot slot' : KeySlot} {last : U64} {key : UmacKey} :
    installedKey (oneIgtk slot last) slot' = some key
      ↔ slot' = slot
        ∧ key = ⟨BitVec.ofNat 8 slot.val, .igtk, fun _ => 0, 16, fun _ => last, 0⟩ := by
  unfold installedKey oneIgtk
  dsimp only
  split_ifs with hslot
  · rw [Option.map_some, Option.some_inj, and_iff_right hslot, eq_comm]
  · exact iff_of_false (fun h => nomatch h) fun h => hslot h.1

theorem accepted_oneIgtk {slot : KeySlot} (hslot : keySlot? (mmieKeyId data mmie) = some slot)
    {last : U64} :
    MmieAccepted (fun _ _ => some (mmieMic data mmie)) (oneIgtk slot last) header data dataLen mmie
      ↔ last.toNat < (mmiePacketNumber data mmie).toNat := by
  have hlen : (mmieMic data mmie).take micLength = mmieMic data mmie :=
    List.take_of_length_le (BytePtr.length_take ..).le
  constructor
  · rintro ⟨key, mic, hkey, -, -, hfresh⟩
    obtain ⟨slot', -, hinstalled⟩ := hkey.installed
    obtain ⟨-, rfl⟩ := installedKey_oneIgtk.mp hinstalled
    exact hfresh
  intro hfresh
  refine ⟨_, _, ⟨⟨slot, hslot, installedKey_oneIgtk.mpr ⟨rfl, rfl⟩⟩, rfl, ?_⟩, rfl, hlen.symm,
    hfresh⟩
  exact Nat.le_refl _

theorem genuine_oneIgtk {slot : KeySlot} {wanted : List U8} {last : U64}
    (hwanted : wanted.take micLength = wanted) :
    Genuine (fun _ _ => some wanted) (oneIgtk slot last) header data dataLen
      ↔ EndsWithMmie data dataLen
        ∧ data.le16 (lastElement dataLen + 2) = BitVec.ofNat 16 slot.val
        ∧ mmieMic data (lastElement dataLen) = wanted
        ∧ last.toNat < (mmiePacketNumber data (lastElement dataLen)).toNat := by
  constructor
  · rintro ⟨hends, slot', key, mic, hid, hinstalled, -, -, heq, hmic, hfresh⟩
    obtain ⟨rfl, rfl⟩ := installedKey_oneIgtk.mp hinstalled
    cases heq
    exact ⟨hends, hid, hmic.trans hwanted, hfresh⟩
  · rintro ⟨hends, hid, hmic, hfresh⟩
    exact ⟨hends, slot, _, wanted, hid, installedKey_oneIgtk.mpr ⟨rfl, rfl⟩, rfl, Nat.le_refl _,
      rfl, hmic.trans hwanted.symm, hfresh⟩

theorem saysTheSame_of_exact (h : ∀ omac1Aes128 keys, BipExact omac1Aes128 keys header data dataLen)
    (hmmie : ieMmieFind data dataLen = some mmie) (hpass : CanPass data mmie) :
    EndsWithMmie data dataLen ∧ SaysTheSame data dataLen mmie := by
  obtain ⟨hslot, hpositive⟩ := hpass
  obtain ⟨slot, hslot⟩ := Option.isSome_iff_exists.mp hslot
  have hwanted : (mmieMic data mmie).take micLength = mmieMic data mmie :=
    List.take_of_length_le (BytePtr.length_take ..).le
  -- with this CMAC and a key in the slot, both turn on the packet numbers alone
  have hboth : ∀ last : U64, last.toNat < (mmiePacketNumber data mmie).toNat
      ↔ EndsWithMmie data dataLen
        ∧ data.le16 (lastElement dataLen + 2) = BitVec.ofNat 16 slot.val
        ∧ mmieMic data (lastElement dataLen) = mmieMic data mmie
        ∧ last.toNat < (mmiePacketNumber data (lastElement dataLen)).toNat := by
    intro last
    have hexact := h (fun _ _ => some (mmieMic data mmie)) (oneIgtk slot last)
    rw [← @accepted_oneIgtk header data dataLen mmie slot hslot last, ← genuine_oneIgtk hwanted]
    constructor
    · intro haccepted
      obtain ⟨keys', hvalid⟩ := bipIsValid_true_iff.mpr ⟨mmie, hmmie, haccepted⟩
      exact hexact.sound true keys' hvalid
    intro hgenuine
    obtain ⟨mmie', hmmie', haccepted⟩ := bipIsValid_true_iff.mp (hexact.complete hgenuine)
    obtain rfl := Option.some.inj (hmmie.symm.trans hmmie')
    exact haccepted
  obtain ⟨hends, hid, hmic, -⟩ := (hboth 0).mp hpositive
  refine ⟨hends, ⟨?_, BitVec.eq_of_toNat_eq (Nat.le_antisymm ?_ ?_), hmic⟩⟩
  · have hval := keySlot?_eq_some_iff.mp hslot
    rw [hid, ← hval, ← BitVec.toNat_inj, BitVec.toNat_ofNat, BitVec.toNat_setWidth]
  · by_contra hlt
    exact absurd ((hboth _).mpr ⟨hends, hid, hmic, Nat.lt_of_not_le hlt⟩) (Nat.lt_irrefl _)
  · by_contra hlt
    exact absurd ((hboth _).mp (Nat.lt_of_not_le hlt)).2.2.2 (Nat.lt_irrefl _)

theorem canPass_of_exact (h : ∀ omac1Aes128 keys, BipExact omac1Aes128 keys header data dataLen)
    (hgenuine : CanBeGenuine data dataLen) :
    ∃ mmie, ieMmieFind data dataLen = some mmie ∧ CanPass data mmie := by
  obtain ⟨hends, hid, hpositive⟩ := hgenuine
  let slot : KeySlot := ⟨(data.le16 (lastElement dataLen + 2)).toNat, hid⟩
  have hwanted : (mmieMic data (lastElement dataLen)).take micLength
      = mmieMic data (lastElement dataLen) :=
    List.take_of_length_le (BytePtr.length_take ..).le
  have hslot : data.le16 (lastElement dataLen + 2) = BitVec.ofNat 16 slot.val := by
    apply BitVec.eq_of_toNat_eq
    rw [BitVec.toNat_ofNat, Nat.mod_eq_of_lt]
    exact (data.le16 (lastElement dataLen + 2)).isLt
  have hcomplete := (h (fun _ _ => some (mmieMic data (lastElement dataLen)))
    (oneIgtk slot 0)).complete ((genuine_oneIgtk hwanted).mpr ⟨hends, hslot, rfl, hpositive⟩)
  obtain ⟨mmie, hmmie, haccepted⟩ := bipIsValid_true_iff.mp hcomplete
  exact ⟨mmie, hmmie, canPass_of_accepted haccepted⟩

end Exact

/-- **The frames on which the check is exact.**  For every frame of any length and body: whatever
keys are installed and whatever function the CMAC is, `bip_is_valid` accepts the frame if and only
if it is genuine, and leaves the replay counters alone when it does not accept it, if and only if
the element that the scan finds says the same as the one that ends the frame, or neither can be
accepted. -/
theorem bip_exact_iff (header data : BytePtr) (dataLen : Nat) :
    (∀ omac1Aes128 keys, BipExact omac1Aes128 keys header data dataLen)
      ↔ FindsTheLast data dataLen := by
  constructor
  · intro h
    by_cases hpass : ∃ mmie, ieMmieFind data dataLen = some mmie ∧ CanPass data mmie
    · obtain ⟨mmie, hmmie, hpass⟩ := hpass
      obtain ⟨hends, hsame⟩ := saysTheSame_of_exact h hmmie hpass
      exact .inl ⟨mmie, hmmie, hends, hsame⟩
    · refine .inr ⟨fun mmie hmmie hcan => hpass ⟨mmie, hmmie, hcan⟩, fun hgenuine => hpass ?_⟩
      exact canPass_of_exact h hgenuine
  rintro (⟨mmie, hmmie, hends, hsame⟩ | ⟨hpass, hgenuine⟩) omac1Aes128 keys
  · refine ⟨fun allocated keys' hvalid => ?_, fun h => ?_, fun _ _ => bipIsValid_false⟩
    · obtain ⟨mmie', hmmie', haccepted⟩ := mmieAccepted_of_valid hvalid
      obtain rfl := Option.some.inj (hmmie.symm.trans hmmie')
      exact (accepted_iff_genuine hends hsame).mp haccepted
    · exact bipIsValid_true_iff.mpr ⟨mmie, hmmie, (accepted_iff_genuine hends hsame).mpr h⟩
  refine ⟨fun allocated keys' hvalid => ?_, fun h => ?_, fun _ _ => bipIsValid_false⟩
  · obtain ⟨mmie, hmmie, haccepted⟩ := mmieAccepted_of_valid hvalid
    exact absurd (canPass_of_accepted haccepted) (hpass mmie hmmie)
  · exact absurd h.canBeGenuine hgenuine

/-- A Channel Switch Announcement to everybody: the header; category and action; the element with
the new channel; and the Management MIC element, with the key id 4 and the packet number 1. -/
def csaFrame : List U8 :=
  [0xd0, 0x00, 0x00, 0x00, 0xff, 0xff, 0xff, 0xff, 0xff, 0xff, 0x02, 0x00, 0x00, 0x00, 0x00, 0x01,
    0x02, 0x00, 0x00, 0x00, 0x00, 0x01, 0x00, 0x00,
    0x00, 0x04,
    0x25, 0x03, 0x00, 0x01, 0x05,
    0x4c, 0x10, 0x04, 0x00, 0x01, 0x00, 0x00, 0x00, 0x00, 0x00, 0xa0, 0xa1, 0xa2, 0xa3, 0xa4, 0xa5,
    0xa6, 0xa7]

/-- The frame as it is received. -/
def csaHeader : BytePtr := fun i => csaFrame.getD i 0

/-- The scan takes category and action for an element of four octets, and the octets behind it for
one that goes beyond the end: the frame is genuine, and it is turned down. -/
theorem genuine_csa_turned_down :
    let data := csaHeader.add Dot11.sizeofDot11Hdr
    let cmac : Omac1Aes128 := fun _ _ => some [0xa0, 0xa1, 0xa2, 0xa3, 0xa4, 0xa5, 0xa6, 0xa7]
    let keys := oneIgtk ⟨4, by decide⟩ 0
    frameIsRobustMgmt csaHeader = true
      ∧ Dot11.mmMacAddrIsMulticast (Dot11.dot11GetDa csaHeader) = true
      ∧ Genuine cmac keys csaHeader data 25
      ∧ bipIsValid cmac keys csaHeader data 25 true = some (keys, false)
      ∧ ¬ BipExact cmac keys csaHeader data 25 := by
  intro data cmac keys
  have hfind : ieMmieFind data 25 = none := by
    unfold ieMmieFind ieFindAndValidateLength
    rw [ieFindLoop, ieFindLoop]
    decide +kernel
  have hinvalid : bipIsValid cmac keys csaHeader data 25 true = some (keys, false) := by
    unfold bipIsValid
    rw [hfind]
  have hgenuine : Genuine cmac keys csaHeader data 25 :=
    (genuine_oneIgtk (by decide)).mpr ⟨by decide +kernel, by decide +kernel, by decide +kernel,
      by decide +kernel⟩
  refine ⟨by decide +kernel, by decide +kernel, hgenuine, hinvalid, fun hexact => ?_⟩
  obtain ⟨keys', hvalid⟩ := hexact.complete hgenuine
  rw [hinvalid] at hvalid
  cases (Prod.mk.inj (Option.some.inj hvalid)).2

end MmIotEsp32.Umac.SupplicantShim
