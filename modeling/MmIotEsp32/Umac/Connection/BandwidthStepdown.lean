/-
  MmIotEsp32.Umac.Connection.BandwidthStepdown

  Connecting to an access point whose channel is wider than what the chip supports
  (`restrict_channel_bandwidth_config` and the three step-downs of
  `umac/connection/umac_connection.c`).
-/
import MmIotEsp32.Umac.Interface.PrimaryChannel
import MmIotEsp32.Umac.Rc.UmacRc

namespace MmIotEsp32.Umac.Connection

open Interface Rc

/-! ## The S1G Operation element -/

/-- `struct dot11_ie_s1g_operation`, as far as it is read. -/
structure Dot11IeS1gOperation where
  channelWidth : U8
  operatingClass : U8
  primaryChannelNumber : U8
  channelCenterFreq : U8
  deriving Repr, DecidableEq

def ieS1gOperationGetOperatingBw (rawIe : Dot11IeS1gOperation) : U8 :=
  (rawIe.channelWidth &&& 0x1e) >>> 1 + 1

def ieS1gOperationParse (rawIe : Dot11IeS1gOperation) : Option S1gOperation :=
  let operationChannelWidthMhz := ieS1gOperationGetOperatingBw rawIe
  let primaryChannelWidthMhz : U8 := if rawIe.channelWidth &&& 0x01 = 0 then 2 else 1
  if operationChannelWidthMhz.toNat < primaryChannelWidthMhz.toNat then none
  else
    some
      { primaryChannelWidthMhz := primaryChannelWidthMhz
        operationChannelWidthMhz := operationChannelWidthMhz
        primary1mhzChannelLoc := (rawIe.channelWidth &&& 0x20) >>> 5
        recommendNoMcs10 := (rawIe.channelWidth &&& 0x80) >>> 7
        operatingClass := rawIe.operatingClass
        primaryChannelNumber := rawIe.primaryChannelNumber
        operatingChannelIndex := rawIe.channelCenterFreq }

theorem ieS1gOperationParse_primaryWidth {rawIe : Dot11IeS1gOperation} {config : S1gOperation}
    (h : ieS1gOperationParse rawIe = some config) :
    config.primaryChannelWidthMhz = 1 ∨ config.primaryChannelWidthMhz = 2 := by
  unfold ieS1gOperationParse at h
  dsimp only at h
  split_ifs at h <;> cases h
  · exact .inr rfl
  · exact .inl rfl

/-! ## The step-downs -/

/-- `while (config->operation_channel_width_mhz > max_bw)`, for at most `fuel` times. -/
def stepdownLoop (halve : S1gOperation → S1gOperation) (maxBw : U8) :
    Nat → S1gOperation → S1gOperation
  | 0, config => config
  | fuel + 1, config =>
    if config.operationChannelWidthMhz.toNat ≤ maxBw.toNat then config
    else stepdownLoop halve maxBw fuel (halve config)

/-- As many times as an 8-bit width can be halved. -/
def stepdownFuel : Nat := 8

/-- The class before and half the width. -/
def narrowed (config : S1gOperation) : S1gOperation :=
  { config with
    operatingClass := config.operatingClass - 1
    operationChannelWidthMhz := config.operationChannelWidthMhz / 2 }

/-- The channel that is the lower or the upper half. -/
def moved (config : S1gOperation) (moveToLower : Bool) : S1gOperation :=
  { config with
    operatingChannelIndex :=
      if moveToLower then config.operatingChannelIndex - config.operationChannelWidthMhz
      else config.operatingChannelIndex + config.operationChannelWidthMhz }

/-- The body of the loop of `default_bw_stepdown`. -/
def defaultHalve (config : S1gOperation) : S1gOperation :=
  let config := narrowed config
  moved config (config.primaryChannelNumber.toNat < config.operatingChannelIndex.toNat)

def defaultBwStepdown (maxBw : U8) (config : S1gOperation) : Option S1gOperation :=
  if config.operationChannelWidthMhz.toNat
      < ((config.operatingChannelIndex.toNat : Int) - config.primaryChannelNumber.toNat).natAbs
  then none
  else some (stepdownLoop defaultHalve maxBw stepdownFuel config)

def is4mhzAuRevmfOperatingClass (x : U8) : Bool := x = 39 || x = 48

def isAuRevmfOperatingClass (x : U8) : Bool := (x = 39 || x = 48) || (x = 40 || x = 49)

/-- The body of the loop of `au_revmf_bw_stepdown`. -/
def auRevmfHalve (config : S1gOperation) : S1gOperation :=
  let config :=
    if is4mhzAuRevmfOperatingClass config.operatingClass then
      { config with
        operatingChannelIndex := config.operatingChannelIndex - 16
        operatingClass := 24 }
    else config
  let config := narrowed config
  moved config <|
    -- the 4 MHz channels of these classes are not numbered by their centre frequency
    if config.operationChannelWidthMhz = 4 then config.primaryChannelNumber.toNat < 39
    else config.primaryChannelNumber.toNat < config.operatingChannelIndex.toNat

def auRevmfBwStepdown (maxBw : U8) (config : S1gOperation) : Option S1gOperation :=
  if config.primaryChannelNumber.toNat < 32 ∨ 46 < config.primaryChannelNumber.toNat then none
  else some (stepdownLoop auRevmfHalve maxBw stepdownFuel config)

def isJpOperatingClass (x : U8) : Bool :=
  (8 ≤ x.toNat && x.toNat ≤ 12) || x = 64 || x = 65 || x = 73

def isJpChannelIndex1Mhz (x : U8) : Bool :=
  x = 9 || (((x.toNat : Int) - 13).tmod 2 = 0 && 13 ≤ x.toNat && x.toNat ≤ 21)

def isJpChannelIndex2Mhz (x : U8) : Bool := x.toNat % 2 = 0 && 2 ≤ x.toNat && x.toNat ≤ 8

def isJpChannelIndex4Mhz (x : U8) : Bool := x = 36 || x = 38

def isJpChannelIndex (x : U8) : Bool :=
  isJpChannelIndex1Mhz x || isJpChannelIndex2Mhz x || isJpChannelIndex4Mhz x

/-- The channel `japan_bw_stepdown` steps down to. -/
def japanOperatingChannelIndex (maxBw : U8) (config : S1gOperation) : Option U8 :=
  if config.primaryChannelWidthMhz = maxBw then some config.primaryChannelNumber
  else if config.operationChannelWidthMhz = 4 ∧ maxBw = 2 ∧ config.primaryChannelWidthMhz = 1 then
    match config.primaryChannelNumber with
    | 13 => some 2
    | 15 => some (if config.operatingChannelIndex = 36 then 2 else 4)
    | 17 => some (if config.operatingChannelIndex = 36 then 6 else 4)
    | 19 => some (if config.operatingChannelIndex = 36 then 6 else 8)
    | 21 => some 8
    | _ => none
  else none

/-- And its operating class, from the one before. -/
def japanOperatingClass (config : S1gOperation) : Option U8 :=
  match config.operatingChannelIndex with
  | 13 | 15 | 17 | 19 | 21 =>
    if config.operationChannelWidthMhz ≠ 1 then none
    else some (if 63 < config.operatingClass.toNat then 73 else 8)
  | 2 | 6 =>
    if config.operationChannelWidthMhz ≠ 2 then none
    else some (if 63 < config.operatingClass.toNat then 64 else 9)
  | 4 | 8 =>
    if config.operationChannelWidthMhz ≠ 2 then none
    else some (if 63 < config.operatingClass.toNat then 65 else 10)
  | _ => none

def japanBwStepdown (maxBw : U8) (config : S1gOperation) : Option S1gOperation :=
  if !isJpChannelIndex config.operatingChannelIndex then none
  else
    (japanOperatingChannelIndex maxBw config).bind fun operatingChannelIndex =>
      let config := { config with
        operatingChannelIndex := operatingChannelIndex
        operationChannelWidthMhz := maxBw }
      (japanOperatingClass config).map fun operatingClass =>
        { config with operatingClass := operatingClass }

/-- `restrict_channel_bandwidth_config`, for the maximum that is read from the capabilities. -/
def restrictTo (maxBw : U8) (config : S1gOperation) : Option S1gOperation :=
  if config.operationChannelWidthMhz.toNat ≤ maxBw.toNat then some config
  else if maxBw.toNat < config.primaryChannelWidthMhz.toNat then none
  else if isJpOperatingClass config.operatingClass then japanBwStepdown maxBw config
  else if isAuRevmfOperatingClass config.operatingClass then auRevmfBwStepdown maxBw config
  else defaultBwStepdown maxBw config

/-- `restrict_channel_bandwidth_config`; `none` where it returns false. -/
def restrictChannelBandwidthConfig (caps : MorseCaps) (config : S1gOperation) :
    Option S1gOperation :=
  restrictTo (BitVec.ofNat 8 (umacInterfaceMaxSupportedBw caps)) config

/-! ## The loop -/

section Loop

variable {halve : S1gOperation → S1gOperation} {maxBw : U8} {fuel : Nat} {config : S1gOperation}

theorem half_width {width maxBw : U8} (hwidth : IsWidth width) (hmax : IsWidth maxBw)
    (hlt : maxBw.toNat < width.toNat) :
    IsWidth (width / 2) ∧ maxBw.toNat ≤ (width / 2).toNat ∧ (width / 2).toNat < width.toNat := by
  rcases hwidth with rfl | rfl | rfl | rfl | rfl <;> rcases hmax with rfl | rfl | rfl | rfl | rfl
    <;> revert hlt <;> decide

/-- What halving keeps, the step-down keeps; and it ends at the maximum. -/
theorem stepdownLoop_reaches {P : S1gOperation → Prop} (hmax : IsWidth maxBw)
    (hhalf : ∀ c, (halve c).operationChannelWidthMhz = c.operationChannelWidthMhz / 2)
    (hstep : ∀ c, P c → maxBw.toNat < c.operationChannelWidthMhz.toNat → P (halve c))
    (hP : P config) (hwidth : IsWidth config.operationChannelWidthMhz)
    (hle : maxBw.toNat ≤ config.operationChannelWidthMhz.toNat)
    (hfuel : config.operationChannelWidthMhz.toNat < 2 ^ fuel) :
    P (stepdownLoop halve maxBw fuel config)
      ∧ (stepdownLoop halve maxBw fuel config).operationChannelWidthMhz = maxBw := by
  induction fuel generalizing config with
  | zero =>
    have := hwidth.le
    omega
  | succ fuel ih =>
    unfold stepdownLoop
    split_ifs with hreached
    · exact ⟨hP, BitVec.eq_of_toNat_eq (by omega)⟩
    have hhalved := half_width hwidth hmax (by omega)
    rw [← hhalf] at hhalved
    refine ih (hstep config hP (by omega)) hhalved.1 hhalved.2.1 ?_
    rw [hhalf, BitVec.toNat_udiv]
    show config.operationChannelWidthMhz.toNat / 2 < 2 ^ fuel
    omega

theorem defaultHalve_width (c : S1gOperation) :
    (defaultHalve c).operationChannelWidthMhz = c.operationChannelWidthMhz / 2 := rfl

theorem auRevmfHalve_width (c : S1gOperation) :
    (auRevmfHalve c).operationChannelWidthMhz = c.operationChannelWidthMhz / 2 := by
  unfold auRevmfHalve
  split_ifs <;> rfl

end Loop

/-! ## Operations that name channels of a list -/

/-- The upper edge of a channel. -/
def upperEdgeHz (chan : S1gChannel) : Int :=
  (chan.centreFreqHz.toNat : Int) + chan.bwMhz.toNat * 500000

/-- The frequency span of a channel is contained in that of another. -/
def SpanWithin (chan outer : S1gChannel) : Prop :=
  outer.lowerEdgeHz ≤ chan.lowerEdgeHz ∧ upperEdgeHz chan ≤ upperEdgeHz outer

instance (chan outer : S1gChannel) : Decidable (SpanWithin chan outer) :=
  inferInstanceAs (Decidable (_ ∧ _))

theorem SpanWithin.trans {a b c : S1gChannel} (hab : SpanWithin a b) (hbc : SpanWithin b c) :
    SpanWithin a c :=
  ⟨hbc.1.trans hab.1, hab.2.trans hbc.2⟩

/-- An S1G operation on these channels of the list: the operating channel is of its width and
operating class, and the primary channel lies inside. -/
structure OperatesOn (channelList : List S1gChannel) (config : S1gOperation)
    (operatingChan primaryChan : S1gChannel) : Prop where
  operating : umacRegdbGetChannel channelList config.operatingChannelIndex = some operatingChan
  primary : umacRegdbGetChannel channelList config.primaryChannelNumber = some primaryChan
  operatingWidth : config.operationChannelWidthMhz = operatingChan.bwMhz
  primaryWidth : config.primaryChannelWidthMhz = primaryChan.bwMhz
  operatingClass : umacRegdbOpClassMatch config.operatingClass operatingChan = true
  inside : SpanWithin primaryChan operatingChan

/-- The operation is on a channel inside the one that the access point operates on, with the
primary channel inside. -/
def OperatesWithin (channelList : List S1gChannel) (operatingChan primaryChan : S1gChannel)
    (config : S1gOperation) : Prop :=
  ∃ chan, OperatesOn channelList config chan primaryChan ∧ SpanWithin chan operatingChan

/-- The result of a step-down to the maximum width. -/
def SteppedDown (channelList : List S1gChannel) (operatingChan primaryChan : S1gChannel)
    (maxBw : U8) (config : S1gOperation) : Prop :=
  config.operationChannelWidthMhz = maxBw
    ∧ OperatesWithin channelList operatingChan primaryChan config

/-- `OperatesWithin`, by looking the channel up. -/
def operatesWithin (channelList : List S1gChannel) (operatingChan primaryChan : S1gChannel)
    (config : S1gOperation) : Bool :=
  match umacRegdbGetChannel channelList config.operatingChannelIndex with
  | none => false
  | some chan =>
    decide (umacRegdbGetChannel channelList config.primaryChannelNumber = some primaryChan)
      && decide (config.operationChannelWidthMhz = chan.bwMhz)
      && decide (config.primaryChannelWidthMhz = primaryChan.bwMhz)
      && umacRegdbOpClassMatch config.operatingClass chan
      && decide (SpanWithin primaryChan chan) && decide (SpanWithin chan operatingChan)

theorem operatesWithin_iff {channelList : List S1gChannel}
    {operatingChan primaryChan : S1gChannel} {config : S1gOperation} :
    operatesWithin channelList operatingChan primaryChan config = true
      ↔ OperatesWithin channelList operatingChan primaryChan config := by
  unfold operatesWithin
  constructor
  · intro h
    split at h
    · cases h
    next chan hchan =>
      simp only [Bool.and_eq_true, decide_eq_true_eq] at h
      obtain ⟨⟨⟨⟨⟨hprimary, hwidth⟩, hprimaryWidth⟩, hclass⟩, hinside⟩, hwithin⟩ := h
      exact ⟨chan, ⟨hchan, hprimary, hwidth, hprimaryWidth, hclass, hinside⟩, hwithin⟩
  rintro ⟨chan, h, hwithin⟩
  rw [h.operating]
  simp only [Bool.and_eq_true, decide_eq_true_eq]
  exact ⟨⟨⟨⟨⟨h.primary, h.operatingWidth⟩, h.primaryWidth⟩, h.operatingClass⟩, h.inside⟩,
    hwithin⟩

/-! ## Checking a list -/

/-- The fields that the step-downs do not look at, cleared. -/
def cleared (config : S1gOperation) : S1gOperation :=
  { config with
    primary1mhzChannelLoc := 0
    recommendNoMcs10 := 0 }

/-- The operation on these channels, of an operating class. -/
def plainOperation (operatingChan primaryChan : S1gChannel) (operatingClass : U8) : S1gOperation :=
  { S1gOperation.zero with
    primaryChannelWidthMhz := primaryChan.bwMhz
    operationChannelWidthMhz := operatingChan.bwMhz
    operatingClass := operatingClass
    primaryChannelNumber := primaryChan.s1gChanNum
    operatingChannelIndex := operatingChan.s1gChanNum }

/-- The operating classes a channel is matched by. -/
def operatingClasses (chan : S1gChannel) : List U8 :=
  [chan.globalOperatingClass.truncate 8, chan.s1gOperatingClass.truncate 8]

/-- All operations on channels of the list, with a primary channel of 1 or 2 MHz in a wider
operating channel, pass the test. -/
def allOperations (channelList : List S1gChannel)
    (test : S1gChannel → S1gChannel → S1gOperation → Bool) : Bool :=
  channelList.all fun operatingChan => channelList.all fun primaryChan =>
    if (primaryChan.bwMhz = 1 ∨ primaryChan.bwMhz = 2)
        ∧ primaryChan.bwMhz.toNat < operatingChan.bwMhz.toNat
        ∧ SpanWithin primaryChan operatingChan then
      (operatingClasses operatingChan).all fun operatingClass =>
        test operatingChan primaryChan (plainOperation operatingChan primaryChan operatingClass)
    else true

/-- Each channel has an operating class of its own and a legal width. -/
def wellNumbered (channelList : List S1gChannel) : Bool :=
  channelList.all fun chan =>
    decide (chan.globalOperatingClass ≠ mmwlanSkipOpClassCheck)
      && decide (chan.s1gOperatingClass ≠ mmwlanSkipOpClassCheck) && decide (IsWidth chan.bwMhz)

section Check

variable {channelList : List S1gChannel} {operatingChan primaryChan : S1gChannel}
  {config : S1gOperation}

theorem chanNum_of_getChannel {number : U8} {chan : S1gChannel}
    (h : umacRegdbGetChannel channelList number = some chan) :
    chan ∈ channelList ∧ chan.s1gChanNum = number :=
  ⟨List.mem_of_find?_eq_some h,
    of_decide_eq_true (List.find?_some (p := fun c : S1gChannel => c.s1gChanNum = number) h)⟩

theorem OperatesOn.cleared_eq (h : OperatesOn channelList config operatingChan primaryChan) :
    cleared config = plainOperation operatingChan primaryChan config.operatingClass := by
  unfold cleared plainOperation
  rw [(chanNum_of_getChannel h.operating).2, (chanNum_of_getChannel h.primary).2,
    ← h.operatingWidth, ← h.primaryWidth]
  rfl

theorem OperatesOn.mem_operatingClasses (hlist : wellNumbered channelList = true)
    (h : OperatesOn channelList config operatingChan primaryChan) :
    config.operatingClass ∈ operatingClasses operatingChan := by
  have hchan := List.all_eq_true.mp hlist _ (chanNum_of_getChannel h.operating).1
  simp only [Bool.and_eq_true, decide_eq_true_eq] at hchan
  have hclass := h.operatingClass
  unfold umacRegdbOpClassMatch at hclass
  rw [if_neg (by simp [hchan.1.1, hchan.1.2])] at hclass
  simpa [operatingClasses] using hclass

theorem allOperations_sound {test : S1gChannel → S1gChannel → S1gOperation → Bool}
    (hlist : wellNumbered channelList = true) (hall : allOperations channelList test = true)
    (h : OperatesOn channelList config operatingChan primaryChan)
    (hprimary : primaryChan.bwMhz = 1 ∨ primaryChan.bwMhz = 2)
    (hlt : primaryChan.bwMhz.toNat < operatingChan.bwMhz.toNat) :
    test operatingChan primaryChan (cleared config) = true := by
  have hoperating := (chanNum_of_getChannel h.operating).1
  have hmem := (chanNum_of_getChannel h.primary).1
  have hpair := List.all_eq_true.mp (List.all_eq_true.mp hall _ hoperating) _ hmem
  rw [if_pos ⟨hprimary, hlt, h.inside⟩] at hpair
  rw [h.cleared_eq]
  exact List.all_eq_true.mp hpair _ (h.mem_operatingClasses hlist)

theorem OperatesWithin.of_cleared
    (h : OperatesWithin channelList operatingChan primaryChan (cleared config)) :
    OperatesWithin channelList operatingChan primaryChan config := by
  obtain ⟨chan, h, hwithin⟩ := h
  exact ⟨chan, ⟨h.operating, h.primary, h.operatingWidth, h.primaryWidth, h.operatingClass,
    h.inside⟩, hwithin⟩

end Check

/-! ## The lists of the regulatory database -/

/-- Each halving of an operation of these classes is on a channel of the list, inside the one
before and around the primary channel, and of these classes again. -/
def halvesWell (halve : S1gOperation → S1gOperation) (ofClasses : U8 → Bool)
    (channelList : List S1gChannel) : Bool :=
  allOperations channelList fun operatingChan primaryChan config =>
    !ofClasses config.operatingClass
      || (operatesWithin channelList operatingChan primaryChan (halve config)
        && ofClasses (halve config).operatingClass)

/-- The classes that step down as Australia's 4 and 8 MHz channels do, with those on the way. -/
def onRevmfWay (x : U8) : Bool := isAuRevmfOperatingClass x || x = 22 || x = 23

/-- The classes that step down by number. -/
def onDefaultWay (x : U8) : Bool := !isJpOperatingClass x && !isAuRevmfOperatingClass x

/-- The 4 MHz channels of Japan, under their global operating class, where the 2 MHz channel that
is stepped down to is 4 or 8: those two are of the global class 64, and come out with 65. -/
def NamedAmiss (maxBw : U8) (config : S1gOperation) : Prop :=
  maxBw = 2 ∧ config.operationChannelWidthMhz = 4 ∧ config.operatingClass = 65
    ∧ ((config.primaryChannelWidthMhz = 1 ∧ config.operatingChannelIndex = 38)
      ∨ (config.primaryChannelWidthMhz = 2
        ∧ (config.primaryChannelNumber = 4 ∨ config.primaryChannelNumber = 8)))

instance (maxBw : U8) (config : S1gOperation) : Decidable (NamedAmiss maxBw config) :=
  inferInstanceAs (Decidable (_ ∧ _))

/-- Japan's step-down succeeds, and is right unless the channel is named amiss. -/
def japanStepsWell (channelList : List S1gChannel) : Bool :=
  allOperations channelList fun operatingChan primaryChan config =>
    !isJpOperatingClass config.operatingClass
      || [1, 2, 4, 8, 16].all fun maxBw : U8 =>
        if maxBw.toNat < operatingChan.bwMhz.toNat ∧ primaryChan.bwMhz.toNat ≤ maxBw.toNat then
          match japanBwStepdown maxBw config with
          | none => false
          | some config' => decide (config'.operationChannelWidthMhz = maxBw)
              && (operatesWithin channelList operatingChan primaryChan config'
                == !decide (NamedAmiss maxBw config))
        else true

theorem regulatoryDb_wellNumbered : Mmregdb.regulatoryDb.all wellNumbered = true := by
  decide +kernel

theorem regulatoryDb_default :
    Mmregdb.regulatoryDb.all (halvesWell defaultHalve onDefaultWay) = true := by
  decide +kernel

theorem regulatoryDb_auRevmf :
    Mmregdb.regulatoryDb.all (halvesWell auRevmfHalve onRevmfWay) = true := by
  decide +kernel

theorem regulatoryDb_japan : Mmregdb.regulatoryDb.all japanStepsWell = true := by
  decide +kernel

/-! ## The step-down is right -/

section Exact

variable {channelList : List S1gChannel} {operatingChan primaryChan : S1gChannel}
  {config : S1gOperation} {maxBw : U8}

/-- One halving. -/
theorem halvesWell_sound {halve : S1gOperation → S1gOperation} {ofClasses : U8 → Bool}
    (hlist : wellNumbered channelList = true)
    (hhalves : halvesWell halve ofClasses channelList = true)
    (hcleared : ∀ c, halve (cleared c) = cleared (halve c))
    (hprimary : primaryChan.bwMhz = 1 ∨ primaryChan.bwMhz = 2)
    (h : OperatesWithin channelList operatingChan primaryChan config)
    (hclass : ofClasses config.operatingClass = true)
    (hlt : primaryChan.bwMhz.toNat < config.operationChannelWidthMhz.toNat) :
    OperatesWithin channelList operatingChan primaryChan (halve config)
      ∧ ofClasses (halve config).operatingClass = true := by
  obtain ⟨chan, hon, hwithin⟩ := h
  rw [hon.operatingWidth] at hlt
  have htest := allOperations_sound hlist hhalves hon hprimary hlt
  rw [show (cleared config).operatingClass = config.operatingClass from rfl, hclass, hcleared,
    Bool.not_true, Bool.false_or, Bool.and_eq_true, operatesWithin_iff] at htest
  obtain ⟨chan', hon', hwithin'⟩ := htest.1.of_cleared
  exact ⟨⟨chan', hon', hwithin'.trans hwithin⟩, htest.2⟩

/-- The halvings of a step-down. -/
theorem stepdownLoop_steppedDown {halve : S1gOperation → S1gOperation} {ofClasses : U8 → Bool}
    (hlist : wellNumbered channelList = true)
    (hhalves : halvesWell halve ofClasses channelList = true)
    (hcleared : ∀ c, halve (cleared c) = cleared (halve c))
    (hhalf : ∀ c, (halve c).operationChannelWidthMhz = c.operationChannelWidthMhz / 2)
    (hprimary : primaryChan.bwMhz = 1 ∨ primaryChan.bwMhz = 2)
    (h : OperatesOn channelList config operatingChan primaryChan)
    (hclass : ofClasses config.operatingClass = true) (hmax : IsWidth maxBw)
    (hlow : primaryChan.bwMhz.toNat ≤ maxBw.toNat)
    (hlt : maxBw.toNat < config.operationChannelWidthMhz.toNat) :
    SteppedDown channelList operatingChan primaryChan maxBw
      (stepdownLoop halve maxBw stepdownFuel config) := by
  have hchan := List.all_eq_true.mp hlist _ (chanNum_of_getChannel h.operating).1
  simp only [Bool.and_eq_true, decide_eq_true_eq] at hchan
  have hwidth : IsWidth config.operationChannelWidthMhz := h.operatingWidth ▸ hchan.2
  have hreaches := stepdownLoop_reaches
    (P := fun c => OperatesWithin channelList operatingChan primaryChan c
      ∧ ofClasses c.operatingClass = true)
    hmax hhalf
    (fun c hc hltc => halvesWell_sound hlist hhalves hcleared hprimary hc.1 hc.2 (by omega))
    ⟨⟨operatingChan, h, Int.le_refl _, Int.le_refl _⟩, hclass⟩ hwidth (by omega)
    (show _ < 2 ^ stepdownFuel from config.operationChannelWidthMhz.isLt)
  exact ⟨hreaches.2, hreaches.1.1⟩

theorem defaultHalve_cleared (c : S1gOperation) :
    defaultHalve (cleared c) = cleared (defaultHalve c) := rfl

theorem auRevmfHalve_cleared (c : S1gOperation) :
    auRevmfHalve (cleared c) = cleared (auRevmfHalve c) := by
  unfold auRevmfHalve
  rw [show (cleared c).operatingClass = c.operatingClass from rfl]
  split_ifs <;> rfl

variable {config' : S1gOperation}

theorem defaultBwStepdown_steppedDown (hlist : channelList ∈ Mmregdb.regulatoryDb)
    (hprimary : primaryChan.bwMhz = 1 ∨ primaryChan.bwMhz = 2)
    (h : OperatesOn channelList config operatingChan primaryChan)
    (hclass : onDefaultWay config.operatingClass = true) (hmax : IsWidth maxBw)
    (hlow : primaryChan.bwMhz.toNat ≤ maxBw.toNat)
    (hlt : maxBw.toNat < config.operationChannelWidthMhz.toNat)
    (hstep : defaultBwStepdown maxBw config = some config') :
    SteppedDown channelList operatingChan primaryChan maxBw config' := by
  unfold defaultBwStepdown at hstep
  split_ifs at hstep
  cases hstep
  exact stepdownLoop_steppedDown (List.all_eq_true.mp regulatoryDb_wellNumbered _ hlist)
    (List.all_eq_true.mp regulatoryDb_default _ hlist) defaultHalve_cleared defaultHalve_width
    hprimary h hclass hmax hlow hlt

theorem auRevmfBwStepdown_steppedDown (hlist : channelList ∈ Mmregdb.regulatoryDb)
    (hprimary : primaryChan.bwMhz = 1 ∨ primaryChan.bwMhz = 2)
    (h : OperatesOn channelList config operatingChan primaryChan)
    (hclass : isAuRevmfOperatingClass config.operatingClass = true) (hmax : IsWidth maxBw)
    (hlow : primaryChan.bwMhz.toNat ≤ maxBw.toNat)
    (hlt : maxBw.toNat < config.operationChannelWidthMhz.toNat)
    (hstep : auRevmfBwStepdown maxBw config = some config') :
    SteppedDown channelList operatingChan primaryChan maxBw config' := by
  unfold auRevmfBwStepdown at hstep
  split_ifs at hstep
  cases hstep
  have hway : onRevmfWay config.operatingClass = true := by
    unfold onRevmfWay
    rw [hclass, Bool.true_or, Bool.true_or]
  exact stepdownLoop_steppedDown (List.all_eq_true.mp regulatoryDb_wellNumbered _ hlist)
    (List.all_eq_true.mp regulatoryDb_auRevmf _ hlist) auRevmfHalve_cleared auRevmfHalve_width
    hprimary h hway hmax hlow hlt

theorem japanBwStepdown_cleared (c : S1gOperation) :
    japanBwStepdown maxBw (cleared c) = (japanBwStepdown maxBw c).map cleared := by
  unfold japanBwStepdown
  rw [show japanOperatingChannelIndex maxBw (cleared c) = japanOperatingChannelIndex maxBw c from
    rfl, show (cleared c).operatingChannelIndex = c.operatingChannelIndex from rfl]
  split_ifs
  · rfl
  rw [Option.map_bind]
  congr 1
  funext index
  dsimp only [Function.comp]
  rw [Option.map_map]
  rfl

theorem steppedDown_cleared :
    SteppedDown channelList operatingChan primaryChan maxBw (cleared config')
      ↔ SteppedDown channelList operatingChan primaryChan maxBw config' := by
  constructor
  · rintro ⟨hwidth, hwithin⟩
    exact ⟨hwidth, hwithin.of_cleared⟩
  · rintro ⟨hwidth, chan, hon, hwithin⟩
    exact ⟨hwidth, chan, ⟨hon.operating, hon.primary, hon.operatingWidth, hon.primaryWidth,
      hon.operatingClass, hon.inside⟩, hwithin⟩

/-- Japan's step-down is right unless the channel is named amiss. -/
theorem japanBwStepdown_steppedDown_iff (hlist : channelList ∈ Mmregdb.regulatoryDb)
    (hprimary : primaryChan.bwMhz = 1 ∨ primaryChan.bwMhz = 2)
    (h : OperatesOn channelList config operatingChan primaryChan)
    (hclass : isJpOperatingClass config.operatingClass = true) (hmax : IsWidth maxBw)
    (hlow : primaryChan.bwMhz.toNat ≤ maxBw.toNat)
    (hlt : maxBw.toNat < config.operationChannelWidthMhz.toNat) :
    ∃ config', japanBwStepdown maxBw config = some config'
      ∧ (SteppedDown channelList operatingChan primaryChan maxBw config'
        ↔ ¬ NamedAmiss maxBw config) := by
  rw [h.operatingWidth] at hlt
  have htest := allOperations_sound (List.all_eq_true.mp regulatoryDb_wellNumbered _ hlist)
    (List.all_eq_true.mp regulatoryDb_japan _ hlist) h hprimary (by omega)
  rw [show (cleared config).operatingClass = config.operatingClass from rfl, hclass,
    Bool.not_true, Bool.false_or] at htest
  have hmem : maxBw ∈ ([1, 2, 4, 8, 16] : List U8) := by
    rcases hmax with rfl | rfl | rfl | rfl | rfl <;> decide
  have hcase := List.all_eq_true.mp htest maxBw hmem
  rw [if_pos ⟨hlt, hlow⟩, japanBwStepdown_cleared] at hcase
  cases hstep : japanBwStepdown maxBw config with
  | none =>
    rw [hstep] at hcase
    cases hcase
  | some config' =>
    rw [hstep] at hcase
    obtain ⟨hwidth, hright⟩ := Bool.and_eq_true_iff.mp hcase
    have hright : operatesWithin channelList operatingChan primaryChan (cleared config')
        = !decide (NamedAmiss maxBw (cleared config)) := eq_of_beq hright
    refine ⟨config', rfl, ?_⟩
    rw [← steppedDown_cleared]
    unfold SteppedDown
    rw [← operatesWithin_iff, hright, Bool.not_eq_true', decide_eq_false_iff_not]
    exact and_iff_right (of_decide_eq_true hwidth)

theorem restrictTo_exact_iff (hlist : channelList ∈ Mmregdb.regulatoryDb)
    (hprimary : primaryChan.bwMhz = 1 ∨ primaryChan.bwMhz = 2)
    (h : OperatesOn channelList config operatingChan primaryChan) (hmax : IsWidth maxBw) :
    (∀ config', restrictTo maxBw config = some config' →
        SteppedDown channelList operatingChan primaryChan maxBw config')
      ↔ maxBw.toNat ≤ config.operationChannelWidthMhz.toNat ∧ ¬ NamedAmiss maxBw config := by
  have hprimaryLe : primaryChan.bwMhz.toNat ≤ 2 := by
    rcases hprimary with heq | heq <;> rw [heq] <;> decide
  unfold restrictTo
  split_ifs with hfits hwide hjapan hrevmf
  · -- nothing is restricted
    have hself : OperatesWithin channelList operatingChan primaryChan config :=
      ⟨operatingChan, h, Int.le_refl _, Int.le_refl _⟩
    constructor
    · intro hall
      have hwidth := (hall config rfl).1
      refine ⟨by rw [hwidth], ?_⟩
      rintro ⟨rfl, hfour, -⟩
      rw [hfour] at hfits
      revert hfits
      decide
    · rintro ⟨hle, -⟩ config' heq
      cases heq
      exact ⟨BitVec.eq_of_toNat_eq (by omega), hself⟩
  · -- turned down: the primary channel is too wide
    refine iff_of_true (fun config' heq => by cases heq) ⟨by omega, ?_⟩
    rintro ⟨rfl, -⟩
    rw [h.primaryWidth] at hwide
    have : (2 : U8).toNat = 2 := rfl
    omega
  · rw [h.primaryWidth] at hwide
    obtain ⟨config', hstep, hiff⟩ :=
      japanBwStepdown_steppedDown_iff hlist hprimary h hjapan hmax (by omega) (by omega)
    rw [hstep]
    constructor
    · intro hall
      exact ⟨by omega, hiff.mp (hall config' rfl)⟩
    · rintro ⟨-, hright⟩ config'' heq
      cases heq
      exact hiff.mpr hright
  · rw [h.primaryWidth] at hwide
    refine iff_of_true (fun config' hstep => ?_) ⟨by omega, ?_⟩
    · exact auRevmfBwStepdown_steppedDown hlist hprimary h hrevmf hmax (by omega) (by omega) hstep
    · rintro ⟨-, -, hclass, -⟩
      exact hjapan (by rw [hclass]; decide)
  rw [h.primaryWidth] at hwide
  refine iff_of_true (fun config' hstep => ?_) ⟨by omega, ?_⟩
  · have hway : onDefaultWay config.operatingClass = true := by
      unfold onDefaultWay
      rw [Bool.eq_false_iff.mpr hjapan, Bool.eq_false_iff.mpr hrevmf]
      rfl
    exact defaultBwStepdown_steppedDown hlist hprimary h hway hmax (by omega) (by omega) hstep
  · rintro ⟨-, -, hclass, -⟩
    exact hjapan (by rw [hclass]; decide)

end Exact

theorem isWidth_maxSupportedBw (caps : MorseCaps) :
    IsWidth (BitVec.ofNat 8 (umacInterfaceMaxSupportedBw caps)) := by
  unfold umacInterfaceMaxSupportedBw
  split_ifs <;> decide

/-- **Where the step-down is right.**  For every list of the regulatory database, S1G operation of
an access point on channels of it, and capabilities of the chip: whenever the channel can be
restricted, the result is as wide as the maximum, on a channel of the list under its operating
class, inside that of the access point and around the primary channel, if and only if the channel
was not narrower than the maximum to begin with, and is not one of Japan's that are named amiss. -/
theorem stepdown_exact_iff (channelList : List S1gChannel)
    (hlist : channelList ∈ Mmregdb.regulatoryDb) (caps : MorseCaps)
    (rawIe : Dot11IeS1gOperation) (config : S1gOperation)
    (operatingChan primaryChan : S1gChannel) (hparse : ieS1gOperationParse rawIe = some config)
    (hon : OperatesOn channelList config operatingChan primaryChan) :
    let maxBw : U8 := BitVec.ofNat 8 (umacInterfaceMaxSupportedBw caps)
    (∀ config', restrictChannelBandwidthConfig caps config = some config' →
        SteppedDown channelList operatingChan primaryChan maxBw config')
      ↔ maxBw.toNat ≤ config.operationChannelWidthMhz.toNat ∧ ¬ NamedAmiss maxBw config := by
  have hprimary := ieS1gOperationParse_primaryWidth hparse
  rw [hon.primaryWidth] at hprimary
  exact restrictTo_exact_iff hlist hprimary hon (isWidth_maxSupportedBw caps)

/-- A chip of 2 MHz on the 8 MHz channel 44 of the US, with the primary channel 37. -/
theorem stepdown_exact_iff_us :
    SteppedDown Mmregdb.s1gChannelsUs ⟨924000000, 71, 4, 44, 8⟩ ⟨920500000, 68, 1, 37, 1⟩ 2
      ⟨1, 2, 0, 0, 69, 37, 38⟩ :=
  (stepdown_exact_iff Mmregdb.s1gChannelsUs (by decide)
    ⟨true, false, false, false, false, false⟩ ⟨0x0f, 71, 37, 44⟩ ⟨1, 8, 0, 0, 71, 37, 44⟩
    ⟨924000000, 71, 4, 44, 8⟩ ⟨920500000, 68, 1, 37, 1⟩ (by decide)
    ⟨by decide, by decide, by decide, by decide, by decide, by decide⟩).mpr
    ⟨by decide, by decide⟩ _ (by decide)

/-- An access point on the 4 MHz channel 38 of Japan, under the global operating class 65, with
the primary channel 15.  A chip of 2 MHz steps down to channel 4 under the operating class 65, which
the list has under 64, and then finds no matching channel. -/
theorem stepdown_names_amiss :
    let list := Mmregdb.s1gChannelsJp
    let caps : MorseCaps := ⟨true, false, false, false, false, false⟩
    let config' : S1gOperation := ⟨1, 2, 0, 0, 65, 15, 4⟩
    ieS1gOperationParse ⟨0x07, 65, 15, 38⟩ = some ⟨1, 4, 0, 0, 65, 15, 38⟩
      ∧ OperatesOn list ⟨1, 4, 0, 0, 65, 15, 38⟩ ⟨925500000, 65, 12, 38, 4⟩
          ⟨924000000, 73, 8, 15, 1⟩
      ∧ restrictChannelBandwidthConfig caps ⟨1, 4, 0, 0, 65, 15, 38⟩ = some config'
      ∧ umacRegdbGetChannel list 4 = some ⟨924500000, 64, 10, 4, 2⟩
      ∧ umacRegdbOpClassMatch 65 ⟨924500000, 64, 10, 4, 2⟩ = false
      ∧ ¬ SteppedDown list ⟨925500000, 65, 12, 38, 4⟩ ⟨924000000, 73, 8, 15, 1⟩ 2 config'
      ∧ channelCfg list 2 config' = none := by
  refine ⟨by decide, ⟨by decide, by decide, by decide, by decide, by decide, by decide⟩,
    by decide, by decide, by decide, ?_, by decide⟩
  unfold SteppedDown
  rw [← operatesWithin_iff]
  decide

end MmIotEsp32.Umac.Connection
