/-
  MmIotEsp32.Umac.Frames.ProbeRequest

  The probe request (`umac/frames/probe_request.c`) and the S1G capabilities element in it
  (`umac/ies/s1g_capabilities.c`).

  The element is only filled in the pass with a buffer, and so are its assertions.
-/
import MmIotEsp32.Dot11.Dot11
import MmIotEsp32.Umac.Ies.S1gTim
import MmIotEsp32.Umac.Rc.UmacRc

namespace MmIotEsp32.Umac.Frames

open Dot11 Ies Rc

/-! ## Data model -/

/-- The fields of `struct mmwlan_sta_args` that the element shows. -/
structure StaArgs where
  staType : U8
  rawStaPriority : Int
  /-- `cac_mode` is MMWLAN_CAC_ENABLED -/
  cacEnabled : Bool
  deriving Repr, DecidableEq

/-- The capabilities of the chip that the element shows. -/
structure ElementCaps extends MorseCaps where
  travelingPilotOneStream : Bool
  travelingPilotTwoStream : Bool
  nonTim : Bool
  ampdu : Bool
  controlResponsePreamble1mhz : Bool
  twtRequester : Bool

/-- What the builders read of `struct umac_data`. -/
structure BuildData where
  caps : ElementCaps
  sgiEnabled : Bool
  nonTimModeEnabled : Bool
  ampduEnabled : Bool
  ctrlRespOut1mhzEnabled : Bool
  supportedChannelWidthOverride : Int
  /-- it is set to -1 or to DOT11_S1G_CAP_SUPP_CHAN_WIDTH_1_2_4_MHZ only -/
  override_le : supportedChannelWidthOverride ≤ 3
  /-- `umac_connection_get_sta_args`; `none` is NULL -/
  staArgs : Option StaArgs

structure FrameDataProbeRequest where
  staAddress : MacAddr
  ssid : BytePtr
  ssidLen : U8
  /-- `none` is NULL -/
  extraIes : Option BytePtr
  extraIesLen : U16

/-! ## The S1G capabilities element -/

def dot11IeSsid : U8 := 0
def dot11IeS1gCapabilities : U8 := 217

/-- The switch over `max_bw` for the channel width; `none` is its assertion. -/
def suppChanWidthOf : Nat → Option U8
  | 1 => some 0
  | 2 => some 0
  | 4 => some 1
  | 8 => some 2
  | 16 => some 3
  | _ => none

/-- `DOT11_S1G_CAP_INFO_0_SET_SGI_*`, by the place of its bit. -/
def setSgi (shift : Nat) (octet : U8) : U8 := dot11SetOctetField octet (1 <<< shift) shift 1

/-- The switch over `max_bw` for short guard intervals, where each case falls through to the
next; `none` is its assertion. -/
def setSgiUpTo (octet : U8) : Nat → Option U8
  | 16 => some (setSgi 1 (setSgi 2 (setSgi 3 (setSgi 4 (setSgi 5 octet)))))
  | 8 => some (setSgi 1 (setSgi 2 (setSgi 3 (setSgi 4 octet))))
  | 4 => some (setSgi 1 (setSgi 2 (setSgi 3 octet)))
  | 2 => some (setSgi 1 (setSgi 2 octet))
  | 1 => some (setSgi 1 octet)
  | _ => none

/-- The channel width field: the override, or what fits `max_bw`; `none` is an assertion. -/
def suppChanWidth (u : BuildData) : Option U8 :=
  if 0 ≤ u.supportedChannelWidthOverride then
    if u.supportedChannelWidthOverride ≤ 3 then
      some (BitVec.ofInt 8 u.supportedChannelWidthOverride)
    else none
  else suppChanWidthOf (umacInterfaceMaxSupportedBw u.caps.toMorseCaps)

/-- `s1g_capabilities_information[0]`; `none` is an assertion. -/
def s1gCapInfo0 (u : BuildData) : Option U8 := do
  let width ← suppChanWidth u
  let octet := dot11SetOctetField 0 0xc0 6 width
  if u.sgiEnabled then setSgiUpTo octet (umacInterfaceMaxSupportedBw u.caps.toMorseCaps)
  else some octet

def s1gMcsMap (u : BuildData) : U8 :=
  let octet := dot11SetOctetField 0xff 0x03 0 (if u.caps.mcs8 && u.caps.mcs9 then 2 else 1)
  dot11SetOctetField (dot11SetOctetField (dot11SetOctetField octet 0x0c 2 3) 0x30 4 3) 0xc0 6 3

/-- A flag of a capability octet. -/
def setFlag (flag : Bool) (octet mask : U8) (shift : Nat) : U8 :=
  if flag then dot11SetOctetField octet mask shift 1 else octet

/-- What `ie_s1g_capabilities_build` fills in; `none` is an assertion. -/
def s1gCapabilitiesOctets (u : BuildData) : Option (List U8) := do
  let info0 ← s1gCapInfo0 u
  let info2 := if u.caps.travelingPilotTwoStream then dot11SetOctetField 0 0xc0 6 3
    else if u.caps.travelingPilotOneStream then dot11SetOctetField 0 0xc0 6 1 else 0
  let staArgs ← u.staArgs
  let info4 := setFlag (u.nonTimModeEnabled && u.caps.nonTim)
    (dot11SetOctetField 0 0xc0 6 staArgs.staType) 0x10 4
  let info5 := setFlag staArgs.cacEnabled (setFlag (u.ampduEnabled && u.caps.ampdu) 0 0x08 3) 0x01 0
  let info6 := setFlag (0 ≤ staArgs.rawStaPriority) 0 0x08 3
  let info7 := setFlag (u.ctrlRespOut1mhzEnabled && u.caps.controlResponsePreamble1mhz)
    (dot11SetOctetField 0 0x02 1 1) 0x08 3
  let info8 := setFlag u.caps.twtRequester 0 0x20 5
  let mcsMap := s1gMcsMap u
  some ([dot11IeS1gCapabilities, 15] ++ [info0, 0, info2, 0, info4, info5, info6, info7, info8, 0]
    ++ [mcsMap &&& 0xff, 0, (mcsMap <<< 1) &&& 0xfe, (mcsMap >>> 7) &&& 0x01, 0])

/-- `sizeof(struct dot11_ie_s1g_capabilities)`. -/
def sizeofDot11IeS1gCapabilities : Nat := 17

def ieS1gCapabilitiesBuild (u : BuildData) (buf : Consbuf) : Option Consbuf := do
  let (buf, ie) ← consbufReserve buf sizeofDot11IeS1gCapabilities
  match ie with
  | none => some buf
  | some ie => (s1gCapabilitiesOctets u).map (buf.write ie)

/-! ## The frame -/

/-- The octets of a MAC address. -/
def macAddrOctets (addr : MacAddr) : List U8 := List.ofFn addr

def macAddrBroadcast : MacAddr := fun _ => 0xff

def dot11BuildPv0MgmtHeader (subtype : U16) (toDs : U8) (dstAddress srcAddress bssid : MacAddr) :
    List U8 :=
  le16Octets (dot11VerTypeSubtype 0 dot11FcTypeMgmt subtype ||| (toDs.setWidth 16 <<< 8))
    ++ le16Octets 0 ++ macAddrOctets dstAddress ++ macAddrOctets srcAddress ++ macAddrOctets bssid
    ++ le16Octets 0

def dot11FcSubtypeProbeReq : U16 := 4

/-- The SSID element, by `ie_build_hdr` and `consbuf_append`. -/
def ieSsidBuild (buf : Consbuf) (ssid : BytePtr) (ssidLen : U8) : Option Consbuf := do
  let buf ← consbufAppend buf [dot11IeSsid, ssidLen]
  consbufAppend buf (ssid.take ssidLen.toNat)

def frameProbeRequestBuild (u : BuildData) (data : FrameDataProbeRequest) (buf : Consbuf) :
    Option Consbuf := do
  let buf ← consbufAppend buf
    (dot11BuildPv0MgmtHeader dot11FcSubtypeProbeReq 0 macAddrBroadcast data.staAddress
      macAddrBroadcast)
  let buf ← ieSsidBuild buf data.ssid data.ssidLen
  let buf ← ieS1gCapabilitiesBuild u buf
  match data.extraIes with
  | none => some buf
  | some extraIes =>
    if data.extraIesLen ≠ 0 then consbufAppend buf (extraIes.take data.extraIesLen.toNat)
    else some buf

/-! ## Both passes -/

theorem switches_know_maxBw (caps : MorseCaps) (octet : U8) :
    (∃ width, suppChanWidthOf (umacInterfaceMaxSupportedBw caps) = some width)
      ∧ ∃ octet', setSgiUpTo octet (umacInterfaceMaxSupportedBw caps) = some octet' := by
  unfold umacInterfaceMaxSupportedBw
  split_ifs <;> exact ⟨⟨_, rfl⟩, ⟨_, rfl⟩⟩

theorem exists_s1gCapInfo0 (u : BuildData) : ∃ octet, s1gCapInfo0 u = some octet := by
  have hwidth : ∃ width, suppChanWidth u = some width := by
    rw [suppChanWidth, if_pos u.override_le]
    split_ifs
    · exact ⟨_, rfl⟩
    · exact (switches_know_maxBw u.caps.toMorseCaps 0).1
  obtain ⟨width, hwidth⟩ := hwidth
  rw [s1gCapInfo0, hwidth]
  show ∃ octet, (if u.sgiEnabled then setSgiUpTo (dot11SetOctetField 0 0xc0 6 width) _ else _)
    = some octet
  split_ifs
  · exact (switches_know_maxBw u.caps.toMorseCaps _).2
  · exact ⟨_, rfl⟩

theorem exists_s1gCapabilitiesOctets {u : BuildData} {staArgs : StaArgs}
    (h : u.staArgs = some staArgs) :
    ∃ l, s1gCapabilitiesOctets u = some l ∧ l.length = sizeofDot11IeS1gCapabilities := by
  obtain ⟨octet, hoctet⟩ := exists_s1gCapInfo0 u
  unfold s1gCapabilitiesOctets
  rw [hoctet, h]
  exact ⟨_, rfl, rfl⟩

theorem appends_ieS1gCapabilitiesBuild {u : BuildData} {l : List U8}
    (h : s1gCapabilitiesOctets u = some l) (hlen : l.length = sizeofDot11IeS1gCapabilities) :
    Appends (ieS1gCapabilitiesBuild u) l := by
  intro c hroom
  rw [← appends_consbufAppend l c hroom]
  show (consbufReserve c sizeofDot11IeS1gCapabilities).bind _ = (consbufReserve c l.length).bind _
  rw [hlen]
  congr 1
  funext ⟨c', start⟩
  cases start with
  | none => rfl
  | some start =>
    show (s1gCapabilitiesOctets u).map (c'.write start) = some (c'.write start l)
    rw [h, Option.map_some]

theorem appends_ieSsidBuild (ssid : BytePtr) (ssidLen : U8) :
    Appends (ieSsidBuild · ssid ssidLen) ([dot11IeSsid, ssidLen] ++ ssid.take ssidLen.toNat) :=
  (appends_consbufAppend _).bind (appends_consbufAppend _)

/-- The extra information elements. -/
def extraIesOctets (data : FrameDataProbeRequest) : List U8 :=
  match data.extraIes with
  | none => []
  | some extraIes => if data.extraIesLen ≠ 0 then extraIes.take data.extraIesLen.toNat else []

theorem appends_frameProbeRequestBuild {u : BuildData} {staArgs : StaArgs}
    (h : u.staArgs = some staArgs) (data : FrameDataProbeRequest) :
    ∃ l, Appends (frameProbeRequestBuild u data) l := by
  obtain ⟨caps, hcaps, hlen⟩ := exists_s1gCapabilitiesOctets h
  have hextra : Appends (fun buf => match data.extraIes with
      | none => some buf
      | some extraIes =>
        if data.extraIesLen ≠ 0 then consbufAppend buf (extraIes.take data.extraIesLen.toNat)
        else some buf) (extraIesOctets data) := by
    unfold extraIesOctets
    cases data.extraIes with
    | none => exact appends_some
    | some extraIes =>
      by_cases hlen : data.extraIesLen ≠ 0
      · simp only [if_pos hlen]
        exact appends_consbufAppend _
      · simp only [if_neg hlen]
        exact appends_some
  exact ⟨_, (appends_consbufAppend _).bind ((appends_ieSsidBuild data.ssid data.ssidLen).bind
    ((appends_ieS1gCapabilitiesBuild hcaps hlen).bind hextra))⟩

end MmIotEsp32.Umac.Frames
