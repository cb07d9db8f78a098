/-
  MmIotEsp32.Umac.Scan.HwScanCommand

  The scan command for the chip (`umac/scan/hw_scan.c`).
-/
import MmIotEsp32.Lib.FirstOccurrences
import MmIotEsp32.Umac.Datapath.TxPath
import MmIotEsp32.Umac.Frames.ProbeRequest
import MmIotEsp32.Umac.Interface.Channel

namespace MmIotEsp32.Umac.HwScan

open Lib Dot11 Frames Interface

/-! ## Data model -/

/-- `struct mmwlan_s1g_channel` with its power limit. -/
structure ScanChannel extends S1gChannel where
  maxTxEirpDbm : BitVec 8
  deriving Repr, DecidableEq

/-- What the command is built from, of `struct umac_data`. -/
structure ScanData extends BuildData where
  /-- `umac_config_get_channel_list`; `none` is NULL -/
  channelList : Option (List ScanChannel)
  /-- the MAC address of the STA interface -/
  vifMacAddr : MacAddr
  /-- of `struct hw_scan_data` -/
  vifId : U16

structure MmwlanScanArgs where
  dwellTimeMs : U32
  /-- `none` is NULL -/
  extraIes : Option BytePtr
  extraIesLen : U32
  ssid : BytePtr
  ssidLen : U16
  dwellOnHomeMs : U32

-- `enum hw_scan_tlv_tag`.
def hwScanTlvTagProbeReq : U16 := 1
def hwScanTlvTagChanList : U16 := 2
def hwScanTlvTagPowerList : U16 := 3
def hwScanTlvTagDwellOnHome : U16 := 4

/-- `sizeof(struct hw_scan_tlv_hdr)`. -/
def sizeofHwScanTlvHdr : Nat := 4

/-- `sizeof(struct morse_cmd_header)`. -/
def sizeofMorseCmdHeader : Nat := 12

/-- `sizeof(struct morse_cmd_req_hw_scan)`. -/
def sizeofMorseCmdReqHwScan : Nat := 20

-- `enum hw_scan_channel`.
def hwScanChFreqKhzMask : U32 := 0xfffff
def hwScanChOpBwMask : U32 := 0x3 <<< 20
def hwScanChPrimChWidthMask : U32 := 0x1 <<< 22
def hwScanChPrimChIdxMask : U32 := 0x7 <<< 23
def hwScanChPwrListIdxMask : U32 := 0x3f <<< 26

/-! ## The builder -/

/-- `operating_bw`. -/
def operatingBwOf (bwMhz : U8) : U32 :=
  if bwMhz = 8 then 3 else if bwMhz = 4 then 2 else if bwMhz = 2 then 1 else 0

/-- `primary_chan_width`. -/
def primaryChanWidthOf (bwMhz : U8) : U32 := if 1 < bwMhz then 1 else 0

def hwScanPackChannel (channel : ScanChannel) (pwrIndex : U8) : U32 :=
  let freqKhz := channel.centreFreqHz / 1000
  let primaryChanIdx : U32 := 0
  ((freqKhz <<< 0) &&& hwScanChFreqKhzMask)
    ||| ((operatingBwOf channel.bwMhz <<< 20) &&& hwScanChOpBwMask)
    ||| ((primaryChanWidthOf channel.bwMhz <<< 22) &&& hwScanChPrimChWidthMask)
    ||| ((primaryChanIdx <<< 23) &&& hwScanChPrimChIdxMask)
    ||| ((pwrIndex.setWidth 32 <<< 26) &&& hwScanChPwrListIdxMask)

/-- The innermost loop: whether it ends early, at a channel of at most 2 MHz with that power. -/
def powerSeen (before : List ScanChannel) (power : BitVec 8) : Bool :=
  before.any fun channel => channel.bwMhz ≤ 2 && channel.maxTxEirpDbm == power

/-- The loop that counts `unique_index` up to the first channel with that power.  `before` are
the channels it has passed. -/
def uniqueIndexLoop (power : BitVec 8) : List ScanChannel → List ScanChannel → Nat → Nat
  | _, [], uniqueIndex => uniqueIndex
  | before, channelAtIndex :: rest, uniqueIndex =>
    if 2 < channelAtIndex.bwMhz then
      uniqueIndexLoop power (before ++ [channelAtIndex]) rest uniqueIndex
    else if channelAtIndex.maxTxEirpDbm == power then uniqueIndex
    else
      uniqueIndexLoop power (before ++ [channelAtIndex]) rest
        (if powerSeen before channelAtIndex.maxTxEirpDbm then uniqueIndex else uniqueIndex + 1)

/-- What the loop over the channels does with one of them, behind the channels `before`. -/
def channelSlot (before : List ScanChannel) (s1gChannel : ScanChannel) (cbuf : Consbuf) :
    Option Consbuf :=
  if s1gChannel.bwMhz ≤ 2 then
    let uniqueIndex := uniqueIndexLoop s1gChannel.maxTxEirpDbm [] before 0
    consbufAppend cbuf (le32Octets (hwScanPackChannel s1gChannel (BitVec.ofNat 8 uniqueIndex)))
  else some cbuf

/-- The loop over the channels, behind the channels `before`. -/
def channelListLoop : List ScanChannel → List ScanChannel → Consbuf → Option Consbuf
  | _, [], cbuf => some cbuf
  | before, s1gChannel :: rest, cbuf =>
    (channelSlot before s1gChannel cbuf).bind (channelListLoop (before ++ [s1gChannel]) rest)

/-- `DBM_TO_QDBM`, of the `int8_t` taken to a word. -/
def dbmToQdbm (gain : BitVec 8) : U32 := gain.signExtend 32 <<< 2

/-- What the loop over the channels for the powers does with one of them. -/
def powerSlot (before : List ScanChannel) (s1gChannel : ScanChannel) (cbuf : Consbuf) :
    Option Consbuf :=
  if s1gChannel.bwMhz ≤ 2 && !powerSeen before s1gChannel.maxTxEirpDbm then
    consbufAppend cbuf (le32Octets (dbmToQdbm s1gChannel.maxTxEirpDbm))
  else some cbuf

def powerListLoop : List ScanChannel → List ScanChannel → Consbuf → Option Consbuf
  | _, [], cbuf => some cbuf
  | before, s1gChannel :: rest, cbuf =>
    (powerSlot before s1gChannel cbuf).bind (powerListLoop (before ++ [s1gChannel]) rest)

/-- A `struct hw_scan_tlv_hdr`. -/
def hwScanTlvHdr (tag : U16) (len : Nat) : List U8 :=
  le16Octets tag ++ le16Octets (BitVec.ofNat 16 len)

/-- A TLV of which the header is filled when the length of its body is known. -/
def hwScanConstructTlv (tag : U16) (body : Consbuf → Option Consbuf) (cbuf : Consbuf) :
    Option Consbuf :=
  consbufWithHeader sizeofHwScanTlvHdr (fun len => hwScanTlvHdr tag (len - sizeofHwScanTlvHdr))
    body cbuf

/-- `hw_scan_construct_channel_list_tlv`; a missing channel list is an assertion. -/
def hwScanConstructChannelListTlv (u : ScanData) (cbuf : Consbuf) : Option Consbuf := do
  let channels ← u.channelList
  hwScanConstructTlv hwScanTlvTagChanList (channelListLoop [] channels) cbuf

def hwScanConstructPowerListTlv (u : ScanData) (cbuf : Consbuf) : Option Consbuf := do
  let channels ← u.channelList
  hwScanConstructTlv hwScanTlvTagPowerList (powerListLoop [] channels) cbuf

/-- `hw_scan_construct_dwell_on_home_tlv`, with the test in front of its call. -/
def hwScanConstructDwellOnHomeTlv (scanArgs : MmwlanScanArgs) (cbuf : Consbuf) : Option Consbuf :=
  if scanArgs.dwellOnHomeMs ≠ 0 then
    consbufAppend cbuf (hwScanTlvHdr hwScanTlvTagDwellOnHome 4 ++ le32Octets scanArgs.dwellOnHomeMs)
  else some cbuf

/-- `hw_scan_construct_probe_req_tlv`; `none` are its assertions on the STA. -/
def hwScanConstructProbeReqTlv (u : ScanData) (scanArgs : MmwlanScanArgs) (cbuf : Consbuf) :
    Option Consbuf :=
  if Datapath.mmMacAddrIsZero u.vifMacAddr then none
  else
    match u.staArgs with
    | none => none
    | some _ =>
      hwScanConstructTlv hwScanTlvTagProbeReq
        (frameProbeRequestBuild u.toBuildData
          { staAddress := u.vifMacAddr
            ssid := scanArgs.ssid
            ssidLen := scanArgs.ssidLen.setWidth 8
            extraIes := scanArgs.extraIes
            extraIesLen := scanArgs.extraIesLen.setWidth 16 })
        cbuf

/-- The TLVs of the request. -/
def hwScanConstructTlvs (u : ScanData) (scanArgs : MmwlanScanArgs) (cbuf : Consbuf) :
    Option Consbuf := do
  let cbuf ← hwScanConstructChannelListTlv u cbuf
  let cbuf ← hwScanConstructPowerListTlv u cbuf
  let cbuf ← hwScanConstructDwellOnHomeTlv scanArgs cbuf
  hwScanConstructProbeReqTlv u scanArgs cbuf

/-- `hw_scan_construct_base_request`, with the place of the request. -/
def hwScanConstructBaseRequest (u : ScanData) (cbuf : Consbuf) (scanArgs : MmwlanScanArgs) :
    Option (Consbuf × Option Nat) := do
  let (cbuf, hwScanReq) ← consbufReserve cbuf sizeofMorseCmdReqHwScan
  let cbuf ← hwScanConstructTlvs u scanArgs cbuf
  some (cbuf, hwScanReq)

-- `MORSE_CMD_ID_HW_SCAN` and its flags.
def morseCmdIdHwScan : U16 := 0x0044
def morseCmdHwScanFlagsStart : U32 := 1
def morseCmdHwScanFlagsStore : U32 := 8

/-- `morse_command_reinit_header`, and the two words behind the header. -/
def hwScanReqOctets (len : Nat) (vifId : U16) (flags dwellTimeMs : U32) : List U8 :=
  le16Octets 0 ++ le16Octets morseCmdIdHwScan ++ le16Octets (BitVec.ofNat 16 len) ++ le16Octets 0
    ++ le16Octets vifId ++ le16Octets 0 ++ le32Octets flags ++ le32Octets dwellTimeMs

/-- `hw_scan_start` and `hw_scan_store_scan_config` up to the command that they execute.
`malloc` answers where the memory is, unless it is NULL; `none` are the assertions. -/
def hwScanCommand (u : ScanData) (scanArgs : MmwlanScanArgs) (flags : U32)
    (malloc : Nat → Option BytePtr) : Option Consbuf := do
  let (cbuf, _) ← hwScanConstructBaseRequest u consbufInitWithoutBuf scanArgs
  let buf ← malloc cbuf.offset
  let (cbuf, hwScanReq) ←
    hwScanConstructBaseRequest u (consbufReinit buf cbuf.offset) scanArgs
  let hwScanReq ← hwScanReq
  some (cbuf.write hwScanReq (hwScanReqOctets (cbuf.offset - sizeofMorseCmdHeader) u.vifId flags
    scanArgs.dwellTimeMs))

def hwScanStart (u : ScanData) (scanArgs : MmwlanScanArgs) (malloc : Nat → Option BytePtr) :
    Option Consbuf := hwScanCommand u scanArgs morseCmdHwScanFlagsStart malloc

def hwScanStoreScanConfig (u : ScanData) (scanArgs : MmwlanScanArgs)
    (malloc : Nat → Option BytePtr) : Option Consbuf :=
  hwScanCommand u scanArgs morseCmdHwScanFlagsStore malloc

/-! ## The table of powers -/

/-- The channels of at most 2 MHz. -/
def scanned (channels : List ScanChannel) : List ScanChannel :=
  channels.filter fun channel => channel.bwMhz ≤ 2

/-- The powers of the channels of at most 2 MHz. -/
def powers (channels : List ScanChannel) : List (BitVec 8) :=
  (scanned channels).map fun channel => channel.maxTxEirpDbm

/-- Each of these powers once, in the order of their first channels. -/
def powerTable (channels : List ScanChannel) : List (BitVec 8) := (powers channels).eraseDups

theorem powers_append (before rest : List ScanChannel) :
    powers (before ++ rest) = powers before ++ powers rest := by
  rw [powers, scanned, List.filter_append, List.map_append]
  rfl

variable {channel : ScanChannel}

theorem powers_cons_wide (h : ¬ channel.bwMhz ≤ 2)
    (rest : List ScanChannel) : powers (channel :: rest) = powers rest := by
  rw [powers, scanned, List.filter_cons_of_neg (by simpa using h)]
  rfl

theorem powers_cons_narrow (h : channel.bwMhz ≤ 2) (rest : List ScanChannel) :
    powers (channel :: rest) = channel.maxTxEirpDbm :: powers rest := by
  rw [powers, scanned, List.filter_cons_of_pos (by simpa using h)]
  rfl

theorem powerSeen_iff (before : List ScanChannel) (power : BitVec 8) :
    powerSeen before power = true ↔ power ∈ powers before := by
  rw [powerSeen, powers, scanned, List.any_eq_true, List.mem_map]
  constructor
  · rintro ⟨channel, hmem, h⟩
    rw [Bool.and_eq_true, beq_iff_eq] at h
    exact ⟨channel, List.mem_filter.mpr ⟨hmem, h.1⟩, h.2⟩
  · rintro ⟨channel, hmem, h⟩
    obtain ⟨hmem, hbw⟩ := List.mem_filter.mp hmem
    exact ⟨channel, hmem, by rw [Bool.and_eq_true, beq_iff_eq]; exact ⟨hbw, h⟩⟩

theorem powerTable_concat {before : List ScanChannel} (h : channel.bwMhz ≤ 2) :
    powerTable (before ++ [channel])
      = if powerSeen before channel.maxTxEirpDbm then powerTable before
        else powerTable before ++ [channel.maxTxEirpDbm] := by
  rw [powerTable, powers_append, powers_cons_narrow h]
  show (powers before ++ [channel.maxTxEirpDbm]).eraseDups = _
  rw [eraseDups_concat]
  exact if_congr (powerSeen_iff before _).symm rfl rfl

theorem powerTable_concat_wide {before : List ScanChannel}
    (h : ¬ channel.bwMhz ≤ 2) : powerTable (before ++ [channel]) = powerTable before := by
  rw [powerTable, powers_append, powers_cons_wide h]
  show (powers before ++ []).eraseDups = _
  rw [List.append_nil]
  rfl

theorem idxOf_powerTable (hbw : channel.bwMhz ≤ 2) (before rest : List ScanChannel) :
    (powerTable (before ++ channel :: rest)).idxOf channel.maxTxEirpDbm
      = (powerTable before).idxOf channel.maxTxEirpDbm := by
  rw [powerTable, powers_append, powers_cons_narrow hbw, idxOf_eraseDups_append]
  rfl

theorem uniqueIndexLoop_eq {power : BitVec 8} (before rest : List ScanChannel)
    (hnew : power ∉ powers before) :
    uniqueIndexLoop power before rest (powerTable before).length
      = (powerTable (before ++ rest)).idxOf power := by
  induction rest generalizing before with
  | nil =>
    have hnot : power ∉ powerTable before := fun h => hnew (List.mem_eraseDups.mp h)
    rw [List.append_nil, List.idxOf_eq_length hnot]
    rfl
  | cons channel rest ih =>
    have hsplit : before ++ channel :: rest = before ++ [channel] ++ rest := by simp
    unfold uniqueIndexLoop
    by_cases hbw : channel.bwMhz ≤ 2
    · rw [if_neg (by simpa using hbw)]
      by_cases hpower : channel.maxTxEirpDbm = power
      · -- the power is there: it is about to get the next index
        have hnot : power ∉ powerTable before := fun h => hnew (List.mem_eraseDups.mp h)
        rw [if_pos (beq_iff_eq.mpr hpower), ← hpower, idxOf_powerTable hbw, hpower]
        exact (List.idxOf_eq_length hnot).symm
      rw [if_neg (by simpa using hpower), hsplit]
      have hnew' : power ∉ powers (before ++ [channel]) := by
        rw [powers_append, powers_cons_narrow hbw, List.mem_append, not_or]
        exact ⟨hnew, by simpa [powers, scanned] using fun h => hpower h.symm⟩
      rw [← ih _ hnew', powerTable_concat hbw]
      split_ifs
      · rfl
      · rw [List.length_append]
        rfl
    have hnew' : power ∉ powers (before ++ [channel]) := by
      rw [powers_append, powers_cons_wide hbw]
      simpa [powers, scanned] using hnew
    rw [if_pos (by simpa using hbw), hsplit, ← ih _ hnew', powerTable_concat_wide hbw]

theorem uniqueIndexLoop_eq_idxOf (hbw : channel.bwMhz ≤ 2) (before rest : List ScanChannel) :
    uniqueIndexLoop channel.maxTxEirpDbm [] before 0
      = (powerTable (before ++ channel :: rest)).idxOf channel.maxTxEirpDbm := by
  rw [idxOf_powerTable hbw]
  exact @uniqueIndexLoop_eq channel.maxTxEirpDbm [] before List.not_mem_nil

/-! ## What both passes append -/

/-- The entry of a channel, with the place of its power in the table of the whole list. -/
def channelEntry (channels : List ScanChannel) (channel : ScanChannel) : U32 :=
  hwScanPackChannel channel
    (BitVec.ofNat 8 ((powerTable channels).idxOf channel.maxTxEirpDbm))

def channelEntries (channels rest : List ScanChannel) : List U8 :=
  (scanned rest).flatMap fun channel => le32Octets (channelEntry channels channel)

def powerEntries (table : List (BitVec 8)) : List U8 :=
  table.flatMap fun power => le32Octets (dbmToQdbm power)

theorem appends_channelListLoop (before rest : List ScanChannel) :
    Appends (channelListLoop before rest) (channelEntries (before ++ rest) rest) := by
  induction rest generalizing before with
  | nil => exact appends_some
  | cons channel rest ih =>
    have hsplit : before ++ channel :: rest = before ++ [channel] ++ rest := by simp
    have hrest := ih (before ++ [channel])
    rw [← hsplit] at hrest
    by_cases hbw : channel.bwMhz ≤ 2
    · have hslot : Appends (channelSlot before channel)
          (le32Octets (channelEntry (before ++ channel :: rest) channel)) := by
        intro c hroom
        rw [channelSlot, if_pos hbw, uniqueIndexLoop_eq_idxOf hbw before rest]
        exact appends_consbufAppend _ c hroom
      rw [channelEntries, scanned, List.filter_cons_of_pos (by simpa using hbw),
        List.flatMap_cons]
      exact hslot.bind hrest
    have hslot : Appends (channelSlot before channel) [] := by
      intro c hroom
      rw [channelSlot, if_neg hbw]
      exact appends_some c hroom
    rw [channelEntries, scanned, List.filter_cons_of_neg (by simpa using hbw)]
    exact hslot.bind hrest

theorem appends_powerListLoop (before rest : List ScanChannel) :
    ∃ fresh, powerTable (before ++ rest) = powerTable before ++ fresh
      ∧ Appends (powerListLoop before rest) (powerEntries fresh) := by
  induction rest generalizing before with
  | nil => exact ⟨[], by rw [List.append_nil, List.append_nil], appends_some⟩
  | cons channel rest ih =>
    have hsplit : before ++ channel :: rest = before ++ [channel] ++ rest := by simp
    obtain ⟨fresh, htable, hrest⟩ := ih (before ++ [channel])
    rw [hsplit, htable]
    by_cases hnew : (channel.bwMhz ≤ 2 && !powerSeen before channel.maxTxEirpDbm) = true
    · obtain ⟨hbw, hseen⟩ := Bool.and_eq_true_iff.mp hnew
      have hslot : Appends (powerSlot before channel)
          (le32Octets (dbmToQdbm channel.maxTxEirpDbm)) := by
        intro c hroom
        rw [powerSlot, if_pos hnew]
        exact appends_consbufAppend _ c hroom
      refine ⟨channel.maxTxEirpDbm :: fresh, ?_, hslot.bind hrest⟩
      rw [powerTable_concat (by simpa using hbw), if_neg (by simpa using hseen),
        List.append_assoc, List.singleton_append]
    have hslot : Appends (powerSlot before channel) [] := by
      intro c hroom
      rw [powerSlot, if_neg hnew]
      exact appends_some c hroom
    refine ⟨fresh, ?_, hslot.bind hrest⟩
    by_cases hbw : channel.bwMhz ≤ 2
    · have hseen : channel.bwMhz ≤ 2 → powerSeen before channel.maxTxEirpDbm = true := by
        simpa using hnew
      rw [powerTable_concat hbw, if_pos (hseen hbw)]
    · rw [powerTable_concat_wide hbw]

theorem appends_hwScanConstructTlv {body : Consbuf → Option Consbuf} {l : List U8} (tag : U16)
    (hbody : Appends body l) :
    Appends (hwScanConstructTlv tag body) (hwScanTlvHdr tag l.length ++ l) := by
  have happends := @Appends.withHeader sizeofHwScanTlvHdr
    (fun len => hwScanTlvHdr tag (len - sizeofHwScanTlvHdr)) body l hbody (fun _ => rfl)
  rw [Nat.add_sub_cancel_left] at happends
  exact happends

/-- The TLVs with the channels and the powers. -/
def listTlvs (channels : List ScanChannel) : List U8 :=
  hwScanTlvHdr hwScanTlvTagChanList (4 * (scanned channels).length)
    ++ (channelEntries channels channels
    ++ (hwScanTlvHdr hwScanTlvTagPowerList (4 * (powerTable channels).length)
    ++ powerEntries (powerTable channels)))

theorem appends_hwScanConstructDwellOnHomeTlv (scanArgs : MmwlanScanArgs) :
    ∃ l, Appends (hwScanConstructDwellOnHomeTlv scanArgs) l := by
  unfold hwScanConstructDwellOnHomeTlv
  split_ifs
  · exact ⟨_, appends_consbufAppend _⟩
  · exact ⟨_, appends_some⟩

section Request

variable {u : ScanData} {channels : List ScanChannel} {staArgs : StaArgs}
variable (hlist : u.channelList = some channels)
variable (hmac : Datapath.mmMacAddrIsZero u.vifMacAddr = false)
variable (hsta : u.staArgs = some staArgs) (scanArgs : MmwlanScanArgs)

include hmac hsta in
theorem appends_hwScanConstructProbeReqTlv :
    ∃ l, Appends (hwScanConstructProbeReqTlv u scanArgs) l := by
  unfold hwScanConstructProbeReqTlv
  rw [hmac, hsta]
  obtain ⟨l, hl⟩ := appends_frameProbeRequestBuild hsta
    { staAddress := u.vifMacAddr
      ssid := scanArgs.ssid
      ssidLen := scanArgs.ssidLen.setWidth 8
      extraIes := scanArgs.extraIes
      extraIesLen := scanArgs.extraIesLen.setWidth 16 }
  exact ⟨_, appends_hwScanConstructTlv hwScanTlvTagProbeReq hl⟩

include hlist hmac hsta in
theorem appends_hwScanConstructTlvs :
    ∃ l, Appends (hwScanConstructTlvs u scanArgs) (listTlvs channels ++ l) := by
  obtain ⟨dwell, hdwell⟩ := appends_hwScanConstructDwellOnHomeTlv scanArgs
  obtain ⟨probe, hprobe⟩ := appends_hwScanConstructProbeReqTlv hmac hsta scanArgs
  obtain ⟨fresh, htable, hfresh⟩ := appends_powerListLoop [] channels
  have hchannels := appends_hwScanConstructTlv hwScanTlvTagChanList
    (appends_channelListLoop [] channels)
  have hpowers := appends_hwScanConstructTlv hwScanTlvTagPowerList hfresh
  have hfresh : fresh = powerTable channels := htable.symm
  subst hfresh
  have hall := hchannels.bind (hpowers.bind (hdwell.bind hprobe))
  refine ⟨dwell ++ probe, ?_⟩
  have hlen : ∀ rest, (channelEntries channels rest).length = 4 * (scanned rest).length :=
    fun rest => length_flatMap_le32Octets (channelEntry channels) (scanned rest)
  have hlen' : (powerEntries (powerTable channels)).length = 4 * (powerTable channels).length :=
    length_flatMap_le32Octets dbmToQdbm (powerTable channels)
  rw [List.nil_append, hlen, hlen'] at hall
  intro c hroom
  unfold hwScanConstructTlvs hwScanConstructChannelListTlv hwScanConstructPowerListTlv
  rw [hlist]
  simp only [listTlvs, List.append_assoc] at hall hroom ⊢
  exact hall c hroom

end Request

/-! ## Reading the lists back -/

/-- What an entry of the channel list says about its channel. -/
structure ListedChannel where
  freqKhz : Nat
  operatingBw : Nat
  primaryChanWidth : Nat
  primaryChanIdx : Nat
  deriving Repr, DecidableEq

/-- The fields of an entry, by the masks and shifts of `enum hw_scan_channel`. -/
def ListedChannel.ofPacked (packed : U32) : ListedChannel where
  freqKhz := ((packed &&& hwScanChFreqKhzMask) >>> 0).toNat
  operatingBw := ((packed &&& hwScanChOpBwMask) >>> 20).toNat
  primaryChanWidth := ((packed &&& hwScanChPrimChWidthMask) >>> 22).toNat
  primaryChanIdx := ((packed &&& hwScanChPrimChIdxMask) >>> 23).toNat

/-- The index of the power. -/
def pwrListIdx (packed : U32) : Nat := ((packed &&& hwScanChPwrListIdxMask) >>> 26).toNat

/-- What an entry for a channel of at most 2 MHz is to say.  The 20 bits for the frequency
hold every frequency below 1048.576 MHz. -/
def ListedChannel.ofChannel (channel : ScanChannel) : ListedChannel where
  freqKhz := channel.centreFreqHz.toNat / 1000 % 2 ^ 20
  operatingBw := if channel.bwMhz = 2 then 1 else 0
  primaryChanWidth := if channel.bwMhz = 2 then 1 else 0
  primaryChanIdx := 0

/-- The five values of an entry with their masks. -/
def packedFields (channel : ScanChannel) (pwrIndex : U8) : List (U32 × U32) :=
  [((channel.centreFreqHz / 1000) <<< 0, hwScanChFreqKhzMask),
    (operatingBwOf channel.bwMhz <<< 20, hwScanChOpBwMask),
    (primaryChanWidthOf channel.bwMhz <<< 22, hwScanChPrimChWidthMask),
    ((0 : U32) <<< 23, hwScanChPrimChIdxMask),
    (pwrIndex.setWidth 32 <<< 26, hwScanChPwrListIdxMask)]

theorem hwScanPackChannel_eq (channel : ScanChannel) (pwrIndex : U8) :
    hwScanPackChannel channel pwrIndex = orMasked (packedFields channel pwrIndex) := by
  simp only [hwScanPackChannel, packedFields, orMasked, BitVec.or_zero, BitVec.or_assoc]

theorem packedFields_disjoint (channel : ScanChannel) (pwrIndex : U8) :
    (packedFields channel pwrIndex).Pairwise fun a b => a.2 &&& b.2 = 0#32 := by
  have hmasks : [hwScanChFreqKhzMask, hwScanChOpBwMask, hwScanChPrimChWidthMask,
      hwScanChPrimChIdxMask, hwScanChPwrListIdxMask].Pairwise fun m m' => m &&& m' = 0#32 := by
    decide
  exact List.Pairwise.of_map Prod.snd (fun _ _ h => h) hmasks

theorem field_hwScanPackChannel {channel : ScanChannel} {pwrIndex : U8} {x mask : U32} {s k : Nat}
    (hmem : (x <<< s, mask) ∈ packedFields channel pwrIndex)
    (hmask : mask.toNat = 2 ^ s * (2 ^ k - 1)) (hfit : s + k ≤ 32) :
    ((hwScanPackChannel channel pwrIndex &&& mask) >>> s).toNat = x.toNat % 2 ^ k := by
  rw [hwScanPackChannel_eq, orMasked_and (packedFields_disjoint channel pwrIndex) hmem,
    toNat_shiftedField x mask hmask hfit]

theorem pwrListIdx_hwScanPackChannel (channel : ScanChannel) (pwrIndex : U8) :
    pwrListIdx (hwScanPackChannel channel pwrIndex) = pwrIndex.toNat % 64 := by
  have hfield := @field_hwScanPackChannel channel pwrIndex (pwrIndex.setWidth 32)
    hwScanChPwrListIdxMask 26 6 (.tail _ (.tail _ (.tail _ (.tail _ (.head _))))) (by decide)
    (by decide)
  rw [pwrListIdx, hfield, BitVec.toNat_setWidth]
  have hlt := pwrIndex.isLt
  omega

theorem ofPacked_hwScanPackChannel (hbw : channel.bwMhz ≤ 2) (pwrIndex : U8) :
    ListedChannel.ofPacked (hwScanPackChannel channel pwrIndex)
      = ListedChannel.ofChannel channel := by
  have hfreq := @field_hwScanPackChannel channel pwrIndex (channel.centreFreqHz / 1000)
    hwScanChFreqKhzMask 0 20 (List.mem_cons_self ..) (by decide) (by decide)
  have hop := @field_hwScanPackChannel channel pwrIndex (operatingBwOf channel.bwMhz)
    hwScanChOpBwMask 20 2 (.tail _ (.head _)) (by decide) (by decide)
  have hwidth := @field_hwScanPackChannel channel pwrIndex (primaryChanWidthOf channel.bwMhz)
    hwScanChPrimChWidthMask 22 1 (.tail _ (.tail _ (.head _))) (by decide) (by decide)
  have hidx := @field_hwScanPackChannel channel pwrIndex 0
    hwScanChPrimChIdxMask 23 3 (.tail _ (.tail _ (.tail _ (.head _)))) (by decide) (by decide)
  have h8 : channel.bwMhz ≠ 8 := fun h => absurd hbw (by rw [h]; decide)
  have h4 : channel.bwMhz ≠ 4 := fun h => absurd hbw (by rw [h]; decide)
  have h1 : 1 < channel.bwMhz ↔ channel.bwMhz = 2 := by
    constructor
    · intro h
      apply BitVec.eq_of_toNat_eq
      have hle := BitVec.le_def.mp hbw
      have hlt := BitVec.lt_def.mp h
      exact Nat.le_antisymm hle hlt
    · intro h
      rw [h]
      decide
  have hop2 : (operatingBwOf channel.bwMhz).toNat % 2 ^ 2 = if channel.bwMhz = 2 then 1 else 0 := by
    rw [operatingBwOf, if_neg h8, if_neg h4]
    split_ifs <;> rfl
  have hwidth2 : (primaryChanWidthOf channel.bwMhz).toNat % 2 ^ 1
      = if channel.bwMhz = 2 then 1 else 0 := by
    rw [primaryChanWidthOf, if_congr h1 rfl rfl]
    split_ifs <;> rfl
  rw [ListedChannel.ofPacked, ListedChannel.ofChannel, hfreq, hop, hwidth, hidx, hop2, hwidth2,
    BitVec.toNat_udiv]
  rfl

theorem toInt_dbmToQdbm (gain : BitVec 8) : (dbmToQdbm gain).toInt = 4 * gain.toInt := by
  have hall : (List.range 256).all (fun n =>
      decide ((dbmToQdbm (BitVec.ofNat 8 n)).toInt = 4 * (BitVec.ofNat 8 n).toInt)) = true := by
    decide +kernel
  have hgain := List.all_eq_true.mp hall gain.toNat (List.mem_range.mpr gain.isLt)
  rw [BitVec.ofNat_toNat, BitVec.setWidth_eq] at hgain
  exact of_decide_eq_true hgain

/-- Where the list of channels starts, behind the request itself. -/
def channelTlvAt : Nat := sizeofMorseCmdReqHwScan

/-- Where the list of powers starts. -/
def powerTlvAt (channels : List ScanChannel) : Nat :=
  channelTlvAt + sizeofHwScanTlvHdr + 4 * (scanned channels).length

def channelEntryAt (cmd : BytePtr) (k : Nat) : U32 :=
  cmd.le32 (channelTlvAt + sizeofHwScanTlvHdr + 4 * k)

def powerEntryAt (channels : List ScanChannel) (cmd : BytePtr) (index : Nat) : U32 :=
  cmd.le32 (powerTlvAt channels + sizeofHwScanTlvHdr + 4 * index)

/-- The lists of a command agree with the channels and with each other. -/
structure ListsAgree (channels : List ScanChannel) (cmd : BytePtr) : Prop where
  channelHdr : cmd.Holds channelTlvAt
    (hwScanTlvHdr hwScanTlvTagChanList (4 * (scanned channels).length))
  /-- the channels of at most 2 MHz, in their order and no others -/
  listed : (List.range (scanned channels).length).map
      (fun k => ListedChannel.ofPacked (channelEntryAt cmd k))
    = (scanned channels).map ListedChannel.ofChannel
  powerHdr : cmd.Holds (powerTlvAt channels)
    (hwScanTlvHdr hwScanTlvTagPowerList (4 * (powers channels).toFinset.card))
  /-- the index of each channel is one of the list of powers, and that of its own power -/
  power : ∀ k, (h : k < (scanned channels).length) →
    pwrListIdx (channelEntryAt cmd k) < (powers channels).toFinset.card
      ∧ (powerEntryAt channels cmd (pwrListIdx (channelEntryAt cmd k))).toInt
        = 4 * (scanned channels)[k].maxTxEirpDbm.toInt

variable {channels : List ScanChannel}

theorem mem_powerTable
    (h : channel ∈ scanned channels) : channel.maxTxEirpDbm ∈ powerTable channels :=
  List.mem_eraseDups.mpr (List.mem_map.mpr ⟨channel, h, rfl⟩)

theorem bwMhz_le_of_mem_scanned (h : channel ∈ scanned channels) : channel.bwMhz ≤ 2 := by
  simpa using (List.mem_filter.mp h).2

theorem length_powerTable_le (channels : List ScanChannel) :
    (powerTable channels).length
      ≤ (channels.map fun channel => channel.maxTxEirpDbm).toFinset.card := by
  rw [powerTable, length_eraseDups]
  apply Finset.card_le_card
  intro power hpower
  rw [List.mem_toFinset] at hpower ⊢
  exact (List.filter_sublist.map _).subset hpower

theorem pwrListIdx_channelEntry
    (h64 : (powerTable channels).length ≤ 64) (h : channel ∈ scanned channels) :
    pwrListIdx (channelEntry channels channel)
      = (powerTable channels).idxOf channel.maxTxEirpDbm := by
  have hlt := List.idxOf_lt_length_of_mem (mem_powerTable h)
  rw [channelEntry, pwrListIdx_hwScanPackChannel, BitVec.toNat_ofNat]
  omega

theorem listsAgree_of_holds (h64 : (powerTable channels).length ≤ 64) {cmd : BytePtr}
    (h : cmd.Holds channelTlvAt (listTlvs channels)) : ListsAgree channels cmd := by
  have hhdr : ∀ tag len, (hwScanTlvHdr tag len).length = sizeofHwScanTlvHdr := fun _ _ => rfl
  have hlen : (channelEntries channels channels).length = 4 * (scanned channels).length :=
    length_flatMap_le32Octets (channelEntry channels) (scanned channels)
  have hchannels := h.right.left
  have hpowerTlv := h.right.right
  rw [hhdr] at hchannels hpowerTlv
  rw [hlen] at hpowerTlv
  have hpowers := hpowerTlv.right
  rw [hhdr] at hpowers
  have hentry : ∀ k, (hk : k < (scanned channels).length) →
      channelEntryAt cmd k = channelEntry channels (scanned channels)[k] :=
    fun k hk => hchannels.le32_flatMap hk
  have hcard : (powers channels).toFinset.card = (powerTable channels).length :=
    (length_eraseDups (powers channels)).symm
  refine ⟨h.left, ?_, ?_, ?_⟩
  · apply List.ext_getElem
    · rw [List.length_map, List.length_map, List.length_range]
    intro k hk hk'
    rw [List.length_map] at hk'
    rw [List.getElem_map, List.getElem_map, List.getElem_range, hentry k hk', channelEntry,
      ofPacked_hwScanPackChannel (bwMhz_le_of_mem_scanned (List.getElem_mem hk'))]
  · rw [hcard]
    exact hpowerTlv.left
  intro k hk
  have hmem : (scanned channels)[k] ∈ scanned channels := List.getElem_mem hk
  have hlt := List.idxOf_lt_length_of_mem (mem_powerTable hmem)
  rw [hentry k hk, pwrListIdx_channelEntry h64 hmem, hcard]
  refine ⟨hlt, ?_⟩
  have hpower := hpowers.le32_flatMap hlt
  rw [powerEntryAt, powerTlvAt, hpower, List.getElem_idxOf, toInt_dbmToQdbm]

/-! ## The command -/

theorem hwScanConstructBaseRequest_eq {u : ScanData} {scanArgs : MmwlanScanArgs} {l : List U8}
    (h : Appends (hwScanConstructTlvs u scanArgs) l) {c : Consbuf}
    (hroom : c.HasRoom (sizeofMorseCmdReqHwScan + l.length)) :
    hwScanConstructBaseRequest u c scanArgs
      = some ((c.reserved sizeofMorseCmdReqHwScan).appended l, c.buf.map fun _ => c.offset) := by
  have hfirst : c.HasRoom sizeofMorseCmdReqHwScan := hroom.imp id (fun h => by omega)
  have hrest : (c.reserved sizeofMorseCmdReqHwScan).HasRoom l.length := by
    refine hroom.imp id (fun h => ?_)
    show c.offset + sizeofMorseCmdReqHwScan + l.length ≤ c.bufSize
    omega
  show (consbufReserve c sizeofMorseCmdReqHwScan).bind _ = _
  rw [consbufReserve_of_hasRoom hfirst, Option.bind_some]
  show (hwScanConstructTlvs u scanArgs (c.reserved sizeofMorseCmdReqHwScan)).bind _ = _
  rw [h _ hrest, Option.bind_some]

section Passes

variable {u : ScanData} {scanArgs : MmwlanScanArgs} {l : List U8}
variable (h : Appends (hwScanConstructTlvs u scanArgs) l)

include h in
theorem sizing_pass :
    hwScanConstructBaseRequest u consbufInitWithoutBuf scanArgs
      = some (⟨none, 0, sizeofMorseCmdReqHwScan + l.length⟩, none) := by
  rw [hwScanConstructBaseRequest_eq h (.inl rfl)]
  show some (Consbuf.mk none 0 (0 + sizeofMorseCmdReqHwScan + l.length), none) = _
  rw [Nat.zero_add]

include h in
theorem filling_pass (buf : BytePtr) :
    hwScanConstructBaseRequest u (consbufReinit buf (sizeofMorseCmdReqHwScan + l.length)) scanArgs
      = some (((consbufReinit buf (sizeofMorseCmdReqHwScan + l.length)).reserved
          sizeofMorseCmdReqHwScan).appended l, some 0) := by
  have hroom : (consbufReinit buf (sizeofMorseCmdReqHwScan + l.length)).HasRoom
      (sizeofMorseCmdReqHwScan + l.length) := by
    refine .inr ?_
    show 0 + (sizeofMorseCmdReqHwScan + l.length) ≤ sizeofMorseCmdReqHwScan + l.length
    omega
  exact hwScanConstructBaseRequest_eq h hroom

theorem offset_filling_pass (buf : BytePtr) :
    (((consbufReinit buf (sizeofMorseCmdReqHwScan + l.length)).reserved
      sizeofMorseCmdReqHwScan).appended l).offset = sizeofMorseCmdReqHwScan + l.length := by
  show 0 + sizeofMorseCmdReqHwScan + l.length = _
  rw [Nat.zero_add]

include h in
theorem hwScanCommand_eq (flags : U32) {malloc : Nat → Option BytePtr} {buf : BytePtr}
    (hmalloc : malloc (sizeofMorseCmdReqHwScan + l.length) = some buf) :
    hwScanCommand u scanArgs flags malloc
      = some ((consbufReinit buf (sizeofMorseCmdReqHwScan + l.length)).appended
          (hwScanReqOctets (sizeofMorseCmdReqHwScan + l.length - sizeofMorseCmdHeader) u.vifId flags
            scanArgs.dwellTimeMs ++ l)) := by
  unfold hwScanCommand
  rw [sizing_pass h]
  show (malloc (sizeofMorseCmdReqHwScan + l.length)).bind _ = _
  rw [hmalloc, Option.bind_some]
  show (hwScanConstructBaseRequest u (consbufReinit buf (sizeofMorseCmdReqHwScan + l.length))
    scanArgs).bind _ = _
  rw [filling_pass h, Option.bind_some]
  dsimp only
  rw [offset_filling_pass, ← Consbuf.write_appended]
  rfl

end Passes

/-- Both passes consume the same number of octets, and the lists of the command that is
executed agree. -/
def PassesAgree (u : ScanData) (channels : List ScanChannel) (scanArgs : MmwlanScanArgs) : Prop :=
  ∃ sizing, hwScanConstructBaseRequest u consbufInitWithoutBuf scanArgs = some (sizing, none)
    ∧ ∀ buf : BytePtr,
      (∃ filled, hwScanConstructBaseRequest u (consbufReinit buf sizing.offset) scanArgs
          = some (filled, some 0) ∧ filled.offset = sizing.offset)
        ∧ ∀ flags malloc, malloc sizing.offset = some buf →
          ∃ cmd p, hwScanCommand u scanArgs flags malloc = some cmd
            ∧ cmd.offset = sizing.offset ∧ cmd.buf = some p ∧ ListsAgree channels p

/-- The first three hypotheses are the assertions of the builder. -/
theorem hw_scan_passes_agree {u : ScanData} {channels : List ScanChannel} {staArgs : StaArgs}
    (hlist : u.channelList = some channels)
    (hmac : Datapath.mmMacAddrIsZero u.vifMacAddr = false) (hsta : u.staArgs = some staArgs)
    (hpowers : (channels.map fun channel => channel.maxTxEirpDbm).toFinset.card ≤ 64)
    (scanArgs : MmwlanScanArgs) : PassesAgree u channels scanArgs := by
  obtain ⟨l, hl⟩ := appends_hwScanConstructTlvs hlist hmac hsta scanArgs
  have h64 := (length_powerTable_le channels).trans hpowers
  refine ⟨_, sizing_pass hl, ?_⟩
  intro buf
  refine ⟨⟨_, filling_pass hl buf, offset_filling_pass buf⟩, ?_⟩
  intro flags malloc hmalloc
  refine ⟨_, buf.patched 0 (_ ++ (listTlvs channels ++ l)), hwScanCommand_eq hl flags hmalloc,
    ?_, rfl, ?_⟩
  · show 0 + (_ ++ (listTlvs channels ++ l)).length
      = sizeofMorseCmdReqHwScan + (listTlvs channels ++ l).length
    rw [Nat.zero_add, List.length_append]
    rfl
  · exact listsAgree_of_holds h64 (buf.holds_patched 0 _).right.left

/-- Two channels of 1 MHz with the same power, one of 2 MHz with another, and between them one
of 4 MHz that is left out. -/
def mixedChannels : List ScanChannel :=
  [⟨⟨917500000, 68, 1, 1, 1⟩, 30⟩, ⟨⟨906000000, 70, 3, 8, 4⟩, 36⟩,
    ⟨⟨917000000, 69, 2, 2, 2⟩, 24⟩, ⟨⟨918500000, 68, 1, 3, 1⟩, 30⟩]

def mixedScan : ScanData where
  caps := ⟨⟨true, true, true, false, true, true⟩, false, false, false, true, false, false⟩
  sgiEnabled := true
  nonTimModeEnabled := false
  ampduEnabled := true
  ctrlRespOut1mhzEnabled := false
  supportedChannelWidthOverride := -1
  override_le := by decide
  staArgs := some ⟨2, -1, false⟩
  channelList := some mixedChannels
  vifMacAddr := fun i => BitVec.ofNat 8 (i + 2)
  vifId := 1

theorem hw_scan_passes_agree_mixed :
    PassesAgree mixedScan mixedChannels
      { dwellTimeMs := 105, extraIes := none, extraIesLen := 0, ssid := fun _ => 0x41, ssidLen := 4,
        dwellOnHomeMs := 200 } :=
  hw_scan_passes_agree rfl (by decide) rfl (by decide) _

end MmIotEsp32.Umac.HwScan
