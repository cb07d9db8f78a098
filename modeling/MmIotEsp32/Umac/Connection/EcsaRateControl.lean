/-
  MmIotEsp32.Umac.Connection.EcsaRateControl

  The switch to a new channel and the rate control of the access point
  (`umac_connection_handle_ecsa`).
-/
import MmIotEsp32.Umac.Connection.ConnectionTimeouts
import MmIotEsp32.Umac.Connection.StationMoves
import MmIotEsp32.Umac.Rc.UmacRc

namespace MmIotEsp32.Umac.Connection

open Interface Mmrc

/-! ## The station and its rate control -/

/-- `struct umac_rc_sta_data`; the table by the capabilities it was made for. -/
structure RcStaData where
  referenceTable : Option MmrcStaCapabilities
  activeCapabilities : MmrcStaCapabilities
  deriving DecidableEq

/-- The calls that stop and start the rate control of a station record. -/
inductive RcCall where
  | stop
  | start (sgiFlags maxMcs : U8)
  deriving DecidableEq

/-- What `umac_rc_start` reads of the configuration and of the chip. -/
structure RcSettings where
  morseCaps : Rc.MorseCaps
  sgiEnabled : Bool
  subbandsEnabled : Bool

/-- The station with the record of its access point; `rcCalls` only records. -/
structure RcStation where
  station : Station
  settings : RcSettings
  rc : RcStaData
  rcCalls : List RcCall

def umacRcStop (s : RcStation) : RcStation :=
  { s with rc := { s.rc with referenceTable := none }, rcCalls := s.rcCalls ++ [.stop] }

/-- `umac_rc_start`. -/
def umacRcStartSta (s : RcStation) (sgiFlags maxMcs : U8) : RcStation :=
  let s := { s with rcCalls := s.rcCalls ++ [.start sgiFlags maxMcs] }
  match Rc.umacRcStart
    { morseCaps := s.settings.morseCaps
      sgiEnabled := s.settings.sgiEnabled
      subbandsEnabled := s.settings.subbandsEnabled
      operationChannelWidthMhz :=
        s.station.umac.iface.currentS1gOperation.operationChannelWidthMhz
      sgiFlags := sgiFlags
      maxMcs := maxMcs } with
  | none => s
  | some capabilities =>
    { s with rc := { referenceTable := some capabilities, activeCapabilities := capabilities } }

/-! ## The switch -/

/-- What a `const struct ie_s1g_operation *` of the handler points to. -/
inductive S1gInfoPtr where
  | ecsaS1gInfo
  | currentS1gOperation
  deriving DecidableEq

/-- What is behind the pointer. -/
def S1gInfoPtr.deref (s : RcStation) : S1gInfoPtr → S1gOperation
  | .ecsaS1gInfo => s.station.ecsaS1gInfo
  | .currentS1gOperation => s.station.umac.iface.currentS1gOperation

def umacInterfaceGetCurrentS1gOperationInfo : S1gInfoPtr := .currentS1gOperation

/-- `BIT_COUNT(rates) - 1`. -/
def maxMcsOf (rates : BitVec 11) : U8 :=
  BitVec.ofNat 8 ((List.finRange 11).countP fun i => rates.getLsbD i) - 1

/-- `umac_interface_set_channel`, when the driver takes the transmit power, the duty cycle and the
packet spacing that are set after the channel, or not. -/
def setChannelRc (settingsOk : Bool) (s : RcStation) (s1gOperation : S1gOperation) :
    RcStation × Bool :=
  let (umac, ok) := umacInterfaceSetChannel s.station.umac s1gOperation
  ({ s with station := { s.station with umac := umac } }, ok && settingsOk)

/-- `umac_connection_handle_ecsa`, with whether the switch succeeded. -/
def umacConnectionHandleEcsaRc (settingsOk : Bool) (s : RcStation) : RcStation × Bool :=
  let newS1gInfo : S1gInfoPtr := .ecsaS1gInfo
  let oldS1gInfo := umacInterfaceGetCurrentS1gOperationInfo
  let (s, ok) := setChannelRc settingsOk s (newS1gInfo.deref s)
  let s := { s with station := { s.station with ecsaActive := false } }
  let s :=
    if !ok then s
    else if (newS1gInfo.deref s).operationChannelWidthMhz
        ≠ (oldS1gInfo.deref s).operationChannelWidthMhz then
      let s := umacRcStop s
      umacRcStartSta s (s.rc.activeCapabilities.sgiPerBw.setWidth 8)
        (maxMcsOf s.rc.activeCapabilities.rates)
    else s
  ({ s with station := s.station.unpause pauseSourceEcsa }, ok)

/-! ## What a switch does -/

theorem setChannel_current {u u' : Umac} {s1gOperation : S1gOperation}
    (h : umacInterfaceSetChannel u s1gOperation = (u', true)) :
    u'.iface.currentS1gOperation = s1gOperation := by
  unfold umacInterfaceSetChannel at h
  cases hcfg : channelCfg u.config.channelList u.config.maxSupportedBw s1gOperation with
  | none =>
    rw [hcfg] at h
    dsimp only at h
    split_ifs at h
    · simp at h
    · simp at h
  | some cfg =>
    rw [hcfg] at h
    dsimp only at h
    split_ifs at h with hactive hstarted hsame
    · simp at h
    · simp at h
    · obtain ⟨rfl, -⟩ := Prod.mk.inj h
      exact hsame
    · obtain ⟨rfl, -⟩ := Prod.mk.inj h
      rfl

theorem handleEcsaRc_rcCalls {settingsOk : Bool} {s s' : RcStation}
    (h : umacConnectionHandleEcsaRc settingsOk s = (s', true)) :
    s'.rcCalls = s.rcCalls ∧ s'.rc = s.rc
      ∧ s'.station.umac.iface.currentS1gOperation = s.station.ecsaS1gInfo := by
  unfold umacConnectionHandleEcsaRc setChannelRc at h
  dsimp only at h
  obtain ⟨hs', hok⟩ := Prod.mk.inj h
  have hset : (umacInterfaceSetChannel s.station.umac s.station.ecsaS1gInfo).2 = true :=
    (Bool.and_eq_true_iff.mp hok).1
  have hcurrent := setChannel_current (u := s.station.umac)
    (show umacInterfaceSetChannel s.station.umac s.station.ecsaS1gInfo
      = ((umacInterfaceSetChannel s.station.umac s.station.ecsaS1gInfo).1, true) from
        Prod.ext rfl hset)
  -- both pointers show the operation that has just been set
  rw [if_neg (by rw [Bool.not_eq_true', hok]; decide), if_neg ?_] at hs'
  · subst hs'
    exact ⟨rfl, rfl, hcurrent⟩
  intro hne
  apply hne
  show s.station.ecsaS1gInfo.operationChannelWidthMhz
    = (umacInterfaceSetChannel s.station.umac
        s.station.ecsaS1gInfo).1.iface.currentS1gOperation.operationChannelWidthMhz
  rw [hcurrent]

/-! ## When rate control is restarted -/

/-- The width of the operating channel that is in force. -/
def RcStation.widthMhz (s : RcStation) : U8 :=
  s.station.umac.iface.currentS1gOperation.operationChannelWidthMhz

/-- The rate control has been stopped and started again in between. -/
def Restarted (s s' : RcStation) : Prop :=
  ∃ sgiFlags maxMcs, s'.rcCalls = s.rcCalls ++ [.stop, .start sgiFlags maxMcs]

/-- **When a switch treats rate control as it should**: in any state of the station and for any
announced operation, a switch that succeeds restarts the rate control exactly when the widths in
force before and after it differ, if and only if the announced width is the one in force. -/
theorem restarted_iff_width_changed (settingsOk : Bool) (s s' : RcStation)
    (h : umacConnectionHandleEcsaRc settingsOk s = (s', true)) :
    (Restarted s s' ↔ s.widthMhz ≠ s'.widthMhz)
      ↔ s.station.ecsaS1gInfo.operationChannelWidthMhz = s.widthMhz := by
  obtain ⟨hcalls, -, hcurrent⟩ := handleEcsaRc_rcCalls h
  have hnever : ¬ Restarted s s' := by
    rintro ⟨sgiFlags, maxMcs, hrestarted⟩
    rw [hcalls] at hrestarted
    exact absurd (congrArg List.length hrestarted) (by simp)
  have hwidth : s'.widthMhz = s.station.ecsaS1gInfo.operationChannelWidthMhz := by
    unfold RcStation.widthMhz
    rw [hcurrent]
  rw [hwidth]
  constructor
  · intro hiff
    by_contra hne
    exact hnever (hiff.mpr fun heq => hne heq.symm)
  · intro heq
    exact ⟨fun hrestarted => absurd hrestarted hnever, fun hne => absurd heq.symm hne⟩

/-- Channels of 1 MHz and, around the same primary, of 2 MHz. -/
def ecsaChannels : List S1gChannel := [⟨902500000, 68, 1, 1, 1⟩, ⟨903000000, 68, 1, 2, 2⟩]

/-- A connected station at 1 MHz that has been told to switch to an operation. -/
def ecsaStation (ecsaS1gInfo : S1gOperation) : RcStation where
  station :=
    { stationInit { exampleConfig with channelList := ecsaChannels } with
      umac :=
        { umacInit { exampleConfig with channelList := ecsaChannels } with
          iface := ⟨true, false, ⟨1, 1, 0, 0, 68, 1, 1⟩, none⟩
          drv := ⟨true, 0, .reset⟩ }
      ecsaActive := true
      ecsaS1gInfo := ecsaS1gInfo }
  settings := ⟨⟨true, true, true, false, false, false⟩, true, true⟩
  rc := ⟨none, ⟨4, 4, 0b00001, 1, 0b00011111111, 3, 0b00001⟩⟩
  rcCalls := []

/-- A switch within the width. -/
theorem restarted_iff_width_changed_same :
    let s := ecsaStation ⟨1, 1, 0, 0, 68, 1, 1⟩
    umacConnectionHandleEcsaRc true s = ((umacConnectionHandleEcsaRc true s).1, true)
      ∧ (Restarted s (umacConnectionHandleEcsaRc true s).1
        ↔ s.widthMhz ≠ (umacConnectionHandleEcsaRc true s).1.widthMhz) :=
  ⟨rfl, (restarted_iff_width_changed true _ _ rfl).mpr rfl⟩

/-- A switch from 1 MHz to 2 MHz goes unnoticed. -/
theorem wider_channel_not_restarted :
    let s := ecsaStation ⟨1, 2, 0, 0, 68, 1, 2⟩
    umacConnectionHandleEcsaRc true s = ((umacConnectionHandleEcsaRc true s).1, true)
      ∧ ¬ (Restarted s (umacConnectionHandleEcsaRc true s).1
        ↔ s.widthMhz ≠ (umacConnectionHandleEcsaRc true s).1.widthMhz) := by
  refine ⟨rfl, fun hiff => ?_⟩
  obtain ⟨sgiFlags, maxMcs, hcalls⟩ := hiff.mpr (by decide)
  exact List.cons_ne_nil _ _ hcalls.symm

end MmIotEsp32.Umac.Connection
