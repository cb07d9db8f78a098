/-
  MmIotEsp32.Umac.Interface.Channel

  The operating channel: looking it up in the channel list (`umac/regdb/umac_regdb.c`) and what
  the driver is told of it (`umac/interface/umac_interface.c`).
-/
import Mathlib.Data.Int.Order.Basic
import MmIotEsp32.Common.Mmosal

namespace MmIotEsp32.Umac.Interface

/-! ## Data model -/

/-- `struct ie_s1g_operation`. -/
structure S1gOperation where
  primaryChannelWidthMhz : U8
  operationChannelWidthMhz : U8
  primary1mhzChannelLoc : U8
  recommendNoMcs10 : U8
  operatingClass : U8
  primaryChannelNumber : U8
  operatingChannelIndex : U8
  deriving Repr, DecidableEq

/-- A `struct ie_s1g_operation` cleared by `memset`. -/
def S1gOperation.zero : S1gOperation := ⟨0, 0, 0, 0, 0, 0, 0⟩

/-- `struct mmwlan_s1g_channel`, as far as a channel is set by it. -/
structure S1gChannel where
  centreFreqHz : U32
  globalOperatingClass : U16
  s1gOperatingClass : U16
  s1gChanNum : U8
  bwMhz : U8
  deriving Repr, DecidableEq

/-- What `mmdrv_set_channel` is called with. -/
structure ChannelCfg where
  opChanFreqHz : U32
  pri1mhzChanIdx : Nat
  opBwMhz : U8
  priBwMhz : U8
  deriving Repr, DecidableEq

def mmwlanSkipOpClassCheck : U16 := -1

/-! ## The channel list -/

def umacRegdbGetChannel (channelList : List S1gChannel) (s1gChanNum : U8) : Option S1gChannel :=
  channelList.find? fun chan => chan.s1gChanNum = s1gChanNum

/-- `umac_regdb_op_class_match`, with the check enabled. -/
def umacRegdbOpClassMatch (opClass : U8) (chan : S1gChannel) : Bool :=
  if chan.globalOperatingClass = mmwlanSkipOpClassCheck
      || chan.s1gOperatingClass = mmwlanSkipOpClassCheck then true
  else
    opClass = chan.globalOperatingClass.truncate 8 || opClass = chan.s1gOperatingClass.truncate 8

/-! ## Setting a channel -/

/-- `MHZ_TO_HZ(1)`. -/
def mhzToHz : Int := 1000000

/-- `umac_interface_calc_pri_1mhz_idx`; `none` where it returns -1. -/
def umacInterfaceCalcPri1mhzIdx (channelList : List S1gChannel) (s1gOperation : S1gOperation)
    (operatingChan : S1gChannel) : Option Nat :=
  match umacRegdbGetChannel channelList s1gOperation.primaryChannelNumber with
  | none => none
  | some primaryChan =>
    let freqDeltaHz := (primaryChan.centreFreqHz - operatingChan.centreFreqHz).toInt
    let bwMarginHz :=
      ((operatingChan.bwMhz.toNat : Int) - primaryChan.bwMhz.toNat) * (mhzToHz / 2)
    let idx := (freqDeltaHz + bwMarginHz).tdiv mhzToHz
    let idx :=
      if 1 < primaryChan.bwMhz.toNat then idx + s1gOperation.primary1mhzChannelLoc.toNat else idx
    if idx < 0 ∨ (operatingChan.bwMhz.toNat : Int) ≤ idx then none else some idx.toNat

/-- What `umac_interface_set_channel` has the driver set, if it finds nothing wrong;
`maxSupportedBw` is `umac_interface_max_supported_bw`. -/
def channelCfg (channelList : List S1gChannel) (maxSupportedBw : Nat) (op : S1gOperation) :
    Option ChannelCfg :=
  match umacRegdbGetChannel channelList op.operatingChannelIndex with
  | none => none
  | some chan =>
    if !umacRegdbOpClassMatch op.operatingClass chan then none
    else if 2 < op.primaryChannelWidthMhz.toNat
        ∨ op.operationChannelWidthMhz.toNat < op.primaryChannelWidthMhz.toNat then none
    else if maxSupportedBw < op.operationChannelWidthMhz.toNat then none
    else if op.operationChannelWidthMhz ≠ chan.bwMhz then none
    else if 1 < op.primary1mhzChannelLoc.toNat ∨ op.primary1mhzChannelLoc = chan.bwMhz then none
    else
      (umacInterfaceCalcPri1mhzIdx channelList op chan).map fun idx =>
        ⟨chan.centreFreqHz, idx, chan.bwMhz, op.primaryChannelWidthMhz⟩

end MmIotEsp32.Umac.Interface
