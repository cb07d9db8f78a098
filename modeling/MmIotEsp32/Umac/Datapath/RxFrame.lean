/-
  MmIotEsp32.Umac.Datapath.RxFrame

  The way of a received data frame to `umac_datapath_process_rx_data_frame`
  (`umac/datapath/umac_datapath.c`).
-/
import MmIotEsp32.Umac.Datapath.Reorder

namespace MmIotEsp32.Umac.Datapath

open Dot11 Keys Ba

/-! ## The filter -/

def dot11FcSubtypeRts : U16 := 11
def dot11FcSubtypeS1gBeacon : U16 := 1

/-- `sizeof(struct dot11_s1g_beacon_hdr)`. -/
def sizeofDot11S1gBeaconHdr : Nat := 15

/-- The end of `umac_datapath_is_rx_frame_duplicate`, for a frame of this TID. -/
def rxSeqNumSpaceDuplicate (u : UmacData) (hdr : BytePtr) (tidIndex : U8) : UmacData × Bool :=
  if h : tidIndex.toNat < mmdrvSeqNumSpaces then
    if dot11FrameControlGetRetry (frameControl hdr)
        && u.stad.datapath.rxSeqNumSpaces ⟨tidIndex.toNat, h⟩ == sequenceControl hdr then (u, true)
    else (u.setRxSeqNumSpace ⟨tidIndex.toNat, h⟩ (sequenceControl hdr), false)
  else (u, true)

/-- `umac_datapath_is_rx_frame_duplicate`; `none` is its assertion. -/
def umacDatapathIsRxFrameDuplicate (u : UmacData) (rxbufview : Mmpkt) : Option (UmacData × Bool) :=
  let hdr := rxbufview.dataStart
  let type := dot11FrameControlGetType (frameControl hdr)
  let subtype := dot11FrameControlGetSubtype (frameControl hdr)
  if type == dot11FcTypeExt then some (u, false)
  else if !umacDatapathValidateBufLen rxbufview (dot11DataHdrGetLen hdr) then none
  else if isGroupAddr (dot11GetDa hdr) then some (u, false)
  else if type == dot11FcTypeCtrl then some (u, false)
  else if type == dot11FcTypeData && subtype == dot11FcSubtypeQosNull then some (u, false)
  else if type == dot11FcTypeData && subtype == dot11FcSubtypeQosData then
    if !umacDatapathValidateBufLen rxbufview (dot11DataHdrGetLen hdr + sizeofDot11QosCtrl) then
      some (u, true)
    else
      let qosControl := hdr.le16 (dot11DataHdrGetLen hdr)
      some (rxSeqNumSpaceDuplicate u hdr ((dot11QosControlGetTid qosControl).setWidth 8))
  else some (rxSeqNumSpaceDuplicate u hdr mmdrvSeqNumBaseline)

def umacDatapathRxFrameAllowedPreAssociation (env : UmacEnv) (fc : U16) : Bool :=
  let verTypeSubtype := dot11FrameControlGetVerTypeSubtype fc
  if verTypeSubtype != dot11VerTypeSubtype 0 dot11FcTypeExt dot11FcSubtypeS1gBeacon
      && dot11FrameControlGetProtected fc then false
  else env.framesAllowedPreAssociation.contains verTypeSubtype

/-- `umac_datapath_rx_frame_filter`, with whether it drops the frame; `none` is an assertion. -/
def umacDatapathRxFrameFilter (env : UmacEnv) (u : UmacData) (rxbufview : Mmpkt) :
    Option (UmacData × Bool) :=
  let hdr := rxbufview.dataStart
  let fc := frameControl hdr
  let isBeacon := dot11FrameControlGetVerTypeSubtype fc
    == dot11VerTypeSubtype 0 dot11FcTypeExt dot11FcSubtypeS1gBeacon
  let headerLen := if isBeacon then sizeofDot11S1gBeaconHdr else dot11DataHdrGetLen hdr
  if !umacDatapathValidateBufLen rxbufview 2 then some (u, true)
  else if dot11FrameControlGetVerTypeSubtype fc
      == dot11VerTypeSubtype 0 dot11FcTypeCtrl dot11FcSubtypeRts then some (u, true)
  else if isBeacon && env.filterBeacons then some (u, true)
  else if !umacDatapathValidateBufLen rxbufview headerLen then some (u, true)
  else if !env.configured then some (u, true)
  else if umacDatapathRxFrameAllowedPreAssociation env fc then some (u, false)
  else if !env.hasStad (dot11GetTa hdr) then some (u, true)
  else if umacInterfaceAddrMatchesMacAddr env (dot11GetSaData hdr) then some (u, true)
  else umacDatapathIsRxFrameDuplicate u rxbufview

/-! ## Processing -/

/-- `umac_datapath_process_rx_frame`, for a data frame. -/
def umacDatapathProcessRxFrame (env : UmacEnv) (u : UmacData) (rxbuf : Mmpkt) : Option UmacData :=
  let hdr := rxbuf.dataStart
  if !env.hasStad (dot11GetTa hdr) then
    -- without a STA record it goes no further, whether it is allowed to or not
    some u
  else umacDatapathProcessRxDataFrame env u rxbuf

end MmIotEsp32.Umac.Datapath
