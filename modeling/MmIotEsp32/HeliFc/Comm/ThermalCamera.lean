/-
  MmIotEsp32.HeliFc.Comm.ThermalCamera

  The Lepton task of `comm/thermal_camera.c`.
-/
import MmIotEsp32.Common.Mmosal
import MmIotEsp32.Lib.CArray
import MmIotEsp32.Lib.Transition

namespace MmIotEsp32.HeliFc.Thermal

open Lib

/-! ## Packets -/

def lepWidth : Nat := 160
def lepHeight : Nat := 120

/-- `LEP_PKT_HEADER`, `LEP_PKT_DATA`, `LEP_PKT_SIZE`. -/
def lepPktHeader : Nat := 4
def lepPktData : Nat := 160
def lepPktSize : Nat := 164

def lepPktsPerSeg : Nat := 60
def lepSegsPerFrame : Nat := 4

def lepFramePkts : Nat := 240

def lepFrameSize : Nat := 38400

/-- What `spi_device_transmit` reads. -/
abbrev VospiPacket := CArray lepPktSize U8

namespace VospiPacket

variable (pkt : VospiPacket)

def id : U16 := ((pkt ⟨0, by decide⟩).setWidth 16 <<< 8) ||| (pkt ⟨1, by decide⟩).setWidth 16

def isDiscard : Bool := (id pkt >>> 8) &&& 0x0f == 0x0f

def packetNum : Nat := (id pkt &&& 0x0fff).toNat

def ttt : Nat := ((id pkt >>> 12) &&& 0x07).toNat

end VospiPacket

/-! ## The task -/

/-- A frame of pixels. -/
abbrev LeptonFrame := CArray (lepWidth * lepHeight) U16

/-- What the task uses of `s_lep`, and its own variables. -/
structure LeptonTask where
  vospiBuf : CArray lepFrameSize U8
  frameBuf : LeptonFrame
  frameValid : Bool
  frameCount : U32
  discardCount : U32
  resyncCount : U32
  synced : Bool
  seg : Nat
  pktNum : Nat
  discardSeg : Bool

/-- A call of `spi_device_transmit`: what it reads, `none` when it fails, and whether
`frame_mutex` is free, should it be taken before the next call. -/
structure SpiRead where
  result : Option VospiPacket
  frameMutexFree : Bool

/-- What the call makes of the attempt. -/
inductive AttemptOutcome
  | reading
  | abandoned
  | complete (published : Bool)
  deriving DecidableEq

namespace LeptonTask

def init : LeptonTask where
  vospiBuf := fun _ => 0
  frameBuf := fun _ => 0
  frameValid := false
  frameCount := 0
  discardCount := 0
  resyncCount := 0
  synced := false
  seg := 1
  pktNum := 0
  discardSeg := false

/-- The beginning of the outermost loop. -/
def beginFrame (t : LeptonTask) : LeptonTask := { t with seg := 1, pktNum := 0, discardSeg := false }

/-- The loops end with `frame_ok` false: the branch `if (!frame_ok)`. -/
def frameFailed (t : LeptonTask) : LeptonTask :=
  if !t.synced then { t with resyncCount := t.resyncCount + 1, synced := true }.beginFrame
  else t.beginFrame

/-- A pixel, from the big-endian data. -/
def pixel (src : CArray lepFrameSize U8) (p : Fin (lepWidth * lepHeight)) : U16 :=
  ((src ⟨p * 2, by have := p.isLt; unfold lepWidth lepHeight at this; unfold lepFrameSize; omega⟩
      ).setWidth 16 <<< 8)
    ||| (src ⟨p * 2 + 1, by
      have := p.isLt; unfold lepWidth lepHeight at this; unfold lepFrameSize; omega⟩).setWidth 16

/-- The loops end with a whole frame. -/
def frameComplete (t : LeptonTask) (frameMutexFree : Bool) : LeptonTask :=
  let t := { t with synced := true, frameCount := t.frameCount + 1 }
  if frameMutexFree then { t with frameBuf := pixel t.vospiBuf, frameValid := true }.beginFrame
  else t.beginFrame

/-- The end of the loop over the packets, and the step of the loop over the segments. -/
def segmentEnd (t : LeptonTask) (frameMutexFree : Bool) : LeptonTask × AttemptOutcome :=
  let seg := (if t.discardSeg then t.seg - 1 else t.seg) + 1
  if seg ≤ lepSegsPerFrame then
    ({ t with seg := seg, pktNum := 0, discardSeg := false }, .reading)
  else (t.frameComplete frameMutexFree, .complete frameMutexFree)

/-- The copy of the data, and the step of the loop over the packets; `none` is a copy that is
not inside the buffer. -/
def storePacket (t : LeptonTask) (pkt : VospiPacket) (frameMutexFree : Bool) :
    Option (LeptonTask × AttemptOutcome) :=
  let offset := ((t.seg - 1) * lepPktsPerSeg + t.pktNum) * lepPktData
  (t.vospiBuf.memcpy offset pkt lepPktHeader lepPktData).map fun vospiBuf =>
    let t := { t with vospiBuf := vospiBuf, pktNum := t.pktNum + 1 }
    if t.pktNum < lepPktsPerSeg then (t, .reading) else t.segmentEnd frameMutexFree

/-- The body of the loop over the packets, after the read. -/
def receivePacket (t : LeptonTask) (pkt : VospiPacket) (frameMutexFree : Bool) :
    Option (LeptonTask × AttemptOutcome) :=
  if pkt.isDiscard then
    let t := { t with discardCount := t.discardCount + 1 }
    if t.pktNum = 0 ∧ t.seg = 1 then some (t.frameFailed, .abandoned) else some (t, .reading)
  else if pkt.packetNum ≠ t.pktNum then some ({ t with synced := false }.frameFailed, .abandoned)
  else if t.pktNum = 20 then
    if pkt.ttt = 0 then storePacket { t with discardSeg := true } pkt frameMutexFree
    else if pkt.ttt ≠ t.seg then some ({ t with synced := false }.frameFailed, .abandoned)
    else t.storePacket pkt frameMutexFree
  else t.storePacket pkt frameMutexFree

end LeptonTask

/-- `lepton_vospi_task`, from one call of `spi_device_transmit` to the next. -/
def leptonVospiTask (t : LeptonTask) (read : SpiRead) : Option (LeptonTask × AttemptOutcome) :=
  match read.result with
  | none => some (t.frameFailed, .abandoned)
  | some pkt => t.receivePacket pkt read.frameMutexFree

/-! ## What is read and published -/

/-- A published frame, with the packets read since its attempt began. -/
structure Published where
  attempt : List VospiPacket
  frame : LeptonFrame

/-- The task, with what has been read since the attempt began and what has been published. -/
structure ThermalRun where
  task : LeptonTask
  attempt : List VospiPacket
  published : List Published

def ThermalRun.init : ThermalRun := ⟨LeptonTask.init, [], []⟩

def thermalStep (r : ThermalRun) (read : SpiRead) : Option ThermalRun :=
  (leptonVospiTask r.task read).map fun (task, outcome) =>
    let attempt := r.attempt ++ read.result.toList
    match outcome with
    | .reading => ⟨task, attempt, r.published⟩
    | .abandoned => ⟨task, [], r.published⟩
    | .complete false => ⟨task, [], r.published⟩
    | .complete true => ⟨task, [], ⟨attempt, task.frameBuf⟩ :: r.published⟩

/-- The packets of a segment, without the discard packets. -/
def segmentPackets (segment : List VospiPacket) : List VospiPacket :=
  segment.filter fun pkt => !pkt.isDiscard

/-- The segment has its sixty packets one after the other. -/
def WholeSegment (segment : List VospiPacket) : Prop :=
  (segmentPackets segment).map VospiPacket.packetNum = List.range lepPktsPerSeg

/-- The number in the packet 20. -/
def segmentNumber (segment : List VospiPacket) : Nat :=
  ((segmentPackets segment)[20]?.map VospiPacket.ttt).getD 0

def validSegments (segments : List (List VospiPacket)) : List (List VospiPacket) :=
  segments.filter fun segment => segmentNumber segment ≠ 0

/-- The packets of the valid segments. -/
def framePackets (segments : List (List VospiPacket)) : List VospiPacket :=
  (validSegments segments).flatMap segmentPackets

/-- The octet `j` of the data of the packets. -/
def dataOctet (packets : List VospiPacket) (j : Nat) : Option U8 :=
  packets[j / lepPktData]?.bind fun pkt => pkt.read (lepPktHeader + j % lepPktData)

/-- A pixel, from the data of the packets. -/
def dataPixel (packets : List VospiPacket) (p : Nat) : Option U16 :=
  (dataOctet packets (p * 2)).bind fun high => (dataOctet packets (p * 2 + 1)).map fun low =>
    (high.setWidth 16 <<< 8) ||| low.setWidth 16

/-- The packets that were read are whole segments, the valid ones of which have the numbers 1
to 4 in this order; the frame is their data. -/
structure FrameOf (segments : List (List VospiPacket)) (f : Published) : Prop where
  read : f.attempt = segments.flatten
  whole : ∀ segment ∈ segments, WholeSegment segment
  numbers : (validSegments segments).map segmentNumber = [1, 2, 3, 4]
  count : (framePackets segments).length = lepFramePkts
  data : ∀ p : Fin (lepWidth * lepHeight), dataPixel (framePackets segments) p = some (f.frame p)

def WholeFrame (f : Published) : Prop := ∃ segments, FrameOf segments f

/-! ## Data and segments -/

theorem dataOctet_append_left {a b : List VospiPacket} {j : Nat} (h : j < a.length * lepPktData) :
    dataOctet (a ++ b) j = dataOctet a j := by
  have hlt : j / lepPktData < a.length := Nat.div_lt_of_lt_mul (by rw [Nat.mul_comm]; exact h)
  unfold dataOctet
  rw [List.getElem?_append_left hlt]

variable {pkt : VospiPacket}

theorem dataOctet_append_last {a : List VospiPacket} {j : Nat}
    (hlow : a.length * lepPktData ≤ j) (hhigh : j < a.length * lepPktData + lepPktData) :
    dataOctet (a ++ [pkt]) j = pkt.read (lepPktHeader + (j - a.length * lepPktData)) := by
  have hdata : lepPktData = 160 := rfl
  have hdiv : j / lepPktData = a.length := by
    rw [hdata] at hlow hhigh ⊢
    omega
  have hmod : j % lepPktData = j - a.length * lepPktData := by
    rw [hdata] at hlow hhigh ⊢
    omega
  unfold dataOctet
  rw [hdiv, hmod, List.getElem?_concat_length]
  rfl

theorem segmentPackets_append (a b : List VospiPacket) :
    segmentPackets (a ++ b) = segmentPackets a ++ segmentPackets b := List.filter_append ..

theorem segmentPackets_discard (h : pkt.isDiscard = true) : segmentPackets [pkt] = [] := by
  unfold segmentPackets
  rw [List.filter_singleton, h]
  rfl

theorem segmentPackets_data (h : pkt.isDiscard = false) : segmentPackets [pkt] = [pkt] := by
  unfold segmentPackets
  rw [List.filter_singleton, h]
  rfl

theorem framePackets_valid {segments : List (List VospiPacket)} {current : List VospiPacket}
    (h : segmentNumber current ≠ 0) :
    validSegments (segments ++ [current]) = validSegments segments ++ [current]
      ∧ framePackets (segments ++ [current])
        = framePackets segments ++ segmentPackets current := by
  have hvalid : validSegments (segments ++ [current]) = validSegments segments ++ [current] := by
    unfold validSegments
    rw [List.filter_append, List.filter_singleton, decide_eq_true h]
    rfl
  refine ⟨hvalid, ?_⟩
  unfold framePackets
  rw [hvalid, List.flatMap_append, List.flatMap_singleton]

theorem framePackets_invalid {segments : List (List VospiPacket)} {current : List VospiPacket}
    (h : segmentNumber current = 0) :
    validSegments (segments ++ [current]) = validSegments segments
      ∧ framePackets (segments ++ [current]) = framePackets segments := by
  have hvalid : validSegments (segments ++ [current]) = validSegments segments := by
    unfold validSegments
    rw [List.filter_append, List.filter_singleton, decide_eq_false (not_not_intro h)]
    exact List.append_nil _
  refine ⟨hvalid, ?_⟩
  unfold framePackets
  rw [hvalid]

theorem WholeSegment.length {segment : List VospiPacket} (h : WholeSegment segment) :
    (segmentPackets segment).length = lepPktsPerSeg := by
  have hlength := congrArg List.length h
  rw [List.length_map, List.length_range] at hlength
  exact hlength

theorem length_framePackets {segments : List (List VospiPacket)}
    (h : ∀ segment ∈ segments, WholeSegment segment) :
    (framePackets segments).length = (validSegments segments).length * lepPktsPerSeg := by
  have hmem : ∀ segment ∈ validSegments segments, WholeSegment segment :=
    fun segment hsegment => h segment (List.mem_filter.mp hsegment).1
  unfold framePackets
  rw [List.length_flatMap, List.map_congr_left fun segment hsegment => (hmem segment hsegment).length,
    List.map_const', List.sum_replicate]
  rfl

theorem dataPixel_eq {buf : CArray lepFrameSize U8} {packets : List VospiPacket}
    (hdata : ∀ j < lepFrameSize, buf.read j = dataOctet packets j)
    (p : Fin (lepWidth * lepHeight)) :
    dataPixel packets p = some (LeptonTask.pixel buf p) := by
  have hp := p.isLt
  unfold lepWidth lepHeight at hp
  have hhigh : p.val * 2 < lepFrameSize := by
    unfold lepFrameSize
    omega
  have hlow : p.val * 2 + 1 < lepFrameSize := by
    unfold lepFrameSize
    omega
  unfold dataPixel
  rw [← hdata _ hhigh, ← hdata _ hlow, CArray.read_of_lt _ hhigh, CArray.read_of_lt _ hlow]
  rfl

/-! ## Partial frames -/

/-- The middle of an attempt: the segments that were read to their ends, of which the valid
ones come before `seg`, and the packets of the current one; the buffer holds the data of the
valid ones and of the current one. -/
structure PartialFrame (segments : List (List VospiPacket)) (current : List VospiPacket)
    (t : LeptonTask) (attempt : List VospiPacket) : Prop where
  read : attempt = segments.flatten ++ current
  whole : ∀ segment ∈ segments, WholeSegment segment
  pos : 1 ≤ t.seg
  inFrame : t.seg ≤ lepSegsPerFrame
  numbers : (validSegments segments).map segmentNumber = List.range' 1 (t.seg - 1)
  inOrder : (segmentPackets current).map VospiPacket.packetNum = List.range t.pktNum
  unnumbered : t.pktNum ≤ 20 → t.discardSeg = false
  number : 20 < t.pktNum → segmentNumber current = if t.discardSeg then 0 else t.seg
  data : ∀ j < ((t.seg - 1) * lepPktsPerSeg + t.pktNum) * lepPktData,
    t.vospiBuf.read j = dataOctet (framePackets segments ++ segmentPackets current) j

/-- The published frame is left alone. -/
def SameFrame (t t' : LeptonTask) : Prop :=
  t'.frameBuf = t.frameBuf ∧ t'.frameValid = t.frameValid

theorem partialFrame_begin (t : LeptonTask) : PartialFrame [] [] t.beginFrame [] where
  read := rfl
  whole := fun _ h => absurd h List.not_mem_nil
  pos := Nat.le_refl 1
  inFrame := show 1 ≤ lepSegsPerFrame by decide
  numbers := rfl
  inOrder := rfl
  unnumbered := fun _ => rfl
  number := fun h => absurd h (Nat.not_lt_zero 20)
  data := fun j hj => absurd hj (by simp [LeptonTask.beginFrame])

theorem partialFrame_failed (t : LeptonTask) : PartialFrame [] [] t.frameFailed [] := by
  unfold LeptonTask.frameFailed
  split <;> exact partialFrame_begin _

section Steps

variable {segments : List (List VospiPacket)} {current attempt : List VospiPacket}
  {t : LeptonTask} (h : PartialFrame segments current t attempt)

include h

theorem PartialFrame.length : (framePackets segments ++ segmentPackets current).length
    = (t.seg - 1) * lepPktsPerSeg + t.pktNum := by
  have hcount := congrArg List.length h.numbers
  have hcurrent := congrArg List.length h.inOrder
  rw [List.length_map, List.length_range'] at hcount
  rw [List.length_map, List.length_range] at hcurrent
  rw [List.length_append, length_framePackets h.whole, hcount, hcurrent]

theorem PartialFrame.discard {pkt : VospiPacket} (hdiscard : pkt.isDiscard = true) (n : U32) :
    PartialFrame segments (current ++ [pkt]) { t with discardCount := n } (attempt ++ [pkt]) := by
  have hsame : segmentPackets (current ++ [pkt]) = segmentPackets current := by
    rw [segmentPackets_append, segmentPackets_discard hdiscard, List.append_nil]
  constructor
  · rw [h.read, List.append_assoc]
  · exact h.whole
  · exact h.pos
  · exact h.inFrame
  · exact h.numbers
  · rw [hsame]
    exact h.inOrder
  · exact h.unnumbered
  · unfold segmentNumber
    rw [hsame]
    exact h.number
  · rw [hsame]
    exact h.data

theorem PartialFrame.copy {pkt : VospiPacket} {discardSeg : Bool} (hmore : t.pktNum < lepPktsPerSeg)
    (hdata : pkt.isDiscard = false) (hnum : pkt.packetNum = t.pktNum)
    (hat : t.pktNum = 20 → pkt.ttt = if discardSeg then 0 else t.seg)
    (helse : t.pktNum ≠ 20 → discardSeg = t.discardSeg) :
    ∃ buf, t.vospiBuf.memcpy (((t.seg - 1) * lepPktsPerSeg + t.pktNum) * lepPktData) pkt
        lepPktHeader lepPktData = some buf
      ∧ PartialFrame segments (current ++ [pkt])
          { t with discardSeg := discardSeg, vospiBuf := buf, pktNum := t.pktNum + 1 }
          (attempt ++ [pkt]) := by
  have hpos := h.pos
  have hframe := h.inFrame
  have hlength := h.length
  have hroom : ((t.seg - 1) * lepPktsPerSeg + t.pktNum) * lepPktData + lepPktData
      ≤ lepFrameSize := by
    unfold lepSegsPerFrame lepPktsPerSeg lepPktData lepFrameSize at *
    omega
  obtain ⟨buf, hbuf⟩ := t.vospiBuf.memcpy_of_le _ pkt lepPktHeader lepPktData hroom (by decide)
  have hcurrent := congrArg List.length h.inOrder
  rw [List.length_map, List.length_range] at hcurrent
  have hpackets : segmentPackets (current ++ [pkt]) = segmentPackets current ++ [pkt] := by
    rw [segmentPackets_append, segmentPackets_data hdata]
  refine ⟨buf, hbuf, ?_⟩
  constructor
  · rw [h.read, List.append_assoc]
  · exact h.whole
  · exact hpos
  · exact hframe
  · exact h.numbers
  · rw [hpackets, List.map_append, h.inOrder, List.range_succ, List.map_singleton, hnum]
  · intro hle
    have hle' : t.pktNum + 1 ≤ 20 := hle
    show discardSeg = false
    rw [helse (by omega)]
    exact h.unnumbered (by omega)
  · intro hlt
    have hlt' : 20 < t.pktNum + 1 := hlt
    show segmentNumber _ = if discardSeg then 0 else t.seg
    unfold segmentNumber
    rw [hpackets]
    by_cases heq : t.pktNum = 20
    · rw [← heq, ← hcurrent, List.getElem?_concat_length]
      exact hat heq
    · rw [List.getElem?_append_left (by omega), helse heq]
      exact h.number (by omega)
  intro j hj
  have hj' : j < ((t.seg - 1) * lepPktsPerSeg + (t.pktNum + 1)) * lepPktData := hj
  show buf.read j = _
  have hold := h.data j
  rw [hpackets, ← List.append_assoc]
  generalize framePackets segments ++ segmentPackets current = packets at hlength hold ⊢
  by_cases hlt : j < ((t.seg - 1) * lepPktsPerSeg + t.pktNum) * lepPktData
  · rw [CArray.read_memcpy_of_lt hbuf hlt, hold hlt,
      dataOctet_append_left (by rw [hlength]; exact hlt)]
  have hhigh : j < ((t.seg - 1) * lepPktsPerSeg + t.pktNum) * lepPktData + lepPktData := by
    unfold lepPktData lepPktsPerSeg at *
    omega
  rw [CArray.read_memcpy hbuf (Nat.le_of_not_lt hlt) hhigh,
    dataOctet_append_last (by rw [hlength]; omega) (by rw [hlength]; exact hhigh), hlength]

theorem PartialFrame.wholeSegment (hend : t.pktNum = lepPktsPerSeg) : WholeSegment current := by
  unfold WholeSegment
  rw [h.inOrder, hend]

theorem PartialFrame.again (hend : t.pktNum = lepPktsPerSeg) (hnumber : segmentNumber current = 0) :
    PartialFrame (segments ++ [current]) [] { t with pktNum := 0, discardSeg := false } attempt := by
  obtain ⟨hvalid, hpackets⟩ := @framePackets_invalid segments current hnumber
  have hlength := h.length
  have hcurrent := (h.wholeSegment hend).length
  constructor
  · rw [h.read, List.flatten_concat, List.append_nil]
  · intro segment hsegment
    rcases List.mem_append.mp hsegment with hsegment | hsegment
    · exact h.whole segment hsegment
    · rw [List.mem_singleton.mp hsegment]
      exact h.wholeSegment hend
  · exact h.pos
  · exact h.inFrame
  · rw [hvalid]
    exact h.numbers
  · rfl
  · exact fun _ => rfl
  · exact fun hlt => absurd hlt (Nat.not_lt_zero 20)
  intro j hj
  have hj' : j < ((t.seg - 1) * lepPktsPerSeg + 0) * lepPktData := hj
  rw [List.length_append, hcurrent] at hlength
  have hframe : (framePackets segments).length = (t.seg - 1) * lepPktsPerSeg := by omega
  show t.vospiBuf.read j = dataOctet (framePackets (segments ++ [current]) ++ []) j
  rw [hpackets, List.append_nil, h.data j ?_, dataOctet_append_left (by rw [hframe]; exact hj')]
  exact Nat.lt_of_lt_of_le hj' (Nat.mul_le_mul_right _ (by omega))

theorem PartialFrame.next (hend : t.pktNum = lepPktsPerSeg)
    (hnumber : segmentNumber current = t.seg) :
    (∀ segment ∈ segments ++ [current], WholeSegment segment)
      ∧ (validSegments (segments ++ [current])).map segmentNumber = List.range' 1 t.seg
      ∧ framePackets (segments ++ [current])
        = framePackets segments ++ segmentPackets current := by
  have hpos := h.pos
  obtain ⟨hvalid, hpackets⟩ :=
    @framePackets_valid segments current (by omega)
  refine ⟨fun segment hsegment => ?_, ?_, hpackets⟩
  · rcases List.mem_append.mp hsegment with hsegment | hsegment
    · exact h.whole segment hsegment
    · rw [List.mem_singleton.mp hsegment]
      exact h.wholeSegment hend
  have hseg : t.seg = t.seg - 1 + 1 := by omega
  rw [hvalid, List.map_append, h.numbers, List.map_singleton, hnumber]
  conv_rhs => rw [hseg, List.range'_1_concat]
  rw [show 1 + (t.seg - 1) = t.seg by omega]

theorem PartialFrame.segmentEnd (hend : t.pktNum = lepPktsPerSeg) (frameMutexFree : Bool) :
    (∃ segments' t', t.segmentEnd frameMutexFree = (t', .reading)
        ∧ PartialFrame segments' [] t' attempt ∧ t'.pktNum = 0 ∧ SameFrame t t')
      ∨ (t.segmentEnd frameMutexFree
            = (t.frameComplete frameMutexFree, .complete frameMutexFree)
          ∧ WholeFrame ⟨attempt, LeptonTask.pixel t.vospiBuf⟩) := by
  have hpos := h.pos
  have hframe := h.inFrame
  have hnumber := h.number (by rw [hend]; decide)
  cases hdiscard : t.discardSeg with
  | true =>
    rw [hdiscard, if_pos rfl] at hnumber
    have hagain := h.again hend hnumber
    have hgoes : t.segmentEnd frameMutexFree
        = ({ t with pktNum := 0, discardSeg := false }, .reading) := by
      unfold LeptonTask.segmentEnd
      rw [hdiscard, if_pos rfl]
      dsimp only
      rw [Nat.sub_add_cancel hpos, if_pos hframe]
    exact Or.inl ⟨_, _, hgoes, hagain, rfl, rfl, rfl⟩
  | false =>
    rw [hdiscard, if_neg (by simp)] at hnumber
    obtain ⟨hwhole, hnumbers, hpackets⟩ := h.next hend hnumber
    have hread : attempt = (segments ++ [current]).flatten := by
      rw [List.flatten_concat]
      exact h.read
    by_cases hmore : t.seg + 1 ≤ lepSegsPerFrame
    · have hgoes : t.segmentEnd frameMutexFree
          = ({ t with seg := t.seg + 1, pktNum := 0, discardSeg := false }, .reading) := by
        unfold LeptonTask.segmentEnd
        rw [hdiscard]
        exact if_pos hmore
      refine Or.inl ⟨segments ++ [current], _, hgoes, ?_, rfl, rfl, rfl⟩
      constructor
      · rw [List.append_nil]
        exact hread
      · exact hwhole
      · exact Nat.succ_le_succ (Nat.zero_le _)
      · exact hmore
      · exact hnumbers
      · rfl
      · exact fun _ => rfl
      · exact fun hlt => absurd hlt (Nat.not_lt_zero 20)
      intro j hj
      have hj' : j < (t.seg * lepPktsPerSeg + 0) * lepPktData := hj
      show t.vospiBuf.read j = dataOctet (framePackets (segments ++ [current]) ++ []) j
      rw [hpackets, List.append_nil]
      apply h.data j
      rw [hend, ← Nat.succ_mul, Nat.succ_eq_add_one, Nat.sub_add_cancel hpos]
      exact hj'
    have hlast : t.seg = lepSegsPerFrame := by omega
    refine Or.inr ⟨?_, segments ++ [current], ?_⟩
    · unfold LeptonTask.segmentEnd
      rw [hdiscard]
      exact if_neg hmore
    have hlength := h.length
    rw [hlast, hend] at hlength
    constructor
    · exact hread
    · exact hwhole
    · rw [hnumbers, hlast]
      rfl
    · rw [hpackets, hlength]
      rfl
    intro p
    rw [hpackets]
    apply dataPixel_eq
    intro j hj
    apply h.data j
    rw [hlast, hend]
    exact hj

end Steps

/-! ## Reads -/

/-- What a read makes of the task, with `attempt` read up to now. -/
def Received (t : LeptonTask) (attempt : List VospiPacket) (t' : LeptonTask) :
    AttemptOutcome → Prop
  | .reading => (∃ segments current, PartialFrame segments current t' attempt) ∧ SameFrame t t'
  | .abandoned => PartialFrame [] [] t' [] ∧ SameFrame t t'
  | .complete false => PartialFrame [] [] t' [] ∧ SameFrame t t'
  | .complete true =>
    PartialFrame [] [] t' [] ∧ WholeFrame ⟨attempt, t'.frameBuf⟩ ∧ t'.frameValid = true

theorem received_failed (t : LeptonTask) (synced : Bool) (n : U32) (attempt : List VospiPacket) :
    Received t attempt { t with synced := synced, discardCount := n }.frameFailed .abandoned := by
  refine ⟨partialFrame_failed _, ?_⟩
  unfold LeptonTask.frameFailed
  split <;> exact ⟨rfl, rfl⟩

theorem pktNum_failed (t : LeptonTask) : t.frameFailed.pktNum = 0 := by
  unfold LeptonTask.frameFailed
  split <;> rfl

theorem frameComplete_cases (t : LeptonTask) (frameMutexFree : Bool) :
    PartialFrame [] [] (t.frameComplete frameMutexFree) []
      ∧ (t.frameComplete frameMutexFree).pktNum = 0
      ∧ if frameMutexFree then (t.frameComplete frameMutexFree).frameBuf
            = LeptonTask.pixel t.vospiBuf ∧ (t.frameComplete frameMutexFree).frameValid = true
        else SameFrame t (t.frameComplete frameMutexFree) := by
  cases frameMutexFree with
  | false | true => exact ⟨partialFrame_begin _, rfl, rfl, rfl⟩

section Reads

variable {segments : List (List VospiPacket)} {current attempt : List VospiPacket}
  {t : LeptonTask} (h : PartialFrame segments current t attempt)
  (hmore : t.pktNum < lepPktsPerSeg)

include h hmore

theorem PartialFrame.store {pkt : VospiPacket} {discardSeg : Bool} (frameMutexFree : Bool)
    (hdata : pkt.isDiscard = false) (hnum : pkt.packetNum = t.pktNum)
    (hat : t.pktNum = 20 → pkt.ttt = if discardSeg then 0 else t.seg)
    (helse : t.pktNum ≠ 20 → discardSeg = t.discardSeg) :
    ∃ t' outcome, { t with discardSeg := discardSeg }.storePacket pkt frameMutexFree
        = some (t', outcome)
      ∧ t'.pktNum < lepPktsPerSeg ∧ Received t (attempt ++ [pkt]) t' outcome := by
  obtain ⟨buf, hbuf, hcopied⟩ := h.copy hmore hdata hnum hat helse
  unfold LeptonTask.storePacket
  dsimp only
  rw [hbuf, Option.map_some]
  by_cases hlt : t.pktNum + 1 < lepPktsPerSeg
  · rw [if_pos hlt]
    exact ⟨_, _, rfl, hlt, ⟨_, _, hcopied⟩, rfl, rfl⟩
  rw [if_neg hlt]
  have hend : t.pktNum + 1 = lepPktsPerSeg := by omega
  rcases hcopied.segmentEnd hend frameMutexFree with
    ⟨segments', t', hgoes, hpartial, hzero, hsame⟩ | ⟨hcomplete, hwhole⟩
  · rw [hgoes]
    exact ⟨_, _, rfl, by rw [hzero]; decide, ⟨_, _, hpartial⟩, hsame⟩
  rw [hcomplete]
  obtain ⟨hbegin, hzero, hframe⟩ := frameComplete_cases
    { t with discardSeg := discardSeg, vospiBuf := buf, pktNum := t.pktNum + 1 } frameMutexFree
  refine ⟨_, _, rfl, by rw [hzero]; decide, ?_⟩
  cases frameMutexFree with
  | false => exact ⟨hbegin, hframe⟩
  | true => exact ⟨hbegin, by rw [hframe.1]; exact hwhole, hframe.2⟩

theorem PartialFrame.step (read : SpiRead) :
    ∃ t' outcome, leptonVospiTask t read = some (t', outcome) ∧ t'.pktNum < lepPktsPerSeg
      ∧ Received t (attempt ++ read.result.toList) t' outcome := by
  have hfailed : ∀ (synced : Bool) (n : U32),
      { t with synced := synced, discardCount := n }.frameFailed.pktNum < lepPktsPerSeg := by
    intro synced n
    rw [pktNum_failed]
    decide
  unfold leptonVospiTask
  cases read.result with
  | none => exact ⟨_, _, rfl, hfailed _ _, received_failed t _ _ _⟩
  | some pkt =>
    dsimp only [Option.toList_some]
    unfold LeptonTask.receivePacket
    cases hdiscard : pkt.isDiscard with
    | true =>
      rw [if_pos rfl]
      dsimp only
      by_cases hfirst : t.pktNum = 0 ∧ t.seg = 1
      · rw [if_pos hfirst]
        exact ⟨_, _, rfl, hfailed _ _, received_failed t _ _ _⟩
      · rw [if_neg hfirst]
        exact ⟨_, _, rfl, hmore, ⟨_, _, h.discard hdiscard _⟩, rfl, rfl⟩
    | false =>
      rw [if_neg (by simp)]
      by_cases hnum : pkt.packetNum = t.pktNum
      · rw [if_neg (not_not_intro hnum)]
        by_cases hat : t.pktNum = 20
        · rw [if_pos hat]
          -- The packet 20 has the number of the segment.
          have hunnumbered := h.unnumbered (Nat.le_of_eq hat)
          by_cases hzero : pkt.ttt = 0
          · rw [if_pos hzero]
            exact h.store hmore _ hdiscard hnum (fun _ => hzero) fun hne => absurd hat hne
          rw [if_neg hzero]
          by_cases hseg : pkt.ttt = t.seg
          · rw [if_neg (not_not_intro hseg)]
            refine h.store hmore _ hdiscard hnum (fun _ => ?_) fun _ => rfl
            rw [hunnumbered, if_neg (by simp)]
            exact hseg
          · rw [if_pos hseg]
            exact ⟨_, _, rfl, hfailed _ _, received_failed t _ _ _⟩
        · rw [if_neg hat]
          exact h.store hmore _ hdiscard hnum (fun heq => absurd heq hat) fun _ => rfl
      · rw [if_pos hnum]
        exact ⟨_, _, rfl, hfailed _ _, received_failed t _ _ _⟩

end Reads

/-! ## Runs -/

/-- The task is in the middle of an attempt, what has been published are whole frames, and
`frame_buf` has one of them as soon as it is valid. -/
structure FramesWhole (r : ThermalRun) : Prop where
  attempt : ∃ segments current, PartialFrame segments current r.task r.attempt
  more : r.task.pktNum < lepPktsPerSeg
  published : ∀ f ∈ r.published, WholeFrame f
  latest : r.task.frameValid = true → ∃ f ∈ r.published, f.frame = r.task.frameBuf

theorem framesWhole_init : FramesWhole ThermalRun.init where
  attempt := ⟨[], [], partialFrame_begin LeptonTask.init⟩
  more := by decide
  published := fun _ hf => absurd hf List.not_mem_nil
  latest := fun hvalid => absurd hvalid (by decide)

theorem FramesWhole.step {r : ThermalRun} (h : FramesWhole r) (read : SpiRead) :
    ∃ r', thermalStep r read = some r' ∧ FramesWhole r' := by
  obtain ⟨segments, current, hpartial⟩ := h.attempt
  obtain ⟨t', outcome, hstep, hmore, hreceived⟩ := hpartial.step h.more read
  have hkept : SameFrame r.task t' → t'.frameValid = true →
      ∃ f ∈ r.published, f.frame = t'.frameBuf := by
    rintro ⟨hbuf, hvalid⟩ hnow
    rw [hbuf]
    exact h.latest (hvalid ▸ hnow)
  unfold thermalStep
  rw [hstep]
  match outcome, hreceived with
  | .reading, ⟨hmiddle, hsame⟩ => exact ⟨_, rfl, hmiddle, hmore, h.published, hkept hsame⟩
  | .abandoned, ⟨hbegin, hsame⟩ =>
    exact ⟨_, rfl, ⟨_, _, hbegin⟩, hmore, h.published, hkept hsame⟩
  | .complete false, ⟨hbegin, hsame⟩ =>
    exact ⟨_, rfl, ⟨_, _, hbegin⟩, hmore, h.published, hkept hsame⟩
  | .complete true, ⟨hbegin, hwhole, _⟩ =>
    refine ⟨_, rfl, ⟨_, _, hbegin⟩, hmore, fun f hf => ?_, fun _ => ?_⟩
    · rcases List.mem_cons.mp hf with rfl | hf
      · exact hwhole
      · exact h.published f hf
    · exact ⟨_, List.mem_cons_self, rfl⟩

/-- However the packets come, no copy is outside the buffer, and every published frame is the
data of the segments 1 to 4 that its attempt has read. -/
theorem published_frames_are_whole (reads : List SpiRead) :
    ∃ r, runFrom thermalStep ThermalRun.init reads = some r
      ∧ (∀ f ∈ r.published, WholeFrame f)
      ∧ (r.task.frameValid = true → ∃ f ∈ r.published, f.frame = r.task.frameBuf) := by
  have hrun : ∀ {r : ThermalRun} (reads : List SpiRead), FramesWhole r →
      ∃ r', runFrom thermalStep r reads = some r' ∧ FramesWhole r' := by
    intro r reads h
    induction reads generalizing r with
    | nil => exact ⟨r, rfl, h⟩
    | cons read reads ih =>
      obtain ⟨r₁, hstep, h₁⟩ := h.step read
      obtain ⟨r', hrest, h'⟩ := ih h₁
      refine ⟨r', ?_, h'⟩
      rw [runFrom, hstep]
      exact hrest
  obtain ⟨r, hreads, h⟩ := hrun reads framesWhole_init
  exact ⟨r, hreads, h.published, h.latest⟩

/-! ## Frames without errors -/

/-- The run is about to read the packet `n` of a frame, of which it has read `packets`. -/
structure AtPacket (n : Nat) (packets : List VospiPacket) (published : List Published)
    (r : ThermalRun) : Prop where
  whole : FramesWhole r
  seg : r.task.seg = n / lepPktsPerSeg + 1
  pktNum : r.task.pktNum = n % lepPktsPerSeg
  valid : r.task.discardSeg = false
  attempt : r.attempt = packets
  published : r.published = published

/-- The packet `n` of a frame: it is in its place, and the packet 20 has the number of its
segment. -/
structure CleanPacket (n : Nat) (pkt : VospiPacket) : Prop where
  data : pkt.isDiscard = false
  num : pkt.packetNum = n % lepPktsPerSeg
  number : n % lepPktsPerSeg = 20 → pkt.ttt = n / lepPktsPerSeg + 1

section Clean

variable {n : Nat} {packets : List VospiPacket} {published : List Published} {r : ThermalRun}
  (h : AtPacket n packets published r) {pkt : VospiPacket} (hclean : CleanPacket n pkt)

include h hclean

end Clean

end MmIotEsp32.HeliFc.Thermal
