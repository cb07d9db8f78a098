/-
  MmIotEsp32.HeliFc.Comm.MjpegStream

  The MJPEG stream of `comm/camera_h264.c`.
-/
import Mathlib.Data.Nat.Digits.Lemmas
import MmIotEsp32.HeliFc.Drivers.GpsNmea
import MmIotEsp32.Lib.CArray
import MmIotEsp32.Lib.Transition

namespace MmIotEsp32.HeliFc.Mjpeg

open Lib Function

/-! ## A part -/

def usbCamMaxFrame : Nat := 102400

abbrev numBufs : Nat := 2

abbrev FrameBuf := CArray usbCamMaxFrame U8

def streamBoundary : List U8 := asciiText "\r\n--esp32p4-halow-boundary\r\n"

/-- `%u`. -/
def decimal (n : Nat) : List U8 :=
  if n = 0 then asciiText "0" else (Nat.digits 10 n).reverse.map fun d => BitVec.ofNat 8 (48 + d)

/-- `part_hdr`, as `snprintf` writes it. -/
def partHdr (sendLen : Nat) : List U8 :=
  streamBoundary ++ asciiText "Content-Type: image/jpeg\r\nContent-Length: " ++ decimal sendLen
    ++ asciiText "\r\n\r\n"

/-- The part in `send_buf`, with the octets that `httpd_resp_send_chunk` is given; `none` is an
access that is not inside `send_buf`. -/
def buildPart (sendBuf : FrameBuf) (sendLen : Nat) : Option (FrameBuf × List U8) :=
  let hdr := partHdr sendLen
  (sendBuf.memcpy hdr.length sendBuf 0 sendLen).bind fun sendBuf =>
    (sendBuf.writeAll 0 hdr).bind fun sendBuf =>
      (sendBuf.slice 0 (hdr.length + sendLen)).map fun part => (sendBuf, part)

/-! ## The tasks -/

/-- A task that takes `jpeg_mutex`. -/
inductive CamTask
  | callback
  | client (i : Nat)
  deriving DecidableEq

/-- Where `uvc_frame_callback` is: outside, in front of the `memcpy`, behind it, or in front of
the signal. -/
inductive CallbackPc
  | idle
  | copying (data : List U8)
  | storing (data : List U8)
  | signalling

/-- Where `mjpeg_stream_handler` is: at the top of its loop, waiting for a frame, waiting for
the mutex, about to look at the latest frame, to copy it, to give the mutex, or to build the
part.  The frame whose octets it copies is recorded beside their number. -/
inductive ClientPc
  | top
  | waiting
  | locking
  | copying
  | filling (sendLen : Nat) (rdIdx : Fin numBufs) (frame : List U8)
  | giving (sendLen : Nat) (frame : List U8)
  | building (sendLen : Nat) (frame : List U8)

structure MjpegClient where
  pc : ClientPc
  sendBuf : FrameBuf

/-- `s_cam` and its tasks, with the frames that were delivered, those whose octets the buffers
hold, and the parts that were sent. -/
structure MjpegRun where
  available : Bool
  jpegBuf : Fin numBufs → FrameBuf
  jpegSize : Fin numBufs → Nat
  jpegWriteIdx : Fin numBufs
  jpegReadIdx : Fin numBufs
  frameReady : Nat
  jpegMutex : Option CamTask
  callback : CallbackPc
  clients : Nat → Option MjpegClient
  held : Fin numBufs → List U8
  delivered : List (List U8)
  sent : List (List U8)

def MjpegRun.init : MjpegRun where
  available := false
  jpegBuf := fun _ _ => 0
  jpegSize := fun _ => 0
  jpegWriteIdx := ⟨0, by decide⟩
  jpegReadIdx := ⟨0, by decide⟩
  frameReady := 0
  jpegMutex := none
  callback := .idle
  clients := fun _ => none
  held := fun _ => []
  delivered := []
  sent := []

/-- What happens next: the camera comes or goes, it delivers a frame, the callback goes on, a
client connects with what `malloc` gives it, or its handler goes on; `ok` says whether the call
that it makes succeeds in time. -/
inductive MjpegEvent
  | camera (available : Bool)
  | frame (data : List U8)
  | callback
  | connect (i : Nat) (sendBuf : FrameBuf)
  | client (i : Nat) (ok : Bool)

scoped instance neZero2 : NeZero 2 := ⟨by decide⟩

namespace MjpegRun

def copyLen (data : List U8) : Nat :=
  if data.length < usbCamMaxFrame then data.length else usbCamMaxFrame

/-- `uvc_frame_callback`, up to the mutex; a frame that comes while a client has it is
dropped. -/
def uvcFrameCallback (s : MjpegRun) (data : List U8) : MjpegRun :=
  match s.callback with
  | .idle =>
    if data.length = 0 then s
    else if s.jpegMutex = none then
      { s with
        delivered := data :: s.delivered
        jpegMutex := some .callback
        callback := .copying data }
    else { s with delivered := data :: s.delivered }
  | _ => s

/-- The rest of `uvc_frame_callback`, one step. -/
def callbackStep (s : MjpegRun) : Option MjpegRun :=
  match s.callback with
  | .idle => some s
  | .copying data =>
    ((s.jpegBuf s.jpegWriteIdx).writeAll 0 (data.take (copyLen data))).map fun buf =>
      { s with
        jpegBuf := update s.jpegBuf s.jpegWriteIdx buf
        callback := .storing data }
  | .storing data =>
    some
      { s with
        jpegSize := update s.jpegSize s.jpegWriteIdx (copyLen data)
        held := update s.held s.jpegWriteIdx data
        jpegWriteIdx := s.jpegWriteIdx + 1
        jpegReadIdx := s.jpegWriteIdx
        jpegMutex := none
        callback := .signalling }
  | .signalling =>
    some { s with frameReady := min (s.frameReady + 1) numBufs, callback := .idle }

/-- The handler of the client goes on with `c`, or returns. -/
def setClient (s : MjpegRun) (i : Nat) (c : Option MjpegClient) : MjpegRun :=
  { s with clients := update s.clients i c }

/-- `mjpeg_stream_handler`, one step. -/
def mjpegStreamHandler (s : MjpegRun) (i : Nat) (c : MjpegClient) (ok : Bool) : Option MjpegRun :=
  match c.pc with
  | .top =>
    if s.available then some (s.setClient i (some { c with pc := .waiting }))
    else some (s.setClient i none)
  | .waiting =>
    if 0 < s.frameReady then
      some ({ s with frameReady := s.frameReady - 1 }.setClient i
        (some { c with pc := .locking }))
    else if ok then some s
    else some (s.setClient i (some { c with pc := .top }))
  | .locking =>
    if s.jpegMutex = none then
      some ({ s with jpegMutex := some (.client i) }.setClient i
        (some { c with pc := .copying }))
    else if ok then some s
    else some (s.setClient i (some { c with pc := .top }))
  | .copying =>
    let rdIdx := s.jpegReadIdx
    let sendLen := s.jpegSize rdIdx
    if 0 < sendLen ∧ sendLen ≤ usbCamMaxFrame then
      some (s.setClient i (some { c with pc := .filling sendLen rdIdx (s.held rdIdx) }))
    else some (s.setClient i (some { c with pc := .giving sendLen [] }))
  | .filling sendLen rdIdx frame =>
    (c.sendBuf.memcpy 0 (s.jpegBuf rdIdx) 0 sendLen).map fun sendBuf =>
      s.setClient i (some ⟨.giving sendLen frame, sendBuf⟩)
  | .giving sendLen frame =>
    some ({ s with jpegMutex := none }.setClient i
      (some { c with pc := if sendLen = 0 then .top else .building sendLen frame }))
  | .building sendLen _ =>
    (buildPart c.sendBuf sendLen).map fun (sendBuf, part) =>
      { s with sent := part :: s.sent }.setClient i (if ok then some ⟨.top, sendBuf⟩ else none)

end MjpegRun

def mjpegStep (s : MjpegRun) : MjpegEvent → Option MjpegRun
  | .camera available => some { s with available := available }
  | .frame data => some (s.uvcFrameCallback data)
  | .callback => s.callbackStep
  | .connect i sendBuf =>
    match s.clients i with
    | none => some (s.setClient i (some ⟨.top, sendBuf⟩))
    | some _ => some s
  | .client i ok =>
    match s.clients i with
    | none => some s
    | some c => s.mjpegStreamHandler i c ok

/-- Every part that was sent is a header, which names the length, and one delivered frame. -/
def PartsWhole (s : MjpegRun) : Prop :=
  ∀ part ∈ s.sent, part.length ≤ usbCamMaxFrame
    ∧ ∃ frame ∈ s.delivered, part = partHdr frame.length ++ frame

/-- The longest frame that fits behind its header. -/
def maxPartFrame : Nat := 102320

/-- A client that builds a part has copied a frame that fits behind its header. -/
def PartFits (s : MjpegRun) : MjpegEvent → Prop
  | .client i _ => ∀ c, s.clients i = some c → ∀ sendLen frame,
      c.pc = .building sendLen frame → frame.length ≤ maxPartFrame
  | _ => True

/-! ## The header -/

variable {n : Nat}

theorem length_partHdr (hpos : n ≠ 0) : (partHdr n).length = 74 + (Nat.digits 10 n).length := by
  have hboundary : streamBoundary.length = 28 := by decide
  have htype : (asciiText "Content-Type: image/jpeg\r\nContent-Length: ").length = 42 := by decide
  have hend : (asciiText "\r\n\r\n").length = 4 := by decide
  unfold partHdr decimal
  rw [if_neg hpos, List.length_append, List.length_append, List.length_append, hboundary, htype,
    hend, List.length_map, List.length_reverse]
  omega

theorem length_partHdr_lt (hpos : n ≠ 0) (hle : n ≤ usbCamMaxFrame) : (partHdr n).length ≤ 80 := by
  have hdigits : (Nat.digits 10 n).length ≤ 6 := by
    apply (Nat.digits_length_le_iff (by decide) n).mpr
    unfold usbCamMaxFrame at hle
    omega
  rw [length_partHdr hpos]
  omega

theorem part_fits_iff (frame : List U8) (hpos : frame.length ≠ 0) :
    (partHdr (MjpegRun.copyLen frame)).length + MjpegRun.copyLen frame ≤ usbCamMaxFrame
      ↔ frame.length ≤ maxPartFrame := by
  have hcopy : MjpegRun.copyLen frame = min frame.length usbCamMaxFrame := by
    unfold MjpegRun.copyLen
    split <;> omega
  have hsix : MjpegRun.copyLen frame < 100000 ∨ 6 ≤ (Nat.digits 10 (MjpegRun.copyLen frame)).length := by
    by_contra hnot
    rw [not_or] at hnot
    have hlt := (Nat.digits_length_le_iff (b := 10) (k := 5) (by decide)
      (MjpegRun.copyLen frame)).mp (by omega)
    omega
  have hshort := length_partHdr_lt (n := MjpegRun.copyLen frame)
  rw [length_partHdr (by unfold usbCamMaxFrame at hcopy; omega)] at hshort ⊢
  unfold usbCamMaxFrame at hcopy hshort ⊢
  unfold maxPartFrame
  omega

theorem buildPart_isSome_iff (sendBuf : FrameBuf) (hpos : n ≠ 0) (hle : n ≤ usbCamMaxFrame) :
    (buildPart sendBuf n).isSome ↔ (partHdr n).length + n ≤ usbCamMaxFrame := by
  have hhdr := length_partHdr hpos
  constructor
  · intro hsome
    obtain ⟨built, hbuilt⟩ := Option.isSome_iff_exists.mp hsome
    obtain ⟨moved, hmoved, -⟩ := Option.bind_eq_some_iff.mp hbuilt
    have hinside := (CArray.memcpy_isSome_iff _ _ _ _ _).mp (Option.isSome_of_eq_some hmoved)
    omega
  intro hfits
  obtain ⟨moved, hmoved⟩ := sendBuf.memcpy_of_le (partHdr n).length sendBuf 0 n hfits (by omega)
  obtain ⟨built, hbuilt⟩ := @CArray.writeAll_of_le _ _ moved 0 (partHdr n) (by omega)
  unfold buildPart
  dsimp only
  rw [hmoved, Option.bind_some, hbuilt, Option.bind_some, CArray.slice_of_le _ (by omega)]
  rfl

theorem buildPart_eq {sendBuf built : FrameBuf} {part bytes : List U8}
    (hbytes : bytes.length = n) (hread : ∀ j < n, sendBuf.read j = bytes[j]?)
    (h : buildPart sendBuf n = some (built, part)) : part = partHdr n ++ bytes := by
  obtain ⟨moved, hmoved, h⟩ := Option.bind_eq_some_iff.mp h
  obtain ⟨headed, hheaded, h⟩ := Option.bind_eq_some_iff.mp h
  obtain ⟨xs, hslice, hpart⟩ := Option.map_eq_some_iff.mp h
  obtain rfl : xs = part := congrArg Prod.snd hpart
  have hlength := CArray.length_slice hslice
  apply List.ext_getElem?
  intro k
  by_cases hk : k < (partHdr n).length + n
  · rw [CArray.getElem?_slice hslice hk, Nat.zero_add, CArray.read_writeAll hheaded]
    by_cases hhdr : k < (partHdr n).length
    · rw [if_pos ⟨Nat.zero_le k, by omega⟩, List.getElem?_append_left hhdr]
      rfl
    · rw [if_neg (by omega), CArray.read_memcpy hmoved (by omega) hk, Nat.zero_add,
        hread _ (by omega), List.getElem?_append_right (by omega)]
  · rw [List.getElem?_eq_none (by omega), List.getElem?_eq_none]
    rw [List.length_append]
    omega

/-! ## What the tasks hold -/

/-- The first `n` octets of the buffer are what was stored of the frame, which was delivered
unless there is none. -/
structure Holds (buf : FrameBuf) (n : Nat) (frame : List U8) (delivered : List (List U8)) :
    Prop where
  size : n = MjpegRun.copyLen frame
  read : ∀ j < n, buf.read j = frame[j]?
  mem : n ≠ 0 → frame ∈ delivered

theorem Holds.mono {buf : FrameBuf} {frame : List U8} {l l' : List (List U8)}
    (h : Holds buf n frame l) (hsub : l ⊆ l') : Holds buf n frame l' :=
  ⟨h.size, h.read, fun hn => hsub (h.mem hn)⟩

theorem copyLen_le (frame : List U8) :
    MjpegRun.copyLen frame ≤ usbCamMaxFrame ∧ MjpegRun.copyLen frame ≤ frame.length := by
  unfold MjpegRun.copyLen
  split <;> omega

/-- The buffers hold frames, and while the callback has the mutex it writes into one of them. -/
def CallbackOk (s : MjpegRun) : Prop :=
  match s.callback with
  | .idle | .signalling => ∀ k, Holds (s.jpegBuf k) (s.jpegSize k) (s.held k) s.delivered
  | .copying data =>
    s.jpegMutex = some .callback ∧ data ∈ s.delivered
      ∧ ∀ k, Holds (s.jpegBuf k) (s.jpegSize k) (s.held k) s.delivered
  | .storing data =>
    s.jpegMutex = some .callback
      ∧ Holds (s.jpegBuf s.jpegWriteIdx) (MjpegRun.copyLen data) data s.delivered
      ∧ ∀ k, k ≠ s.jpegWriteIdx → Holds (s.jpegBuf k) (s.jpegSize k) (s.held k) s.delivered

/-- A client that looks at the buffers has the mutex, and what it has copied is a frame. -/
def ClientOk (s : MjpegRun) (i : Nat) (c : MjpegClient) : Prop :=
  match c.pc with
  | .top | .waiting | .locking => True
  | .copying => s.jpegMutex = some (.client i)
  | .filling sendLen rdIdx frame =>
    s.jpegMutex = some (.client i) ∧ sendLen ≠ 0 ∧ sendLen = s.jpegSize rdIdx
      ∧ frame = s.held rdIdx
  | .giving sendLen frame =>
    s.jpegMutex = some (.client i)
      ∧ (sendLen ≠ 0 → Holds c.sendBuf sendLen frame s.delivered)
  | .building sendLen frame => sendLen ≠ 0 ∧ Holds c.sendBuf sendLen frame s.delivered

/-- The invariant. -/
structure StreamInv (s : MjpegRun) : Prop where
  callback : CallbackOk s
  clients : ∀ i c, s.clients i = some c → ClientOk s i c
  parts : PartsWhole s

theorem streamInv_init : StreamInv MjpegRun.init where
  callback := fun _ => ⟨rfl, fun j hj => absurd hj (Nat.not_lt_zero j), fun h => absurd rfl h⟩
  clients := fun _ _ h => by cases h
  parts := fun _ h => absurd h List.not_mem_nil

variable {s : MjpegRun}

theorem CallbackOk.holds (h : CallbackOk s) {i : Nat}
    (hmutex : s.jpegMutex = some (.client i)) (k : Fin numBufs) :
    Holds (s.jpegBuf k) (s.jpegSize k) (s.held k) s.delivered := by
  unfold CallbackOk at h
  split at h
  · exact h k
  · exact h k
  · rw [hmutex] at h
    cases h.1
  · rw [hmutex] at h
    cases h.1

theorem CallbackOk.frame {s s' : MjpegRun} (h : CallbackOk s) (hpc : s'.callback = s.callback)
    (hbuf : s'.jpegBuf = s.jpegBuf) (hsize : s'.jpegSize = s.jpegSize) (hheld : s'.held = s.held)
    (hwrite : s'.jpegWriteIdx = s.jpegWriteIdx) (hsub : s.delivered ⊆ s'.delivered)
    (hmutex : s.jpegMutex = some .callback → s'.jpegMutex = some .callback) : CallbackOk s' := by
  unfold CallbackOk at h ⊢
  rw [hpc, hbuf, hsize, hheld, hwrite]
  split
  · next heq =>
      rw [heq] at h
      exact fun k => (h k).mono hsub
  · next heq =>
      rw [heq] at h
      exact fun k => (h k).mono hsub
  · next heq =>
      rw [heq] at h
      exact ⟨hmutex h.1, hsub h.2.1, fun k => (h.2.2 k).mono hsub⟩
  · next heq =>
      rw [heq] at h
      exact ⟨hmutex h.1, h.2.1.mono hsub, fun k hk => (h.2.2 k hk).mono hsub⟩

theorem ClientOk.frame {s s' : MjpegRun} {i : Nat} {c : MjpegClient} (h : ClientOk s i c)
    (hkeeps : s.jpegMutex = some (.client i) → s'.jpegMutex = some (.client i)
      ∧ s'.jpegSize = s.jpegSize ∧ s'.held = s.held)
    (hsub : s.delivered ⊆ s'.delivered) : ClientOk s' i c := by
  unfold ClientOk at h ⊢
  split
  · trivial
  · trivial
  · trivial
  · next heq =>
      rw [heq] at h
      exact (hkeeps h).1
  · next heq =>
      rw [heq] at h
      obtain ⟨hmutex, hsize, hheld⟩ := hkeeps h.1
      rw [hsize, hheld]
      exact ⟨hmutex, h.2⟩
  · next heq =>
      rw [heq] at h
      exact ⟨(hkeeps h.1).1, fun hn => (h.2 hn).mono hsub⟩
  · next heq =>
      rw [heq] at h
      exact ⟨h.1, h.2.mono hsub⟩

theorem StreamInv.setClient {s s' : MjpegRun} (h : StreamInv s) {i : Nat}
    {c' : Option MjpegClient} (hcallback : CallbackOk s')
    (hothers : ∀ j, j ≠ i → s.jpegMutex = some (.client j) → s'.jpegMutex = some (.client j)
      ∧ s'.jpegSize = s.jpegSize ∧ s'.held = s.held)
    (hsame : s'.clients = s.clients) (hsub : s.delivered ⊆ s'.delivered)
    (hc' : ∀ c, c' = some c → ClientOk s' i c) (hparts : PartsWhole s') :
    StreamInv (s'.setClient i c') := by
  refine ⟨hcallback.frame rfl rfl rfl rfl rfl (List.Subset.refl _) id, fun j c hc => ?_, hparts⟩
  have hnow : update s'.clients i c' j = some c := hc
  by_cases hj : j = i
  · subst hj
    rw [update_self] at hnow
    exact (hc' c hnow).frame (fun hmutex => ⟨hmutex, rfl, rfl⟩) (List.Subset.refl _)
  · rw [update_of_ne hj, hsame] at hnow
    exact (h.clients j c hnow).frame (hothers j hj) hsub

/-! ## Steps -/

theorem StreamInv.frame (h : StreamInv s) (data : List U8) :
    StreamInv (s.uvcFrameCallback data) := by
  have hsub : s.delivered ⊆ data :: s.delivered := List.subset_cons_self ..
  have hparts : ∀ {s' : MjpegRun}, s'.sent = s.sent → s'.delivered = data :: s.delivered →
      PartsWhole s' := by
    intro s' hsent hdelivered part hpart
    rw [hsent] at hpart
    obtain ⟨hlength, frame, hframe, heq⟩ := h.parts part hpart
    exact ⟨hlength, frame, by rw [hdelivered]; exact hsub hframe, heq⟩
  unfold MjpegRun.uvcFrameCallback
  split
  · next hidle =>
      split
      · exact h
      split
      · next hfree =>
          -- The callback takes the mutex, which no client has.
          refine ⟨⟨rfl, List.mem_cons_self, fun k => ?_⟩, fun i c hc => ?_, hparts rfl rfl⟩
          · have hholds := h.callback
            unfold CallbackOk at hholds
            rw [hidle] at hholds
            exact (hholds k).mono hsub
          apply (h.clients i c hc).frame _ hsub
          intro hmutex
          rw [hfree] at hmutex
          cases hmutex
      · refine ⟨h.callback.frame rfl rfl rfl rfl rfl hsub id, fun i c hc => ?_, hparts rfl rfl⟩
        exact (h.clients i c hc).frame (fun hmutex => ⟨hmutex, rfl, rfl⟩) hsub
  · exact h

theorem StreamInv.callbackStep (h : StreamInv s) :
    ∃ s', s.callbackStep = some s' ∧ StreamInv s' := by
  have hcallback := h.callback
  unfold CallbackOk at hcallback
  unfold MjpegRun.callbackStep
  split
  · exact ⟨s, rfl, h⟩
  · next data heq =>
      -- The frame is copied into the buffer that nobody reads.
      rw [heq] at hcallback
      obtain ⟨hmutex, hmem, hholds⟩ := hcallback
      have hcopy := copyLen_le data
      have hlength : (data.take (MjpegRun.copyLen data)).length = MjpegRun.copyLen data := by
        rw [List.length_take]
        omega
      obtain ⟨buf, hbuf⟩ := @CArray.writeAll_of_le _ _ (s.jpegBuf s.jpegWriteIdx) 0
        (data.take (MjpegRun.copyLen data)) (by omega)
      rw [hbuf]
      refine ⟨_, rfl, ⟨hmutex, ?_, fun k hk => ?_⟩, fun i c hc => ?_, h.parts⟩
      · show Holds (update s.jpegBuf s.jpegWriteIdx buf s.jpegWriteIdx) _ _ _
        rw [update_self]
        refine ⟨rfl, fun j hj => ?_, fun _ => hmem⟩
        rw [CArray.read_writeAll hbuf, if_pos ⟨Nat.zero_le j, by omega⟩, Nat.sub_zero,
          List.getElem?_take_of_lt hj]
      · show Holds (update s.jpegBuf s.jpegWriteIdx buf k) _ _ _
        rw [update_of_ne hk]
        exact hholds k
      · exact (h.clients i c hc).frame (fun hmutex => ⟨hmutex, rfl, rfl⟩) (List.Subset.refl _)
  · next data heq =>
      -- The buffer becomes the latest one, and the mutex is given.
      rw [heq] at hcallback
      obtain ⟨hmutex, hnew, hholds⟩ := hcallback
      refine ⟨_, rfl, fun k => ?_, fun i c hc => ?_, h.parts⟩
      · show Holds _ (update s.jpegSize s.jpegWriteIdx (MjpegRun.copyLen data) k)
          (update s.held s.jpegWriteIdx data k) _
        by_cases hk : k = s.jpegWriteIdx
        · rw [hk, update_self, update_self]
          exact hnew
        · rw [update_of_ne hk, update_of_ne hk]
          exact hholds k hk
      · refine (h.clients i c hc).frame (fun hclient => ?_) (List.Subset.refl _)
        rw [hmutex] at hclient
        cases hclient
  next heq =>
    rw [heq] at hcallback
    refine ⟨_, rfl, hcallback, fun i c hc => ?_, h.parts⟩
    exact (h.clients i c hc).frame (fun hmutex => ⟨hmutex, rfl, rfl⟩) (List.Subset.refl _)

theorem StreamInv.handler (h : StreamInv s) {i : Nat} {c : MjpegClient}
    (hc : s.clients i = some c) (ok : Bool) :
    (∀ s', s.mjpegStreamHandler i c ok = some s' → StreamInv s')
      ∧ ((s.mjpegStreamHandler i c ok).isSome ↔ ∀ sendLen frame,
          c.pc = .building sendLen frame → frame.length ≤ maxPartFrame) := by
  have hclient := h.clients i c hc
  have hcallback : ∀ {n : Nat}, CallbackOk { s with frameReady := n } :=
    h.callback.frame rfl rfl rfl rfl rfl (List.Subset.refl _) id
  -- A step that leaves the buffers and the mutex alone.
  have hmoves : ∀ {n : Nat} {c' : Option MjpegClient},
      (∀ c, c' = some c → ClientOk { s with frameReady := n } i c) →
        StreamInv ({ s with frameReady := n }.setClient i c') := by
    intro n c' hc'
    exact h.setClient hcallback (fun _ _ hmutex => ⟨hmutex, rfl, rfl⟩) rfl
      (List.Subset.refl _) hc' h.parts
  have hothers : ∀ {pc : ClientPc}, (∀ n frame, pc ≠ .building n frame) →
      ((∀ sendLen frame, pc = .building sendLen frame → frame.length ≤ maxPartFrame) ↔ True) :=
    fun hne => iff_true_intro fun n frame heq => absurd heq (hne n frame)
  have hsome : ∀ {s' : MjpegRun}, StreamInv s' →
      (∀ s'', some s' = some s'' → StreamInv s'') ∧ ((some s').isSome = true ↔ True) := by
    intro s' h'
    refine ⟨fun s'' hs'' => ?_, iff_of_true rfl trivial⟩
    cases hs''
    exact h'
  unfold MjpegRun.mjpegStreamHandler
  unfold ClientOk at hclient
  split
  · next heq =>
      rw [heq, hothers (fun _ _ h => by cases h)]
      split
      · exact hsome (hmoves fun c hc => Option.some.inj hc ▸ trivial)
      · exact hsome (hmoves fun c hc => by cases hc)
  · next heq =>
      rw [heq, hothers (fun _ _ h => by cases h)]
      split
      · exact hsome (hmoves fun c hc => Option.some.inj hc ▸ trivial)
      · split
        · exact hsome h
        · exact hsome (hmoves fun c hc => Option.some.inj hc ▸ trivial)
  · next heq =>
      rw [heq, hothers (fun _ _ h => by cases h)]
      split
      · next hfree =>
          -- Nobody has the mutex, so nobody loses it.
          refine hsome (@StreamInv.setClient s { s with jpegMutex := some (.client i) } h i _ ?_ ?_ rfl
            (List.Subset.refl _) (fun c hc => Option.some.inj hc ▸ rfl) h.parts)
          · refine h.callback.frame rfl rfl rfl rfl rfl (List.Subset.refl _) fun hmutex => ?_
            rw [hfree] at hmutex
            cases hmutex
          · intro j _ hmutex
            rw [hfree] at hmutex
            cases hmutex
      · split
        · exact hsome h
        · exact hsome (hmoves fun c hc => Option.some.inj hc ▸ trivial)
  · next heq =>
      rw [heq] at hclient
      rw [heq, hothers (fun _ _ h => by cases h)]
      have hholds := h.callback.holds hclient s.jpegReadIdx
      have hsize := (copyLen_le (s.held s.jpegReadIdx)).1
      rw [← hholds.size] at hsize
      dsimp only
      by_cases hpos : s.jpegSize s.jpegReadIdx = 0
      · rw [if_neg (by omega)]
        exact hsome (hmoves fun c hc => Option.some.inj hc ▸ ⟨hclient, fun hne => absurd hpos hne⟩)
      · rw [if_pos ⟨by omega, hsize⟩]
        exact hsome (hmoves fun c hc => Option.some.inj hc ▸ ⟨hclient, hpos, rfl, rfl⟩)
  · next sendLen rdIdx frame heq =>
      rw [heq] at hclient
      rw [heq, hothers (fun _ _ h => by cases h)]
      obtain ⟨hmutex, hpos, hlen, hframe⟩ := hclient
      have hholds := h.callback.holds hmutex rdIdx
      rw [← hlen, ← hframe] at hholds
      have hsize := (copyLen_le frame).1
      rw [← hholds.size] at hsize
      obtain ⟨buf, hbuf⟩ := c.sendBuf.memcpy_of_le 0 (s.jpegBuf rdIdx) 0 sendLen (by omega)
        (by omega)
      rw [hbuf]
      refine hsome (hmoves fun c hc => Option.some.inj hc ▸ ⟨hmutex, fun _ => ?_⟩)
      refine ⟨hholds.size, fun j hj => ?_, hholds.mem⟩
      rw [CArray.read_memcpy hbuf (Nat.zero_le j) (by omega), Nat.zero_add, Nat.sub_zero]
      exact hholds.read j hj
  · next sendLen frame heq =>
      rw [heq] at hclient
      rw [heq, hothers (fun _ _ h => by cases h)]
      obtain ⟨hmutex, hholds⟩ := hclient
      refine hsome (@StreamInv.setClient s { s with jpegMutex := none } h i _ ?_ ?_ rfl
        (List.Subset.refl _) (fun c hc => Option.some.inj hc ▸ ?_) h.parts)
      · refine h.callback.frame rfl rfl rfl rfl rfl (List.Subset.refl _) fun hother => ?_
        rw [hmutex] at hother
        cases hother
      · intro j hj hother
        rw [hmutex] at hother
        cases hother
        exact absurd rfl hj
      unfold ClientOk
      by_cases hzero : sendLen = 0
      · rw [if_pos hzero]
        trivial
      · rw [if_neg hzero]
        exact ⟨hzero, hholds hzero⟩
  next sendLen frame heq =>
    rw [heq] at hclient
    obtain ⟨hpos, hholds⟩ := hclient
    have hcopy := copyLen_le frame
    rw [← hholds.size] at hcopy
    have hfits : (buildPart c.sendBuf sendLen).isSome ↔ frame.length ≤ maxPartFrame := by
      rw [buildPart_isSome_iff _ hpos hcopy.1, hholds.size]
      exact part_fits_iff frame (by omega)
    constructor
    · intro s' hs'
      obtain ⟨⟨built, part⟩, hbuild, rfl⟩ := Option.map_eq_some_iff.mp hs'
      have hshort := hfits.mp (Option.isSome_of_eq_some hbuild)
      have hroom := (buildPart_isSome_iff _ hpos hcopy.1).mp (Option.isSome_of_eq_some hbuild)
      -- The frame was stored as a whole.
      have hwhole : sendLen = frame.length := by
        have hsize := hholds.size
        unfold MjpegRun.copyLen at hsize
        unfold maxPartFrame at hshort
        unfold usbCamMaxFrame at hsize
        split at hsize <;> omega
      have hpart := buildPart_eq hwhole.symm hholds.read hbuild
      refine @StreamInv.setClient s { s with sent := part :: s.sent } h i _ ?_ ?_ rfl
        (List.Subset.refl _) ?_ ?_
      · exact h.callback.frame rfl rfl rfl rfl rfl (List.Subset.refl _) id
      · exact fun _ _ hmutex => ⟨hmutex, rfl, rfl⟩
      · intro c' hc'
        split at hc'
        · exact Option.some.inj hc' ▸ trivial
        · cases hc'
      intro sent hsent
      rcases List.mem_cons.mp hsent with rfl | hsent
      · refine ⟨?_, frame, hholds.mem hpos, by rw [hpart, hwhole]⟩
        rw [hpart, List.length_append, ← hwhole]
        exact hroom
      · exact h.parts sent hsent
    rw [Option.isSome_map, hfits, heq]
    constructor
    · intro hle n f hf
      obtain ⟨-, rfl⟩ := ClientPc.building.inj hf
      exact hle
    · exact fun hall => hall _ _ rfl

theorem StreamInv.step (h : StreamInv s) (e : MjpegEvent) :
    (∀ s', mjpegStep s e = some s' → StreamInv s') ∧ ((mjpegStep s e).isSome ↔ PartFits s e) := by
  have hsome : ∀ {s' : MjpegRun}, StreamInv s' → ∀ s'', some s' = some s'' → StreamInv s'' :=
    fun h' s'' hs'' => Option.some.inj hs'' ▸ h'
  cases e with
  | camera available =>
    exact ⟨hsome ⟨h.callback, h.clients, h.parts⟩, iff_of_true rfl trivial⟩
  | frame data => exact ⟨hsome (h.frame data), iff_of_true rfl trivial⟩
  | callback =>
    obtain ⟨s₁, hstep, h₁⟩ := h.callbackStep
    unfold mjpegStep
    rw [hstep]
    exact ⟨hsome h₁, iff_of_true rfl trivial⟩
  | connect i sendBuf =>
    cases hc : s.clients i with
    | none =>
      have hstep : mjpegStep s (.connect i sendBuf)
          = some (s.setClient i (some ⟨.top, sendBuf⟩)) := by simp only [mjpegStep, hc]
      rw [hstep]
      refine ⟨hsome (h.setClient h.callback ?_ rfl (List.Subset.refl _) ?_ h.parts),
        iff_of_true rfl trivial⟩
      · exact fun _ _ hmutex => ⟨hmutex, rfl, rfl⟩
      · exact fun c hc' => Option.some.inj hc' ▸ trivial
    | some c =>
      have hstep : mjpegStep s (.connect i sendBuf) = some s := by simp only [mjpegStep, hc]
      rw [hstep]
      exact ⟨hsome h, iff_of_true rfl trivial⟩
  | client i ok =>
    cases hc : s.clients i with
    | none =>
      have hstep : mjpegStep s (.client i ok) = some s := by simp only [mjpegStep, hc]
      rw [hstep]
      exact ⟨hsome h, iff_of_true rfl fun c hc' => by rw [hc] at hc'; cases hc'⟩
    | some c =>
      have hstep : mjpegStep s (.client i ok) = s.mjpegStreamHandler i c ok := by
        simp only [mjpegStep, hc]
      obtain ⟨hkeeps, hiff⟩ := h.handler hc ok
      rw [hstep]
      refine ⟨hkeeps, hiff.trans ?_⟩
      constructor
      · intro hall c' hc'
        obtain rfl := Option.some.inj (hc.symm.trans hc')
        exact hall
      · exact fun hall => hall c hc

/-- Every part is whole, and none is built outside its buffer, exactly when every client that
builds one has copied a frame that fits behind its header. -/
theorem mjpeg_parts_whole_iff (events : List MjpegEvent) :
    (Throughout mjpegStep PartsWhole MjpegRun.init events
        ∧ (runFrom mjpegStep MjpegRun.init events).isSome)
      ↔ Along mjpegStep PartFits MjpegRun.init events := by
  have hinv : Throughout mjpegStep StreamInv MjpegRun.init events :=
    throughout_of_invariant (fun s e s' h hs' => (h.step e).1 s' hs') streamInv_init events
  have hcongr : Along mjpegStep (fun s e => (mjpegStep s e).isSome ↔ PartFits s e)
      MjpegRun.init events := hinv.along_of fun s e h => (h.step e).2
  rw [runFrom_isSome_iff_along, hcongr.congr]
  exact ⟨fun h => h.2, fun h => ⟨hinv.mono fun s hs => hs.parts, h⟩⟩

/-- One client, and one frame, up to the building of the part. -/
def oneFrame (data : List U8) : List MjpegEvent :=
  [.camera true, .connect 0 (fun _ => 0), .client 0 true, .frame data, .callback, .callback,
    .callback, .client 0 true, .client 0 true, .client 0 true, .client 0 true, .client 0 true]

theorem oneFrame_builds {data : List U8} (hne : data.length ≠ 0) :
    ∃ s c n, runFrom mjpegStep MjpegRun.init (oneFrame data) = some s ∧ s.clients 0 = some c
      ∧ c.pc = .building n data := by
  have hcopy := copyLen_le data
  have hpos : MjpegRun.copyLen data ≠ 0 := by
    unfold MjpegRun.copyLen usbCamMaxFrame
    split <;> omega
  obtain ⟨stored, hstored⟩ := @CArray.writeAll_of_le _ _ (fun _ => 0#8 : FrameBuf) 0
    (data.take (MjpegRun.copyLen data)) (by rw [List.length_take]; omega)
  obtain ⟨copied, hcopied⟩ := CArray.memcpy_of_le (fun _ => 0#8 : FrameBuf) 0 stored 0
    (MjpegRun.copyLen data) (by omega) (by omega)
  have hrun : (runFrom mjpegStep MjpegRun.init (oneFrame data)).map
      (fun s => (s.clients 0).map MjpegClient.pc)
        = some (some (.building (MjpegRun.copyLen data) data)) := by
    simp [oneFrame, runFrom, mjpegStep, MjpegRun.init, MjpegRun.uvcFrameCallback,
      MjpegRun.callbackStep, MjpegRun.mjpegStreamHandler, MjpegRun.setClient, hne, hstored,
      hcopied, hpos, hcopy.1, Nat.pos_of_ne_zero]
  obtain ⟨s, hs, hpc⟩ := Option.map_eq_some_iff.mp hrun
  obtain ⟨c, hc, hbuilding⟩ := Option.map_eq_some_iff.mp hpc
  exact ⟨s, c, _, hs, hc, hbuilding⟩

/-- A frame of the full size is stored as a whole, and its part ends behind the buffer. -/
theorem mjpeg_part_overflows :
    ¬ (Throughout mjpegStep PartsWhole MjpegRun.init
          (oneFrame (List.replicate usbCamMaxFrame 0) ++ [.client 0 true])
        ∧ (runFrom mjpegStep MjpegRun.init
          (oneFrame (List.replicate usbCamMaxFrame 0) ++ [.client 0 true])).isSome) := by
  rintro ⟨-, hsome⟩
  obtain ⟨s, c, n, hrun, hc, hpc⟩ := @oneFrame_builds (List.replicate usbCamMaxFrame 0)
    (by rw [List.length_replicate]; decide)
  have hinv : Throughout mjpegStep StreamInv MjpegRun.init
      (oneFrame (List.replicate usbCamMaxFrame 0)) :=
    throughout_of_invariant (fun s e s' h hs' => (h.step e).1 s' hs') streamInv_init _
  have hstep := (runFrom_isSome_iff_along.mp hsome).last hrun
  have hfits := ((hinv.of_runFrom hrun).step _).2.mp hstep c hc n _ hpc
  rw [List.length_replicate] at hfits
  exact absurd hfits (by decide)

end MmIotEsp32.HeliFc.Mjpeg
