/-
  MmIotEsp32.Slip.Slip

  Packets over a serial line (`slip/slip.c`).

  The receiver appends the byte behind an escape whether or not a frame has started, and a frame
  that is longer than the buffer is given up without forgetting its length; an END byte then
  completes what was never a frame.  `ClosesStarted` excludes these two.  The sender goes on
  behind a byte that the transport refuses and returns the answer to the last one.
-/
import MmIotEsp32.Common.Mmosal
import MmIotEsp32.Lib.Transition

namespace MmIotEsp32.Slip

open Lib

/-! ## The receiver -/

def slipFrameEnd : U8 := 0xc0
def slipFrameEsc : U8 := 0xdb
def slipFrameEscEnd : U8 := 0xdc
def slipFrameEscEsc : U8 := 0xdd

inductive SlipRxStatus where
  | complete | inProgress | bufferLimit | error
  deriving DecidableEq

/-- `struct slip_rx_state`, with the memory behind `buffer`. -/
structure SlipRxState where
  buffer : List U8
  bufferLength : Nat
  length : Nat
  escape : Bool
  frameStarted : Bool
  deriving DecidableEq

/-- `slip_rx_state_reinit`, and `SLIP_RX_STATE_INIT`. -/
def slipRxStateReinit (buffer : List U8) (bufferLength : Nat) : SlipRxState :=
  ⟨buffer, bufferLength, 0, false, false⟩

/-- `slip_rx_append`; `none` is a write outside the memory of the buffer. -/
def slipRxAppend (state : SlipRxState) (c : U8) : Option (SlipRxState × SlipRxStatus) :=
  if state.length = state.bufferLength then
    some ({ state with frameStarted := false }, .bufferLimit)
  else if state.length < state.buffer.length then
    some ({ state with
      buffer := state.buffer.set state.length c
      length := state.length + 1 }, .inProgress)
  else none

def slipRx (state : SlipRxState) (c : U8) : Option (SlipRxState × SlipRxStatus) :=
  if c = slipFrameEnd then
    if state.escape then
      some (slipRxStateReinit state.buffer state.bufferLength, .error)
    else if 0 < state.length then some (state, .complete)
    else some ({ state with frameStarted := true }, .inProgress)
  else if state.escape then
    if c = slipFrameEscEnd then slipRxAppend { state with escape := false } slipFrameEnd
    else if c = slipFrameEscEsc then slipRxAppend { state with escape := false } slipFrameEsc
    else some (slipRxStateReinit state.buffer state.bufferLength, .error)
  else if c = slipFrameEsc then some ({ state with escape := true }, .inProgress)
  else if state.frameStarted then slipRxAppend state c
  else some (state, .inProgress)

/-- A receiver that is initialised again after each completion: what it was given, and the
packets it has completed. -/
structure SlipReceiver where
  rx : SlipRxState
  heard : List U8
  packets : List (List U8)
  deriving DecidableEq

def slipReceiver (buffer : List U8) : SlipReceiver :=
  ⟨slipRxStateReinit buffer buffer.length, [], []⟩

def SlipReceiver.step (r : SlipReceiver) (c : U8) : Option SlipReceiver :=
  (slipRx r.rx c).map fun (rx, status) =>
    if status = .complete then
      ⟨slipRxStateReinit rx.buffer rx.bufferLength, r.heard ++ [c],
        r.packets ++ [rx.buffer.take rx.length]⟩
    else ⟨rx, r.heard ++ [c], r.packets⟩

/-! ## The sender -/

/-- The bytes given to the transport so far, each with its answer. -/
abbrev SlipCalls := List (U8 × Int)

/-- `transport_tx_fn`: its answer to a byte, after the bytes it was given before. -/
abbrev SlipTransport := List U8 → U8 → Int

def transportTx (answer : SlipTransport) (calls : SlipCalls) (c : U8) : SlipCalls × Int :=
  (calls ++ [(c, answer (calls.map Prod.fst) c)], answer (calls.map Prod.fst) c)

/-- The switch in the loop of `slip_tx`; its `break` leaves the switch only. -/
def slipTxByte (answer : SlipTransport) (calls : SlipCalls) (c : U8) : SlipCalls × Int :=
  if c = slipFrameEsc then
    let (calls, ret) := transportTx answer calls slipFrameEsc
    if ret ≠ 0 then (calls, ret) else transportTx answer calls slipFrameEscEsc
  else if c = slipFrameEnd then
    let (calls, ret) := transportTx answer calls slipFrameEsc
    if ret ≠ 0 then (calls, ret) else transportTx answer calls slipFrameEscEnd
  else transportTx answer calls c

/-- The loop of `slip_tx`. -/
def slipTxLoop (answer : SlipTransport) : SlipCalls × Int → List U8 → SlipCalls × Int
  | st, [] => st
  | st, c :: packet => slipTxLoop answer (slipTxByte answer st.1 c) packet

def slipTx (answer : SlipTransport) (packet : List U8) : SlipCalls × Int :=
  let (calls, _) := transportTx answer [] slipFrameEnd
  let (calls, ret) := slipTxLoop answer (calls, 0) packet
  ((transportTx answer calls slipFrameEnd).1, ret)

/-- What `slip_tx` puts on a line that accepts every byte. -/
def slipWire (packet : List U8) : List U8 := (slipTx (fun _ _ => 0) packet).1.map Prod.fst

/-- The escaped bytes of a packet. -/
def slipEscape (packet : List U8) : List U8 :=
  packet.flatMap fun c =>
    if c = slipFrameEsc then [slipFrameEsc, slipFrameEscEsc]
    else if c = slipFrameEnd then [slipFrameEsc, slipFrameEscEnd]
    else [c]

theorem slipEscape_append (p q : List U8) :
    slipEscape (p ++ q) = slipEscape p ++ slipEscape q := List.flatMap_append

theorem slipTxByte_accepted (calls : SlipCalls) (c : U8) :
    (slipTxByte (fun _ _ => 0) calls c).1.map Prod.fst
      = calls.map Prod.fst ++ slipEscape [c] := by
  unfold slipTxByte slipEscape transportTx
  split_ifs <;> simp_all

theorem slipTxLoop_accepted (st : SlipCalls × Int) (packet : List U8) :
    (slipTxLoop (fun _ _ => 0) st packet).1.map Prod.fst
      = st.1.map Prod.fst ++ slipEscape packet := by
  induction packet generalizing st with
  | nil => simp [slipTxLoop, slipEscape]
  | cons c packet ih =>
    show (slipTxLoop _ (slipTxByte _ st.1 c) packet).1.map Prod.fst = _
    rw [ih, slipTxByte_accepted, List.append_assoc, ← slipEscape_append, List.singleton_append]

theorem slipWire_eq (packet : List U8) :
    slipWire packet = slipFrameEnd :: slipEscape packet ++ [slipFrameEnd] := by
  unfold slipWire slipTx
  show ((slipTxLoop _ ([(slipFrameEnd, 0)], 0) packet).1 ++ [(slipFrameEnd, 0)]).map Prod.fst = _
  rw [List.map_append, slipTxLoop_accepted]
  rfl

/-! ## What was received -/

/-- The bytes heard since the last END byte are the escaped bytes that are in the buffer, as far
as they have come. -/
def Framed (rx : SlipRxState) (heard : List U8) : Prop :=
  ∃ before, heard = before ++ slipFrameEnd :: slipEscape (rx.buffer.take rx.length)
    ++ if rx.escape then [slipFrameEsc] else []

/-- The invariant of the receiver. -/
structure RxInv (r : SlipReceiver) : Prop where
  memory : r.rx.buffer.length = r.rx.bufferLength
  room : r.rx.length ≤ r.rx.bufferLength
  framed : r.rx.frameStarted = true → Framed r.rx r.heard

/-- An END byte comes while a frame is under way, or with nothing received. -/
def ClosesStarted (r : SlipReceiver) (c : U8) : Prop :=
  c = slipFrameEnd → r.rx.escape = false → 0 < r.rx.length → r.rx.frameStarted = true

instance (r : SlipReceiver) (c : U8) : Decidable (ClosesStarted r c) :=
  inferInstanceAs (Decidable (_ → _ → _ → _))

/-- A completion is an END byte that closes the escaped bytes of a packet, begun by an END byte,
and the packet is what the buffer holds. -/
def CompletesRight (r : SlipReceiver) (c : U8) : Prop :=
  ∀ rx, slipRx r.rx c = some (rx, .complete) → c = slipFrameEnd
    ∧ ∃ before packet, r.heard = before ++ slipFrameEnd :: slipEscape packet
      ∧ 1 ≤ packet.length ∧ packet.length ≤ r.rx.bufferLength ∧ rx.buffer.take rx.length = packet

section Append

variable {rx : SlipRxState} {c : U8}

theorem slipRxAppend_full (h : rx.length = rx.bufferLength) :
    slipRxAppend rx c = some ({ rx with frameStarted := false }, .bufferLimit) := if_pos h

theorem slipRxAppend_room (hmemory : rx.buffer.length = rx.bufferLength)
    (h : rx.length < rx.bufferLength) :
    slipRxAppend rx c = some ({ rx with
      buffer := rx.buffer.set rx.length c
      length := rx.length + 1 }, .inProgress) := by
  unfold slipRxAppend
  rw [if_neg (by omega), if_pos (by omega)]

theorem take_set_length {l : List U8} {n : Nat} (h : n < l.length) :
    (l.set n c).take (n + 1) = l.take n ++ [c] := by
  rw [List.take_succ_eq_append_getElem (by simpa using h)]
  simp [List.take_set_of_le]

theorem slipRxAppend_spec {heard : List U8} (hmemory : rx.buffer.length = rx.bufferLength)
    (hroom : rx.length ≤ rx.bufferLength) (hescape : rx.escape = false)
    (hframed : rx.frameStarted = true → ∃ before,
      heard = before ++ slipFrameEnd :: slipEscape (rx.buffer.take rx.length ++ [c])) :
    ∃ rx' status, slipRxAppend rx c = some (rx', status) ∧ status ≠ .complete
      ∧ rx'.buffer.length = rx'.bufferLength ∧ rx'.length ≤ rx'.bufferLength
      ∧ (rx'.frameStarted = true → Framed rx' heard) := by
  by_cases hfull : rx.length = rx.bufferLength
  · exact ⟨_, _, slipRxAppend_full hfull, by decide, hmemory, hroom, by simp⟩
  have hlt : rx.length < rx.bufferLength := by omega
  refine ⟨_, _, slipRxAppend_room hmemory hlt, by decide, by simpa using hmemory, hlt, ?_⟩
  intro hstarted
  obtain ⟨before, hheard⟩ := hframed hstarted
  refine ⟨before, ?_⟩
  rw [take_set_length (by omega), hheard]
  simp [hescape]

end Append

theorem SlipReceiver.step_of_rx {r : SlipReceiver} {c : U8} {rx : SlipRxState}
    {status : SlipRxStatus} (h : slipRx r.rx c = some (rx, status)) (hstatus : status ≠ .complete) :
    r.step c = some ⟨rx, r.heard ++ [c], r.packets⟩ := by
  simp [SlipReceiver.step, h, hstatus]

theorem RxInv.step {r : SlipReceiver} (hinv : RxInv r) (c : U8) :
    ∃ r', r.step c = some r' ∧ RxInv r' ∧ (ClosesStarted r c → CompletesRight r c) := by
  -- a byte that completes nothing
  have hgoes : ∀ rx status, slipRx r.rx c = some (rx, status) → status ≠ .complete →
      rx.buffer.length = rx.bufferLength → rx.length ≤ rx.bufferLength →
      (rx.frameStarted = true → Framed rx (r.heard ++ [c])) →
      ∃ r', r.step c = some r' ∧ RxInv r' ∧ (ClosesStarted r c → CompletesRight r c) := by
    intro rx status hrx hstatus hmemory hroom hframed
    refine ⟨_, r.step_of_rx hrx hstatus, ⟨hmemory, hroom, hframed⟩, fun _ rx' hrx' => ?_⟩
    rw [hrx] at hrx'
    simp_all
  have herror : slipRx r.rx c
        = some (slipRxStateReinit r.rx.buffer r.rx.bufferLength, .error) →
      ∃ r', r.step c = some r' ∧ RxInv r' ∧ (ClosesStarted r c → CompletesRight r c) :=
    fun h => hgoes _ _ h (by decide) hinv.memory (Nat.zero_le _) fun h' => Bool.noConfusion h'
  by_cases hend : c = slipFrameEnd
  · by_cases hescape : r.rx.escape = true
    · exact herror (by simp [slipRx, hend, hescape])
    by_cases hlength : 0 < r.rx.length
    · have hrx : slipRx r.rx c = some (r.rx, .complete) := by simp [slipRx, hend, hescape, hlength]
      have hstep : r.step c = some ⟨slipRxStateReinit r.rx.buffer r.rx.bufferLength,
          r.heard ++ [c], r.packets ++ [r.rx.buffer.take r.rx.length]⟩ := by
        simp [SlipReceiver.step, hrx]
      refine ⟨_, hstep, ⟨hinv.memory, Nat.zero_le _, fun h => Bool.noConfusion h⟩,
        fun hcloses rx' hrx' => ?_⟩
      rw [hrx] at hrx'
      obtain rfl : r.rx = rx' := by simpa using hrx'
      obtain ⟨before, hheard⟩ := hinv.framed (hcloses hend (by simpa using hescape) hlength)
      have hroom := hinv.room
      have hmemory := hinv.memory
      refine ⟨hend, before, _, by simpa [hescape] using hheard, ?_, ?_, rfl⟩
      · rw [List.length_take]
        omega
      · rw [List.length_take]
        omega
    have hrx : slipRx r.rx c = some ({ r.rx with frameStarted := true }, .inProgress) := by
      simp [slipRx, hend, hescape, hlength]
    refine hgoes _ _ hrx (by decide) hinv.memory hinv.room fun _ => ⟨r.heard, ?_⟩
    have hzero : r.rx.length = 0 := by omega
    simp [hzero, hescape, slipEscape, hend]
  by_cases hescape : r.rx.escape = true
  · -- behind an escape byte
    have happend : ∀ d, slipEscape [d] = [slipFrameEsc, c] →
        slipRx r.rx c = slipRxAppend { r.rx with escape := false } d →
        ∃ r', r.step c = some r' ∧ RxInv r' ∧ (ClosesStarted r c → CompletesRight r c) := by
      intro d hd hrx
      obtain ⟨rx', status, heq, hstatus, hmemory, hroom, hframed⟩ :=
        @slipRxAppend_spec { r.rx with escape := false } d (r.heard ++ [c]) hinv.memory hinv.room rfl
          (by
            intro hstarted
            obtain ⟨before, hheard⟩ := hinv.framed hstarted
            refine ⟨before, ?_⟩
            rw [slipEscape_append, hd, hheard]
            simp [hescape])
      exact hgoes rx' status (hrx.trans heq) hstatus hmemory hroom hframed
    by_cases hescEnd : c = slipFrameEscEnd
    · refine happend slipFrameEnd (by rw [hescEnd]; decide) ?_
      rw [slipRx, if_neg hend, if_pos hescape, if_pos hescEnd]
    by_cases hescEsc : c = slipFrameEscEsc
    · refine happend slipFrameEsc (by rw [hescEsc]; decide) ?_
      rw [slipRx, if_neg hend, if_pos hescape, if_neg hescEnd, if_pos hescEsc]
    · exact herror (by simp [slipRx, hend, hescape, hescEnd, hescEsc])
  by_cases hesc : c = slipFrameEsc
  · have hrx : slipRx r.rx c = some ({ r.rx with escape := true }, .inProgress) := by
      rw [slipRx, if_neg hend, if_neg hescape, if_pos hesc]
    refine hgoes _ _ hrx (by decide) hinv.memory hinv.room fun hstarted => ?_
    obtain ⟨before, hheard⟩ := hinv.framed hstarted
    exact ⟨before, by simp [hheard, hescape, hesc]⟩
  by_cases hstarted : r.rx.frameStarted = true
  · obtain ⟨rx', status, heq, hstatus, hmemory, hroom, hframed⟩ :=
      @slipRxAppend_spec r.rx c (r.heard ++ [c]) hinv.memory hinv.room (by simpa using hescape)
        (by
          intro _
          obtain ⟨before, hheard⟩ := hinv.framed hstarted
          refine ⟨before, ?_⟩
          rw [slipEscape_append, hheard]
          simp [hescape, slipEscape, hesc, hend])
    exact hgoes rx' status (by simp [slipRx, hend, hescape, hesc, hstarted, heq]) hstatus hmemory
      hroom hframed
  · exact hgoes r.rx .inProgress (by simp [slipRx, hend, hescape, hesc, hstarted]) (by decide)
      hinv.memory hinv.room fun h => absurd h hstarted

/-! ## What is sent is received -/

/-- The receiver within a frame, with `got` in its buffer. -/
structure Under (bufferLength : Nat) (got : List U8) (r : SlipReceiver) : Prop where
  memory : r.rx.buffer.length = bufferLength
  sameLength : r.rx.bufferLength = bufferLength
  length : r.rx.length = got.length
  held : r.rx.buffer.take got.length = got
  escape : r.rx.escape = false
  started : r.rx.frameStarted = true

section Receive

variable {r : SlipReceiver} {got : List U8} {n : Nat}

theorem Under.byte (h : Under n got r) (c : U8) (hroom : got.length < n) :
    ∃ r', runFrom SlipReceiver.step r (slipEscape [c]) = some r' ∧ Under n (got ++ [c]) r'
      ∧ r'.packets = r.packets := by
  have hmemory := h.memory
  have hlength := h.length
  have hsame := h.sameLength
  have hescape := h.escape
  have happend := @slipRxAppend_room r.rx c (hmemory.trans hsame.symm) (by omega)
  have hunder : ∀ heard, Under n (got ++ [c])
      ⟨{ r.rx with buffer := r.rx.buffer.set r.rx.length c, length := r.rx.length + 1 }, heard,
        r.packets⟩ := by
    intro heard
    refine ⟨by simpa using hmemory, hsame, by simp [hlength], ?_, hescape, h.started⟩
    simp only [List.length_append, List.length_singleton, ← hlength]
    rw [take_set_length (by omega), hlength, h.held]
  -- a byte that is escaped goes through the state with the escape flag
  have hescaped : ∀ d, slipEscape [c] = [slipFrameEsc, d] →
      (∀ rx : SlipRxState, rx.escape = true →
        slipRx rx d = slipRxAppend { rx with escape := false } c) →
      ∃ r', runFrom SlipReceiver.step r (slipEscape [c]) = some r' ∧ Under n (got ++ [c]) r'
        ∧ r'.packets = r.packets := by
    intro d hd hrx
    have hesc : slipRx r.rx slipFrameEsc = some ({ r.rx with escape := true }, .inProgress) := by
      simp [slipRx, hescape, slipFrameEsc, slipFrameEnd]
    have hback : ({ r.rx with escape := false } : SlipRxState) = r.rx := by rw [← hescape]
    have hd' : slipRx { r.rx with escape := true } d = slipRxAppend r.rx c := by
      rw [hrx _ rfl]
      exact congrArg (slipRxAppend · c) hback
    refine ⟨_, ?_, hunder (r.heard ++ [slipFrameEsc] ++ [d]), rfl⟩
    rw [hd, runFrom, r.step_of_rx hesc (by decide), Option.bind_some, runFrom,
      SlipReceiver.step_of_rx (hd'.trans happend) (by decide)]
    rfl
  by_cases hesc : c = slipFrameEsc
  · refine hescaped slipFrameEscEsc (by rw [hesc]; decide) fun rx hrx => ?_
    simp [slipRx, hrx, hesc, slipFrameEscEsc, slipFrameEnd, slipFrameEscEnd]
  by_cases hend : c = slipFrameEnd
  · refine hescaped slipFrameEscEnd (by rw [hend]; decide) fun rx hrx => ?_
    simp [slipRx, hrx, hend, slipFrameEscEnd, slipFrameEnd]
  have hplain : slipEscape [c] = [c] := by simp [slipEscape, hesc, hend]
  have hrx : slipRx r.rx c = slipRxAppend r.rx c := by
    simp [slipRx, hend, hescape, hesc, h.started]
  refine ⟨_, ?_, hunder (r.heard ++ [c]), rfl⟩
  rw [hplain, runFrom, SlipReceiver.step_of_rx (hrx.trans happend) (by decide)]
  rfl

theorem Under.bytes (h : Under n got r) (packet : List U8) (hroom : got.length + packet.length ≤ n) :
    ∃ r', runFrom SlipReceiver.step r (slipEscape packet) = some r' ∧ Under n (got ++ packet) r'
      ∧ r'.packets = r.packets := by
  induction packet generalizing r got with
  | nil => exact ⟨r, rfl, by simpa using h, rfl⟩
  | cons c packet ih =>
    rw [List.length_cons] at hroom
    obtain ⟨r₁, hrun₁, hunder₁, hpackets₁⟩ := h.byte c (by omega)
    obtain ⟨r₂, hrun₂, hunder₂, hpackets₂⟩ := ih hunder₁ (by simp; omega)
    refine ⟨r₂, ?_, by simpa using hunder₂, hpackets₂.trans hpackets₁⟩
    rw [← List.singleton_append, slipEscape_append, runFrom_append hrun₁]
    exact hrun₂

/-- The receiver between two packets. -/
structure Between (n : Nat) (r : SlipReceiver) : Prop where
  memory : r.rx.buffer.length = n
  fresh : r.rx = slipRxStateReinit r.rx.buffer n

theorem Between.packet (h : Between n r) {packet : List U8} (hpos : 1 ≤ packet.length)
    (hfits : packet.length ≤ n) :
    ∃ r', runFrom SlipReceiver.step r (slipWire packet) = some r' ∧ Between n r'
      ∧ r'.packets = r.packets ++ [packet] := by
  have hfresh := h.fresh
  have hstart : slipRx r.rx slipFrameEnd
      = some ({ r.rx with frameStarted := true }, .inProgress) := by
    rw [hfresh]
    simp [slipRx, slipRxStateReinit]
  have hunder : Under n [] ⟨{ r.rx with frameStarted := true }, r.heard ++ [slipFrameEnd],
      r.packets⟩ := by
    refine ⟨h.memory, ?_, ?_, rfl, ?_, rfl⟩ <;> · dsimp only; rw [hfresh]; rfl
  obtain ⟨r₁, hrun₁, hunder₁, hpackets₁⟩ := hunder.bytes packet (by simpa using hfits)
  rw [List.nil_append] at hunder₁
  have hlength := hunder₁.length
  have hcomplete : slipRx r₁.rx slipFrameEnd = some (r₁.rx, .complete) := by
    simp [slipRx, hunder₁.escape, show 0 < r₁.rx.length by omega]
  refine ⟨⟨slipRxStateReinit r₁.rx.buffer r₁.rx.bufferLength, r₁.heard ++ [slipFrameEnd],
    r₁.packets ++ [packet]⟩, ?_, ⟨hunder₁.memory, ?_⟩, by simp [hpackets₁]⟩
  · rw [slipWire_eq, List.cons_append, runFrom, r.step_of_rx hstart (by decide), Option.bind_some,
      runFrom_append hrun₁]
    simp [runFrom, SlipReceiver.step, hcomplete, hlength, hunder₁.held]
  · rw [hunder₁.sameLength]
    rfl

theorem Between.packets (h : Between n r) (packets : List (List U8))
    (hfits : ∀ packet ∈ packets, 1 ≤ packet.length ∧ packet.length ≤ n) :
    ∃ r', runFrom SlipReceiver.step r (packets.flatMap slipWire) = some r'
      ∧ r'.packets = r.packets ++ packets := by
  induction packets generalizing r with
  | nil => exact ⟨r, rfl, by simp⟩
  | cons packet packets ih =>
    obtain ⟨hpos, hle⟩ := hfits packet (by simp)
    obtain ⟨r₁, hrun₁, hbetween₁, hpackets₁⟩ := h.packet hpos hle
    obtain ⟨r₂, hrun₂, hpackets₂⟩ := ih hbetween₁ fun q hq => hfits q (by simp [hq])
    refine ⟨r₂, ?_, by simp [hpackets₂, hpackets₁]⟩
    rw [List.flatMap_cons, runFrom_append hrun₁]
    exact hrun₂

end Receive

/-! ## What the sender reports -/

section Sender

variable {answer : SlipTransport}

theorem slipTxByte_last (calls : SlipCalls) (c : U8) : ∃ front d,
    slipTxByte answer calls c = (front ++ [(d, (slipTxByte answer calls c).2)],
      (slipTxByte answer calls c).2) := by
  have hone : ∀ calls d, ∃ front e, transportTx answer calls d
      = (front ++ [(e, (transportTx answer calls d).2)], (transportTx answer calls d).2) :=
    fun calls d => ⟨calls, d, rfl⟩
  unfold slipTxByte
  dsimp only
  split_ifs <;> exact hone _ _

theorem slipTxLoop_append (st : SlipCalls × Int) (front : List U8) (c : U8) :
    slipTxLoop answer st (front ++ [c])
      = slipTxByte answer (slipTxLoop answer st front).1 c := by
  induction front generalizing st with
  | nil => rfl
  | cons d front ih => exact ih _

/-- The last call before the closing END byte. -/
def lastBeforeEnd (answer : SlipTransport) (packet : List U8) : Option (U8 × Int) :=
  (slipTx answer packet).1.dropLast.getLast?

theorem slipTx_ret (packet : List U8) (hne : packet ≠ []) :
    ∃ d, lastBeforeEnd answer packet = some (d, (slipTx answer packet).2) := by
  obtain ⟨front, c, rfl⟩ := List.eq_nil_or_concat' packet |>.resolve_left hne
  obtain ⟨calls, d, heq⟩ := @slipTxByte_last answer
    (slipTxLoop answer ([(slipFrameEnd, answer [] slipFrameEnd)], 0) front).1 c
  refine ⟨d, ?_⟩
  unfold lastBeforeEnd slipTx
  simp only [transportTx, List.nil_append, List.map_nil, slipTxLoop_append]
  rw [heq]
  simp

/-- The transport accepts every byte it is given, or refuses the last one before the closing
END byte of a packet that is not empty. -/
def RefusesLastOrNone (answer : SlipTransport) (packet : List U8) : Prop :=
  (∀ call ∈ (slipTx answer packet).1, call.2 = 0)
    ∨ packet ≠ [] ∧ ∃ call, lastBeforeEnd answer packet = some call ∧ call.2 ≠ 0

theorem slipTx_reports_iff (packet : List U8) :
    ((slipTx answer packet).2 = 0 → ∀ call ∈ (slipTx answer packet).1, call.2 = 0)
      ↔ RefusesLastOrNone answer packet := by
  by_cases hne : packet = []
  · subst hne
    have hret : (slipTx answer []).2 = 0 := rfl
    simp [RefusesLastOrNone, hret]
  obtain ⟨d, hlast⟩ := @slipTx_ret answer packet hne
  simp only [RefusesLastOrNone, hne, hlast, ne_eq, not_false_eq_true, true_and,
    Option.some.injEq, exists_eq_left']
  tauto

end Sender

/-! ## The line -/

/-- Packets that are sent over a line that accepts every byte are received, each once.  On any
line the receiver writes inside its buffer, and it completes rightly as long as an END byte does
not come behind bytes of no frame.  The sender reports success only when every byte was accepted
exactly when the transport accepts all or refuses the last. -/
theorem slip_frames_exact (buffer : List U8) :
    (∀ packets : List (List U8),
      (∀ packet ∈ packets, 1 ≤ packet.length ∧ packet.length ≤ buffer.length) →
      (runFrom SlipReceiver.step (slipReceiver buffer) (packets.flatMap slipWire)).map (·.packets)
        = some packets)
      ∧ (∀ bytes, (runFrom SlipReceiver.step (slipReceiver buffer) bytes).isSome)
      ∧ (∀ bytes, Along SlipReceiver.step ClosesStarted (slipReceiver buffer) bytes →
        Along SlipReceiver.step CompletesRight (slipReceiver buffer) bytes)
      ∧ ∀ answer packet, ((slipTx answer packet).2 = 0 → ∀ call ∈ (slipTx answer packet).1,
        call.2 = 0) ↔ RefusesLastOrNone answer packet := by
  have hinit : RxInv (slipReceiver buffer) :=
    ⟨rfl, Nat.zero_le _, fun h => Bool.noConfusion h⟩
  have hall : ∀ bytes, Throughout SlipReceiver.step RxInv (slipReceiver buffer) bytes := by
    refine throughout_of_invariant (fun r c r' hr hr' => ?_) hinit
    obtain ⟨r'', heq, hinv, -⟩ := hr.step c
    rw [hr'] at heq
    cases heq
    exact hinv
  refine ⟨fun packets hfits => ?_, fun bytes => ?_, fun bytes hcloses => ?_, fun answer packet =>
    slipTx_reports_iff packet⟩
  · obtain ⟨r, hrun, hpackets⟩ :=
      Between.packets (r := slipReceiver buffer) ⟨rfl, rfl⟩ packets hfits
    rw [hrun]
    simp [hpackets, slipReceiver]
  · refine runFrom_isSome_iff_along.mpr ((hall bytes).along_of fun r c hr => ?_)
    obtain ⟨r', heq, -⟩ := hr.step c
    simp [heq]
  · exact ((hall bytes).along_of (C := fun r c => ClosesStarted r c → CompletesRight r c)
      (fun r c hr => (hr.step c).choose_spec.2.2)).and hcloses |>.mono fun r c h => h.1 h.2

/-- A frame of three bytes, for a buffer of two: the first two are completed as a packet. -/
theorem overlong_frame_completes :
    ¬ ∀ buffer bytes, Along SlipReceiver.step CompletesRight (slipReceiver buffer) bytes := by
  intro h
  have hrun : runFrom SlipReceiver.step (slipReceiver [0, 0]) [slipFrameEnd, 1, 2, 3]
      = some ⟨⟨[1, 2], 2, 2, false, false⟩, [slipFrameEnd, 1, 2, 3], []⟩ := by decide
  obtain ⟨-, before, packet, hheard, -, -, hpacket⟩ :=
    (h [0, 0] ([slipFrameEnd, 1, 2, 3] ++ [slipFrameEnd])).last hrun _ rfl
  rw [← hpacket] at hheard
  have hlast := congrArg List.getLast? hheard
  simp [slipEscape, slipFrameEsc, slipFrameEnd] at hlast

end MmIotEsp32.Slip
