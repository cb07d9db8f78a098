/-
  MmIotEsp32.Driver.Transport.Sdio

  The SDIO transport (`driver/transport/sdio.c`).
-/
import MmIotEsp32.Common.Mmosal

namespace MmIotEsp32.Driver.Transport

/-! ## Commands -/

inductive MmhalSdioRw where
  | read
  | write
  deriving Repr, DecidableEq

/-- `enum mmhal_sdio_function`, the functions behind a window. -/
inductive MmhalSdioFunction where
  | function1
  | function2
  deriving Repr, DecidableEq

inductive MmhalSdioMode where
  | byte
  | block
  deriving Repr, DecidableEq

def MmhalSdioRw.bits : MmhalSdioRw → U32
  | .read => 0
  | .write => 1#32 <<< 31

def MmhalSdioFunction.bits : MmhalSdioFunction → U32
  | .function1 => 1#32 <<< 28
  | .function2 => 2#32 <<< 28

def MmhalSdioMode.bits : MmhalSdioMode → U32
  | .byte => 0
  | .block => 1#32 <<< 27

def mmhalMakeCmd53Arg (rw : MmhalSdioRw) (fn : MmhalSdioFunction) (mode : MmhalSdioMode)
    (address : U32) (count : U16) : U32 :=
  rw.bits ||| fn.bits ||| 1#32 <<< 26 ||| mode.bits ||| address <<< 9 ||| count.setWidth 32

/-- `morse_error_t`, the values used here. -/
inductive MorseError where
  | success
  | failed
  | invalidArgument
  deriving Repr, DecidableEq

def cmd53MaxBlocks : Nat := 128

/-- `enum block_size`. -/
def blockSizeLog2 : MmhalSdioFunction → Nat
  | .function1 => 3
  | .function2 => 9

def blockSize (fn : MmhalSdioFunction) : Nat := 2 ^ blockSizeLog2 fn

def maxBlockTransferSize (fn : MmhalSdioFunction) : Nat := blockSize fn * cmd53MaxBlocks

def maxCommFailures : U8 := 30

/-- The registers that hold the window of a function. -/
inductive WindowReg where
  | addressWindow0
  | addressWindow1
  | addressConfig
  deriving Repr, DecidableEq

def morseConfigAccess4byte : U8 := 2

/-- What is known of the chip. -/
structure HwCfg where
  /-- `morse_hw_is_memory` -/
  isMemory : U32 → Bool
  busDoubleRead : Bool
  cpuResetAddress : U32
  cpuResetValue : U32

/-- The answers to the commands of a request, by part and place. -/
structure BusAnswers where
  /-- a CMD52 that writes a window register succeeds -/
  cmd52 : Nat → WindowReg → Bool
  /-- a CMD53 succeeds; the second argument tells a repeat from a first attempt -/
  cmd53 : Nat → Bool → MmhalSdioMode → Bool
  /-- the octets that a CMD53 leaves in the buffer -/
  cmd53Data : Nat → Bool → MmhalSdioMode → Nat → U8
  /-- the window registers after a reset -/
  windowAfterReset : MmhalSdioFunction → WindowReg → U8

/-- A CMD53 as it is issued, with the address that was asked for, the window that the chip had
then and the place of its octets in the buffer. -/
structure Cmd53 where
  sdioArg : U32
  transferLength : U32
  blockSize : Nat
  fn : MmhalSdioFunction
  mode : MmhalSdioMode
  again : Bool
  address : U32
  size : Nat
  offset : Nat
  window : U16
  ok : Bool

/-- The transport, the window registers of the chip and the buffer of a request.  `cmd53s`
only records the commands, first to last. -/
structure SdioData where
  addressBaseFn1Cache : U32
  addressBaseFn2Cache : U32
  consecutiveCommFailures : U8
  irqEnabled : Bool
  healthChecks : Nat
  chip : MmhalSdioFunction → WindowReg → U8
  buffer : Nat → U8
  cmd53s : List Cmd53

/-- The upper half of the addresses that the chip serves. -/
def chipWindow (s : SdioData) (fn : MmhalSdioFunction) : U16 :=
  s.chip fn .addressWindow1 ++ s.chip fn .addressWindow0

def commsOpCheck (s : SdioData) (returnCode : MorseError) : SdioData :=
  if returnCode ≠ .success then
    let s := { s with consecutiveCommFailures := s.consecutiveCommFailures + 1 }
    if maxCommFailures ≤ s.consecutiveCommFailures then
      { s with irqEnabled := false, healthChecks := s.healthChecks + 1, consecutiveCommFailures := 0 }
    else s
  else { s with consecutiveCommFailures := 0 }

/-! ## The window -/

/-- What no window starts with. -/
def noAddressBase : U32 := 0xffffffff

def morseAddressBaseClearCache (s : SdioData) : SdioData :=
  { s with addressBaseFn1Cache := noAddressBase, addressBaseFn2Cache := noAddressBase }

def addressBaseCache (s : SdioData) : MmhalSdioFunction → U32
  | .function1 => s.addressBaseFn1Cache
  | .function2 => s.addressBaseFn2Cache

def morseAddressBaseChanged (s : SdioData) (address : U32) (fn : MmhalSdioFunction) : Bool :=
  addressBaseCache s fn != address

def morseAddressBaseUpdateCache (s : SdioData) (address : U32) : MmhalSdioFunction → SdioData
  | .function1 => { s with addressBaseFn1Cache := address }
  | .function2 => { s with addressBaseFn2Cache := address }

/-- `morse_cmd52_write`, of a window register. -/
def morseCmd52Write (answers : BusAnswers) (s : SdioData) (part : Nat) (reg : WindowReg)
    (data : U8) (fn : MmhalSdioFunction) : SdioData × MorseError :=
  if answers.cmd52 part reg then
    ({ s with chip := Function.update s.chip fn (Function.update (s.chip fn) reg data) }, .success)
  else (s, .failed)

/-- The window that an address is in. -/
def windowBase (address : U32) : U32 := address &&& 0xFFFF0000

def morseAddressBaseSet (answers : BusAnswers) (s : SdioData) (part : Nat) (address : U32)
    (access : U8) (fn : MmhalSdioFunction) : SdioData × MorseError :=
  let address := windowBase address
  if !morseAddressBaseChanged s address fn then (s, .success)
  else
    let (s, result) :=
      morseCmd52Write answers s part .addressWindow0 ((address >>> 16).setWidth 8) fn
    if result ≠ .success then (s, result)
    else
      let (s, result) :=
        morseCmd52Write answers s part .addressWindow1 ((address >>> 24).setWidth 8) fn
      if result ≠ .success then (s, result)
      else
        let (s, result) := morseCmd52Write answers s part .addressConfig access fn
        if result ≠ .success then (s, result)
        else (morseAddressBaseUpdateCache s address fn, .success)

/-! ## Transfers -/

/-- A part of a request: its number, whether it is repeated, and where it starts in the
buffer. -/
structure PartPlace where
  part : Nat
  again : Bool
  offset : Nat

/-- A CMD53 of `size` octets: `count` blocks, or as many octets. -/
def cmd53Record (answers : BusAnswers) (s : SdioData) (rw : MmhalSdioRw) (place : PartPlace)
    (fn : MmhalSdioFunction) (mode : MmhalSdioMode) (address count : U32) (size : Nat) : Cmd53 where
  sdioArg := mmhalMakeCmd53Arg rw fn mode (address &&& 0x0000FFFF) (count.setWidth 16)
  transferLength := count
  blockSize := match mode with
    | .byte => 0
    | .block => blockSize fn
  fn := fn
  mode := mode
  again := place.again
  address := address
  size := size
  offset := place.offset
  window := chipWindow s fn
  ok := answers.cmd53 place.part place.again mode

/-- `mmhal_wlan_sdio_cmd53_read` and `mmhal_wlan_sdio_cmd53_write`. -/
def issueCmd53 (answers : BusAnswers) (s : SdioData) (rw : MmhalSdioRw) (place : PartPlace)
    (fn : MmhalSdioFunction) (mode : MmhalSdioMode) (address count : U32) (size : Nat) :
    SdioData × Bool :=
  let record := cmd53Record answers s rw place fn mode address count size
  ({ s with
      buffer := match rw with
        | .write => s.buffer
        | .read => fun i =>
          if place.offset ≤ i ∧ i < place.offset + size then
            answers.cmd53Data place.part place.again mode (i - place.offset)
          else s.buffer i
      cmd53s := s.cmd53s ++ [record] }, record.ok)

/-- The octets that the blocks leave over. -/
def cmd53Bytes (answers : BusAnswers) (s : SdioData) (rw : MmhalSdioRw) (place : PartPlace)
    (fn : MmhalSdioFunction) (address len : U32) (result : MorseError) : SdioData × MorseError :=
  if 0 < len then
    let (s, ok) := issueCmd53 answers s rw place fn .byte address len len.toNat
    (s, if ok then .success else .failed)
  else (s, result)

/-- What `morse_cmd53_read` and `morse_cmd53_write` have in common; they differ in the result
of a transfer of nothing. -/
def cmd53Transfer (answers : BusAnswers) (s : SdioData) (rw : MmhalSdioRw) (place : PartPlace)
    (fn : MmhalSdioFunction) (address len : U32) (result : MorseError) : SdioData × MorseError :=
  let numBlocks : U16 := (len >>> blockSizeLog2 fn).setWidth 16
  if 0 < numBlocks then
    let transferSize : U32 := numBlocks.setWidth 32 * BitVec.ofNat 32 (blockSize fn)
    let (s, ok) :=
      issueCmd53 answers s rw place fn .block address (numBlocks.setWidth 32) transferSize.toNat
    if !ok then (s, .failed)
    else
      cmd53Bytes answers s rw { place with offset := place.offset + transferSize.toNat } fn
        (address + transferSize) (len - transferSize) .success
  else cmd53Bytes answers s rw place fn address len result

def morseCmd53Read (answers : BusAnswers) (s : SdioData) (place : PartPlace)
    (fn : MmhalSdioFunction) (address len : U32) : SdioData × MorseError :=
  cmd53Transfer answers s .read place fn address len .success

def morseCmd53Write (answers : BusAnswers) (s : SdioData) (place : PartPlace)
    (fn : MmhalSdioFunction) (address len : U32) : SdioData × MorseError :=
  cmd53Transfer answers s .write place fn address len .failed

/-! ## Requests -/

/-- The octets of the next part. -/
def partSize (fn : MmhalSdioFunction) (address len : U32) : U32 :=
  let maxTransferSize := BitVec.ofNat 32 (maxBlockTransferSize fn)
  let size := if len < maxTransferSize then len else maxTransferSize
  let nextBoundary := windowBase address + 0x10000
  if nextBoundary < address + size then nextBoundary - address else size

/-- The function that serves an address. -/
def functionOf (cfg : HwCfg) (address : U32) : MmhalSdioFunction :=
  if cfg.isMemory address then .function2 else .function1

/-- The first four octets of a part were read a second time in the next four. -/
def looksRepeated (s : SdioData) (offset : Nat) : Bool :=
  (List.range 4).all fun i => s.buffer (offset + i) == s.buffer (offset + 4 + i)

/-- One part of a read, with its number and its offset: the transfer, whose result is not
looked at, and on some chips the repeat of its first eight octets. -/
def readPart (cfg : HwCfg) (answers : BusAnswers) (s : SdioData) (part offset : Nat)
    (fn : MmhalSdioFunction) (address size : U32) : SdioData :=
  let s := (morseCmd53Read answers s ⟨part, false, offset⟩ fn address size).1
  if decide (8 ≤ size) && cfg.busDoubleRead && looksRepeated s offset then
    (morseCmd53Read answers s ⟨part, true, offset⟩ fn address 8).1
  else s

/-- The loop of `morse_trns_read_multi_byte`. -/
def readLoop (cfg : HwCfg) (answers : BusAnswers) (fn : MmhalSdioFunction) :
    Nat → SdioData → Nat → Nat → U32 → U32 → MorseError → SdioData × Option MorseError
  | 0, s, _, _, _, _, _ => (s, none)
  | fuel + 1, s, part, offset, address, len, result =>
    if len = 0 then (s, some result)
    else
      let (s, result) := morseAddressBaseSet answers s part address morseConfigAccess4byte fn
      if result ≠ .success then (s, some result)
      else
        let size := partSize fn address len
        let s := readPart cfg answers s part offset fn address size
        readLoop cfg answers fn fuel s (part + 1) (offset + size.toNat) (address + size)
          (len - size) result

/-- The result is checked on the way out. -/
def finish (answer : SdioData × Option MorseError) : SdioData × Option MorseError :=
  match answer with
  | (s, none) => (s, none)
  | (s, some result) => (commsOpCheck s result, some result)

def morseTrnsReadMultiByte (cfg : HwCfg) (answers : BusAnswers) (fuel : Nat) (s : SdioData)
    (address len : U32) : SdioData × Option MorseError :=
  if len = 0 ∨ len &&& 0x03 ≠ 0 then finish (s, some .failed)
  else finish (readLoop cfg answers (functionOf cfg address) fuel s 0 0 address len .failed)

/-- The loop of `morse_trns_write_multi_byte`. -/
def writeLoop (answers : BusAnswers) (fn : MmhalSdioFunction) :
    Nat → SdioData → Nat → Nat → U32 → U32 → MorseError → SdioData × Option MorseError
  | 0, s, _, _, _, _, _ => (s, none)
  | fuel + 1, s, part, offset, address, len, result =>
    if len = 0 then (s, some result)
    else
      let (s, result) := morseAddressBaseSet answers s part address morseConfigAccess4byte fn
      if result ≠ .success then (s, some result)
      else
        let size := partSize fn address len
        let (s, result) := morseCmd53Write answers s ⟨part, false, offset⟩ fn address size
        if result ≠ .success then (s, some result)
        else
          writeLoop answers fn fuel s (part + 1) (offset + size.toNat) (address + size)
            (len - size) result

def morseTrnsWriteMultiByte (cfg : HwCfg) (answers : BusAnswers) (fuel : Nat) (s : SdioData)
    (address len : U32) : SdioData × Option MorseError :=
  if len = 0 ∨ len &&& 0x03 ≠ 0 then finish (s, some .invalidArgument)
  else finish (writeLoop answers (functionOf cfg address) fuel s 0 0 address len .failed)

/-- `morse_trns_read_le32`, up to the value it reads. -/
def morseTrnsReadLe32 (cfg : HwCfg) (answers : BusAnswers) (s : SdioData) (address : U32) :
    SdioData × Option MorseError :=
  let fn := functionOf cfg address
  let (s, result) := morseAddressBaseSet answers s 0 address morseConfigAccess4byte fn
  if result ≠ .success then finish (s, some result)
  else
    let (s, result) := morseCmd53Read answers s ⟨0, false, 0⟩ fn address 4
    finish (s, some result)

def morseTrnsWriteLe32 (cfg : HwCfg) (answers : BusAnswers) (s : SdioData) (address data : U32) :
    SdioData × Option MorseError :=
  let fn := functionOf cfg address
  let (s, result) := morseAddressBaseSet answers s 0 address morseConfigAccess4byte fn
  if result ≠ .success then finish (s, some result)
  else
    let (s, result) := morseCmd53Write answers s ⟨0, false, 0⟩ fn address 4
    if result ≠ .success then finish (s, some result)
    else if address = cfg.cpuResetAddress ∧ data = cfg.cpuResetValue then
      -- the chip starts again, and its windows with it
      finish (morseAddressBaseClearCache { s with chip := answers.windowAfterReset }, some result)
    else finish (s, some result)

end MmIotEsp32.Driver.Transport
