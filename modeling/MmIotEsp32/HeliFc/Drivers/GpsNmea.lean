/-
  MmIotEsp32.HeliFc.Drivers.GpsNmea

  The NMEA parser (`drivers/gps_nmea.c`).

  A sentence is a C string: its octets up to the first zero.  A `float` or `double` is kept
  as its bits, and what the parser computes with them is a parameter; it moves the results
  around and never looks at one, but to compare a latitude with zero.
-/
import Mathlib.Data.List.Basic
import MmIotEsp32.Common.Mmosal

namespace MmIotEsp32.HeliFc

/-! ## Numbers -/

/-- The octet of an ASCII character. -/
def ascii (c : Char) : U8 := BitVec.ofNat 8 c.toNat

/-- The octets of an ASCII text. -/
def asciiText (text : String) : List U8 := text.toList.map ascii

/-- The conversions of the C library and the arithmetic of the parser. -/
structure NmeaFloats where
  strtod : List U8 → U64
  strtof : List U8 → U32
  /-- `nmea_parse_coord`. -/
  parseCoord : U64 → U8 → U64
  /-- `raw != 0.0`. -/
  isNonzero : U64 → Bool
  /-- `speed_kts * 0.514444f`. -/
  knots : U32 → U32

def isSpace (c : U8) : Bool := c == 32 || (9 ≤ c.toNat && c.toNat ≤ 13)

/-- The value of a digit. -/
def digitOf (c : U8) : Option Nat :=
  if 48 ≤ c.toNat ∧ c.toNat ≤ 57 then some (c.toNat - 48)
  else if 97 ≤ c.toNat ∧ c.toNat ≤ 122 then some (c.toNat - 87)
  else if 65 ≤ c.toNat ∧ c.toNat ≤ 90 then some (c.toNat - 55)
  else none

/-- The number that the leading digits make. -/
def leadingDigits (base acc : Nat) : List U8 → Nat
  | [] => acc
  | c :: rest =>
    match digitOf c with
    | some d => if d < base then leadingDigits base (acc * base + d) rest else acc
    | none => acc

/-- The text after a prefix `0x`, which is one when a digit follows. -/
def dropHexPrefix (s : List U8) : List U8 :=
  match s with
  | zero :: x :: digit :: rest =>
    if zero = ascii '0' ∧ (x = ascii 'x' ∨ x = ascii 'X')
        ∧ (digitOf digit).any (fun d => decide (d < 16)) then digit :: rest
    else s
  | _ => s

/-- `strtol`, with a `long` of 32 bits. -/
def strtol (base : Nat) (s : List U8) : Int :=
  let s := s.dropWhile isSpace
  let negative := s.head? = some (ascii '-')
  let s := if negative ∨ s.head? = some (ascii '+') then s.tail else s
  let s := if base = 16 then dropHexPrefix s else s
  let value := leadingDigits base 0 s
  if negative then max (-(value : Int)) (-2 ^ 31) else min (value : Int) (2 ^ 31 - 1)

/-! ## Sentences -/

/-- `sensor_gps_t` but for its stamp. -/
structure GpsFix where
  latitude : U64
  longitude : U64
  altitudeMsl : U32
  groundSpeed : U32
  course : U32
  fixType : U8
  satellites : U8
  hdop : U32
  deriving Repr, DecidableEq

/-- `sensor_gps_t`. -/
structure SensorGps extends GpsFix where
  timestampUs : U64
  deriving Repr, DecidableEq

def GpsFix.zero : GpsFix := ⟨0, 0, 0, 0, 0, 0, 0, 0⟩

/-- `*p`, which is zero at the end of the string. -/
def charAt (p : List U8) : U8 := p.headD 0

/-- `nmea_next_field`: the text after the next comma. -/
def nmeaNextField (p : List U8) : Option (List U8) :=
  match p.dropWhile (· ≠ ascii ',') with
  | [] => none
  | _ :: rest => some rest

/-- The field is empty. -/
def fieldEmpty (p : List U8) : Bool :=
  charAt p == ascii ',' || charAt p == ascii '*' || charAt p == 0

def nmeaParseFloat (f : NmeaFloats) (p : List U8) : U32 := if fieldEmpty p then 0 else f.strtof p

def nmeaParseDouble (f : NmeaFloats) (p : List U8) : U64 := if fieldEmpty p then 0 else f.strtod p

def nmeaParseInt (p : List U8) : Int := if fieldEmpty p then 0 else strtol 10 p

/-- The octets from `$` to `*`, and what follows the star. -/
def checksumParts (sentence : List U8) : Option (List U8 × List U8) :=
  match sentence with
  | [] => none
  | first :: body =>
    if first = ascii '$' then
      match body.dropWhile (· ≠ ascii '*') with
      | [] => none
      | _ :: digits => some (body.takeWhile (· ≠ ascii '*'), digits)
    else none

def nmeaValidateChecksum (sentence : List U8) : Bool :=
  match checksumParts sentence with
  | none => false
  | some (covered, digits) => covered.foldl (· ^^^ ·) 0 == BitVec.ofInt 8 (strtol 16 digits)

/-- `parse_gprmc`: a sentence that ends early changes nothing. -/
def parseGprmc (f : NmeaFloats) (sentence : List U8) (data : GpsFix) : GpsFix :=
  Option.getD (do
    let utc ← nmeaNextField sentence
    let status ← nmeaNextField utc
    let lat ← nmeaNextField status
    let ns ← nmeaNextField lat
    let lon ← nmeaNextField ns
    let ew ← nmeaNextField lon
    let speed ← nmeaNextField ew
    let course ← nmeaNextField speed
    -- only an active fix counts
    if charAt status = ascii 'A' then
      some { data with
        latitude := f.parseCoord (nmeaParseDouble f lat) (charAt ns)
        longitude := f.parseCoord (nmeaParseDouble f lon) (charAt ew)
        groundSpeed := f.knots (nmeaParseFloat f speed)
        course := nmeaParseFloat f course }
    else some data) data

def parseGpgga (f : NmeaFloats) (sentence : List U8) (data : GpsFix) : GpsFix :=
  Option.getD (do
    let utc ← nmeaNextField sentence
    let lat ← nmeaNextField utc
    let ns ← nmeaNextField lat
    let lon ← nmeaNextField ns
    let ew ← nmeaNextField lon
    let quality ← nmeaNextField ew
    let sats ← nmeaNextField quality
    let hdop ← nmeaNextField sats
    let alt ← nmeaNextField hdop
    let fixQuality := nmeaParseInt quality
    let rawLat := nmeaParseDouble f lat
    let data := { data with
      fixType := if 1 ≤ fixQuality then 3 else 0
      satellites := BitVec.ofInt 8 (nmeaParseInt sats)
      hdop := nmeaParseFloat f hdop
      altitudeMsl := nmeaParseFloat f alt }
    if 1 ≤ fixQuality ∧ f.isNonzero rawLat then
      some { data with
        latitude := f.parseCoord rawLat (charAt ns)
        longitude := f.parseCoord (nmeaParseDouble f lon) (charAt ew) }
    else some data) data

/-- What a sentence whose checksum is right does to the fix. -/
def applySentence (f : NmeaFloats) (sentence : List U8) (data : GpsFix) : GpsFix :=
  if (asciiText "$GPRMC,").isPrefixOf sentence ∨ (asciiText "$GNRMC,").isPrefixOf sentence then
    parseGprmc f sentence data
  else if (asciiText "$GPGGA,").isPrefixOf sentence ∨ (asciiText "$GNGGA,").isPrefixOf sentence then
    parseGpgga f sentence data
  else data

def nmeaProcessSentence (f : NmeaFloats) (nowUs : U64) (sentence : List U8) (data : SensorGps) :
    SensorGps :=
  if nmeaValidateChecksum sentence then
    { applySentence f sentence data.toGpsFix with timestampUs := nowUs }
  else data

/-- The fix after the sentences of a list, newest first. -/
def fixAfter (f : NmeaFloats) (sentences : List (List U8)) : GpsFix :=
  sentences.foldr (applySentence f) .zero

/-! ## The parser task -/

def nmeaMaxLen : Nat := 128

/-- `gps_handle_t`: the data behind the mutex. -/
structure GpsHandle where
  data : SensorGps
  dataValid : Bool
  deriving Repr, DecidableEq

/-- What the parser does with an octet: the line goes on, or it ends and may be a sentence. -/
def gpsLine (line : List U8) (byte : U8) : List U8 × Option (List U8) :=
  if byte = ascii '$' then ([ascii '$'], none)
  else if byte = ascii '\r' ∨ byte = ascii '\n' then
    ([], if 5 < line.length then some (line.takeWhile (· ≠ 0)) else none)
  else (if line.length < nmeaMaxLen - 1 then line ++ [byte] else line, none)

/-- The end of a line in `gps_task`: whatever the line was, there is data now. -/
def gpsSentence (f : NmeaFloats) (nowUs : U64) (gps : GpsHandle) (sentence : List U8) : GpsHandle :=
  ⟨nmeaProcessSentence f nowUs sentence gps.data, true⟩

def gpsGetData (gps : GpsHandle) : Option SensorGps := if gps.dataValid then some gps.data else none

-- An empty fix with its checksum, and the same with a wrong one.
example : nmeaValidateChecksum (asciiText "$GPGGA,,,,,,0,,,*4A") = true
    ∧ nmeaValidateChecksum (asciiText "$GPGGA,,,,,,0,,,*4B") = false := by decide +kernel

end MmIotEsp32.HeliFc
