import Outbox.Bytes.Basic
import Outbox.Json.Fault

/-!
# Numbers in JSON

A number is an integer if it has neither fraction nor exponent, is not a negative zero and fits
into 64 bits with or without sign.  Every other number is of no use to the readers of this library,
but it must still be well formed, and it must not exceed the largest number of double precision.
-/

set_option autoImplicit false

namespace Outbox.Json

/-- What a well-formed number holds. -/
inductive Number where
  | integer (value : Int)
  /-- A number that is no integer of 64 bits. -/
  | other
  deriving DecidableEq, Repr

def isDigit (byte : UInt8) : Bool :=
  0x30 ≤ byte && byte ≤ 0x39

def digitValue (byte : UInt8) : Nat :=
  byte.toNat - 0x30

/-! ## The range of double precision -/

/-- Appends digits to a number as long as it stays below 2⁶⁴.  Gives the number and the count of
digits that found room. -/
def gather (value used : Nat) : Bytes → Nat × Nat
  | [] => (value, used)
  | digit :: rest =>
    let next := value * 10 + digitValue digit
    if next < UInt64.size then gather next (used + 1) rest else (value, used)

/-- The nearest number with 53 significant bits; of two such numbers the even one. -/
def roundTo53 (value : Nat) : Nat :=
  if value < 1 <<< 53 then value
  else
    let size := 1 <<< (Nat.log2 value - 52)
    let quotient := value / size
    let excess := value % size * 2
    let up := excess > size || (excess == size && quotient % 2 == 1)
    (if up then quotient + 1 else quotient) * size

/-- A number `significand · 10 ^ exponent`, each step rounded, has no finite form of double
precision. -/
def exceedsDouble (significand : Nat) (exponent : Int) : Bool :=
  if significand = 0 ∨ exponent < 0 then false
  else if exponent > 308 then true
  else 1 <<< 1024 ≤ roundTo53 (roundTo53 significand * roundTo53 (Nat.pow 10 exponent.toNat))

/-! ## Reading -/

/-- The parts of a number behind its sign. -/
structure Numeral where
  /-- Digits before the point. -/
  whole : Bytes
  /-- Digits behind the point; none if there is no point. -/
  fraction : Bytes
  /-- The exponent; none if there is no exponent mark. -/
  exponent : Option Int
  pointed : Bool

def ofDigits (digits : Bytes) : Nat :=
  digits.foldl (fun value digit => value * 10 + digitValue digit) 0

/-- Reads an exponent behind its mark. -/
def readExponent (bytes : Bytes) : Except Fault (Int × Bytes) :=
  let (negative, bytes) := match bytes with
    | 0x2B :: rest => (false, rest)
    | 0x2D :: rest => (true, rest)
    | _ => (false, bytes)
  let digits := bytes.takeWhile isDigit
  let rest := bytes.dropWhile isDigit
  if digits.isEmpty then
    .error (if rest.isEmpty then .truncated else .malformed)
  else
    let size : Int := ofDigits digits
    .ok (if negative then -size else size, rest)

/-- Reads what follows the digits before the point. -/
def readTail (whole : Bytes) (bytes : Bytes) : Except Fault (Numeral × Bytes) :=
  let finish (fraction : Bytes) (pointed : Bool) (bytes : Bytes) :
      Except Fault (Numeral × Bytes) :=
    match bytes with
    | mark :: rest =>
      if mark = 0x65 ∨ mark = 0x45 then
        match readExponent rest with
        | .error fault => .error fault
        | .ok (exponent, rest) => .ok (⟨whole, fraction, some exponent, pointed⟩, rest)
      else .ok (⟨whole, fraction, none, pointed⟩, bytes)
    | [] => .ok (⟨whole, fraction, none, pointed⟩, [])
  match bytes with
  | 0x2E :: rest =>
    let fraction := rest.takeWhile isDigit
    let rest := rest.dropWhile isDigit
    if fraction.isEmpty then
      .error (if rest.isEmpty then .truncated else .malformed)
    else finish fraction true rest
  | _ => finish [] false bytes

/-- Reads a number behind its sign.  A zero before the point stands alone. -/
def readNumeral (bytes : Bytes) : Except Fault (Numeral × Bytes) :=
  let whole := bytes.takeWhile isDigit
  match whole with
  | [] => .error (if bytes.isEmpty then .truncated else .malformed)
  | first :: others =>
    if first = 0x30 ∧ others ≠ [] then .error .malformed
    else readTail whole (bytes.dropWhile isDigit)

/-- What a numeral with this sign holds. -/
def Numeral.value (negative : Bool) (numeral : Numeral) : Except Fault Number :=
  let magnitude := ofDigits numeral.whole
  if !numeral.pointed && numeral.exponent.isNone && magnitude < UInt64.size then
    if !negative then .ok (.integer magnitude)
    else if magnitude = 0 ∨ 1 <<< 63 < magnitude then .ok .other
    else .ok (.integer (-magnitude))
  else
    let (start, wholeUsed) := gather 0 0 numeral.whole
    let (significand, fractionUsed) := gather start 0 numeral.fraction
    let exponent : Int :=
      ((numeral.whole.length - wholeUsed : Nat) : Int) - fractionUsed + numeral.exponent.getD 0
    if exceedsDouble significand exponent then .error .malformed else .ok .other

/-- Reads a number behind its sign. -/
def readNumberSigned (negative : Bool) (bytes : Bytes) : Except Fault (Number × Bytes) :=
  match readNumeral bytes with
  | .error fault => .error fault
  | .ok (numeral, rest) =>
    match numeral.value negative with
    | .error fault => .error fault
    | .ok number => .ok (number, rest)

def readNumber : Bytes → Except Fault (Number × Bytes)
  | 0x2D :: rest => readNumberSigned true rest
  | bytes => readNumberSigned false bytes

/-- Passes over a number behind its sign.  A number that ends too early is malformed here, and its
size does not matter. -/
def skipNumber (bytes : Bytes) : Except Fault Bytes :=
  let bytes := match bytes with
    | 0x2D :: rest => rest
    | _ => bytes
  match readNumeral bytes with
  | .error _ => .error .malformed
  | .ok (_, rest) => .ok rest

/-! ## Writing -/

def integerText (value : Int) : List Char :=
  if value < 0 then '-' :: Nat.toDigits 10 value.natAbs else Nat.toDigits 10 value.natAbs

end Outbox.Json
