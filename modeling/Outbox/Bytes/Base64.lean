import Outbox.Bytes.Basic

/-!
# Base64

The standard alphabet with padding.  Three bytes become four digits.  A reader takes exactly what a
writer produces: the padding must be there and the bits that carry no data must be zero.
-/

set_option autoImplicit false

namespace Outbox.Base64

/-- The digit of a six-bit value: letters, small letters, decimal digits, `+`, `/`. -/
def digit (value : Nat) : Char :=
  if value < 26 then Char.ofNat (65 + value)
  else if value < 52 then Char.ofNat (71 + value)
  else if value < 62 then Char.ofNat (value - 4)
  else if value = 62 then '+'
  else '/'

/-- The six-bit value of a digit. -/
def digitValue? (c : Char) : Option Nat :=
  let code := c.toNat
  if 65 ≤ code ∧ code ≤ 90 then some (code - 65)
  else if 97 ≤ code ∧ code ≤ 122 then some (code - 71)
  else if 48 ≤ code ∧ code ≤ 57 then some (code + 4)
  else if c = '+' then some 62
  else if c = '/' then some 63
  else none

def encode : Bytes → List Char
  | [] => []
  | [a] =>
    let a := a.toNat
    [digit (a / 4), digit (a % 4 * 16), '=', '=']
  | [a, b] =>
    let a := a.toNat
    let b := b.toNat
    [digit (a / 4), digit (a % 4 * 16 + b / 16), digit (b % 16 * 4), '=']
  | a :: b :: c :: rest =>
    let a := a.toNat
    let b := b.toNat
    let c := c.toNat
    digit (a / 4) :: digit (a % 4 * 16 + b / 16) :: digit (b % 16 * 4 + c / 64) ::
      digit (c % 64) :: encode rest

/-- One byte from two digits before two signs of padding. -/
def decodeOne? (a b : Char) : Option Bytes :=
  match digitValue? a, digitValue? b with
  | some x, some y => if y % 16 = 0 then some [UInt8.ofNat (x * 4 + y / 16)] else none
  | _, _ => none

/-- Two bytes from three digits before one sign of padding. -/
def decodeTwo? (a b c : Char) : Option Bytes :=
  match digitValue? a, digitValue? b, digitValue? c with
  | some x, some y, some z =>
    if z % 4 = 0 then
      some [UInt8.ofNat (x * 4 + y / 16), UInt8.ofNat (y % 16 * 16 + z / 4)]
    else none
  | _, _, _ => none

def decodeThree? (a b c d : Char) : Option Bytes :=
  match digitValue? a, digitValue? b, digitValue? c, digitValue? d with
  | some x, some y, some z, some w =>
    some [UInt8.ofNat (x * 4 + y / 16), UInt8.ofNat (y % 16 * 16 + z / 4),
      UInt8.ofNat (z % 4 * 64 + w)]
  | _, _, _, _ => none

def decode? : List Char → Option Bytes
  | [] => some []
  | [a, b, '=', '='] => decodeOne? a b
  | [a, b, c, '='] => decodeTwo? a b c
  | a :: b :: c :: d :: rest =>
    match decodeThree? a b c d with
    | some bytes => (decode? rest).map (bytes ++ ·)
    | none => none
  | _ => none

end Outbox.Base64
