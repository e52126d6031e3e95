/-!
# Hexadecimal digits

Numbers as a fixed count of lowercase digits, and the value of a digit in either case.
-/

set_option autoImplicit false

namespace Outbox.Text

/-- The value of a hexadecimal digit in either case. -/
def hexValue? (c : Char) : Option Nat :=
  let code := c.toNat
  if 48 ≤ code ∧ code ≤ 57 then some (code - 48)
  else if 97 ≤ code ∧ code ≤ 102 then some (code - 87)
  else if 65 ≤ code ∧ code ≤ 70 then some (code - 55)
  else none

/-- The last `width` hexadecimal digits of a number, leading zeros included. -/
def hexDigits : Nat → Nat → List Char
  | 0, _ => []
  | width + 1, value => hexDigits width (value / 16) ++ [Nat.digitChar (value % 16)]

/-- The number that hexadecimal digits stand for. -/
def ofHexDigits? (digits : List Char) : Option Nat :=
  (digits.mapM hexValue?).map (List.foldl (fun value digit => value * 16 + digit) 0)

end Outbox.Text
