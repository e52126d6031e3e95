import Outbox.Text.Hexadecimal

/-!
# Identifiers

A UUID is a number of 128 bits.  It is written as 32 digits in five groups; four written forms are
read, in any case of the letters.
-/

set_option autoImplicit false

namespace Outbox

/-- There are 2¹²⁸ identifiers. -/
def uuidCount : Nat := 0x100000000000000000000000000000000

/-- A universally unique identifier. -/
structure Uuid where
  value : Nat
  inRange : value < uuidCount
  deriving DecidableEq, Repr

namespace Uuid

instance : Inhabited Uuid := ⟨⟨0, by decide⟩⟩

/-- The written form: groups of 8, 4, 4, 4 and 12 digits with hyphens between them. -/
def text (id : Uuid) : List Char :=
  let digits := Text.hexDigits 32 id.value
  digits.take 8 ++ '-' :: (digits.drop 8).take 4 ++ '-' :: (digits.drop 12).take 4 ++
    '-' :: (digits.drop 16).take 4 ++ '-' :: digits.drop 20

def toText (id : Uuid) : String :=
  String.ofList id.text

/-- Reads 32 digits without hyphens. -/
def ofDigits? (digits : List Char) : Option Uuid :=
  if digits.length = 32 then
    match Text.ofHexDigits? digits with
    | some value => if inRange : value < uuidCount then some ⟨value, inRange⟩ else none
    | none => none
  else none

def ofHyphenated? (text : List Char) : Option Uuid :=
  if [8, 13, 18, 23].all fun position => text[position]? == some '-' then
    ofDigits? (text.take 8 ++ (text.drop 9).take 4 ++ (text.drop 14).take 4 ++
      (text.drop 19).take 4 ++ text.drop 24)
  else none

/-- The mark of an identifier that is written as a name of resources. -/
def resourceMark : List Char := ['u', 'r', 'n', ':', 'u', 'u', 'i', 'd', ':']

/-- Reads 32 bare digits, the written form, the written form in braces, or the written form behind
`resourceMark`.  The four forms differ in length. -/
def parse? (text : List Char) : Option Uuid :=
  match text.length with
  | 32 => ofDigits? text
  | 36 => ofHyphenated? text
  | 38 =>
    if text.head? = some '\x7b' ∧ text.getLast? = some '\x7d' then
      ofHyphenated? (text.drop 1).dropLast
    else none
  | 45 =>
    if (text.take 9).map Char.toLower = resourceMark then ofHyphenated? (text.drop 9) else none
  | _ => none

/-- Identifiers are ordered as numbers, which is the order of their written forms. -/
instance : LE Uuid := ⟨fun a b => a.value ≤ b.value⟩

instance (a b : Uuid) : Decidable (a ≤ b) := inferInstanceAs (Decidable (a.value ≤ b.value))

end Uuid

end Outbox
