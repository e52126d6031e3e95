import Outbox.Text.Visible

/-!
# Quoted text

A text between double quotes, in a form that shows every character: the quote and the backslash
stand behind a backslash, four control characters have a letter of their own, and every other
character that could not be seen is written by its code point.
-/

set_option autoImplicit false

namespace Outbox.Text

/-- The lowercase hexadecimal digits of a number, without leading zeros. -/
def hexadecimal (value : Nat) : List Char :=
  Nat.toDigits 16 value

def quoteChar (c : Char) : List Char :=
  if c = '"' then ['\\', '"']
  else if c = '\\' then ['\\', '\\']
  else if c = '\n' then ['\\', 'n']
  else if c = '\r' then ['\\', 'r']
  else if c = '\t' then ['\\', 't']
  else if c = '\x00' then ['\\', '0']
  else if isVisible c then [c]
  else ['\\', 'u', '\x7b'] ++ hexadecimal c.toNat ++ ['\x7d']

def quote (text : List Char) : String :=
  String.ofList ('"' :: text.flatMap quoteChar ++ ['"'])

end Outbox.Text
