import Outbox.Bytes.Utf8
import Outbox.Json.Fault
import Outbox.Text.Hexadecimal

/-!
# Texts in JSON

A text between quotes.  It is written with the shortest escapes: only the quote, the backslash and
the characters below the space are escaped.  It is read with every escape of JSON; surrogates must
come in pairs, and the bytes between the quotes must be UTF-8.
-/

set_option autoImplicit false

namespace Outbox.Json

/-! ## Writing -/

def quoteChar (c : Char) : List Char :=
  if c = '"' then ['\\', '"']
  else if c = '\\' then ['\\', '\\']
  else if c = '\x08' then ['\\', 'b']
  else if c = '\x0c' then ['\\', 'f']
  else if c = '\n' then ['\\', 'n']
  else if c = '\r' then ['\\', 'r']
  else if c = '\t' then ['\\', 't']
  else if c.toNat < 0x20 then '\\' :: 'u' :: Text.hexDigits 4 c.toNat
  else [c]

def quote (text : List Char) : List Char :=
  '"' :: text.flatMap quoteChar ++ ['"']

/-! ## Reading -/

def escape? (letter : UInt8) : Option Char :=
  match letter.toNat with
  | 0x22 => some '"'
  | 0x5C => some '\\'
  | 0x2F => some '/'
  | 0x62 => some '\x08'
  | 0x66 => some '\x0c'
  | 0x6E => some '\n'
  | 0x72 => some '\r'
  | 0x74 => some '\t'
  | _ => none

/-- The number that four hexadecimal digits stand for. -/
def codeUnit? (a b c d : UInt8) : Option Nat :=
  Text.ofHexDigits? ([a, b, c, d].map fun digit => Char.ofNat digit.toNat)

/-- A code unit that must be followed by a second one. -/
def isLeading (unit : Nat) : Bool :=
  0xD800 ≤ unit && unit ≤ 0xDBFF

/-- A code unit that must follow a leading one. -/
def isTrailing (unit : Nat) : Bool :=
  0xDC00 ≤ unit && unit ≤ 0xDFFF

def ofSurrogates (leading trailing : Nat) : Char :=
  Char.ofNat ((leading - 0xD800) * 1024 + (trailing - 0xDC00) + 0x10000)

/-- The bytes `seen`, which stand in reverse order, with a character behind them. -/
def push (c : Char) (seen : Bytes) : Bytes :=
  (Utf8.encodeChar c).reverse ++ seen

/-- Scans up to the closing quote.  Gives the bytes of the text with its escapes replaced, and what
follows the quote.  The bytes `seen` were scanned before and stand in reverse order. -/
def scanAfter (seen : Bytes) : Bytes → Except Fault (Bytes × Bytes)
  | [] => .error .truncated
  | byte :: rest =>
    if byte = 0x22 then .ok (seen.reverse, rest)
    else if byte ≠ 0x5C then
      if byte < 0x20 then .error .malformed else scanAfter (byte :: seen) rest
    else
      match rest with
      | [] => .error .truncated
      | letter :: rest =>
        if letter ≠ 0x75 then
          match escape? letter with
          | some c => scanAfter (push c seen) rest
          | none => .error .malformed
        else
          match rest with
          | a :: b :: c :: d :: rest =>
            match codeUnit? a b c d with
            | none => .error .malformed
            | some unit =>
              if isTrailing unit then .error .malformed
              else if !isLeading unit then scanAfter (push (Char.ofNat unit) seen) rest
              else
                match rest with
                | [] => .error .truncated
                | mark :: rest =>
                  if mark ≠ 0x5C then .error .malformed
                  else
                    match rest with
                    | [] => .error .truncated
                    | letter :: rest =>
                      if letter ≠ 0x75 then .error .malformed
                      else
                        match rest with
                        | a :: b :: c :: d :: rest =>
                          match codeUnit? a b c d with
                          | none => .error .malformed
                          | some second =>
                            if isTrailing second then
                              scanAfter (push (ofSurrogates unit second) seen) rest
                            else .error .malformed
                        | _ => .error .truncated
          | _ => .error .truncated

/-- Reads a text behind its opening quote.  Gives the text and what follows its closing quote. -/
def readText (bytes : Bytes) : Except Fault (List Char × Bytes) :=
  match scanAfter [] bytes with
  | .error fault => .error fault
  | .ok (content, rest) =>
    match Utf8.decode? content with
    | some text => .ok (text, rest)
    | none => .error .malformed

/-- Passes over a text behind its opening quote.  Nobody looks at the text, so neither surrogates
nor UTF-8 are checked. -/
def skipText : Bytes → Except Fault Bytes
  | [] => .error .truncated
  | byte :: rest =>
    if byte = 0x22 then .ok rest
    else if byte ≠ 0x5C then
      if byte < 0x20 then .error .malformed else skipText rest
    else
      match rest with
      | [] => .error .truncated
      | letter :: rest =>
        if letter ≠ 0x75 then
          if (escape? letter).isSome then skipText rest else .error .malformed
        else
          match rest with
          | a :: b :: c :: d :: rest =>
            if (codeUnit? a b c d).isSome then skipText rest else .error .malformed
          | _ => .error .truncated

end Outbox.Json
