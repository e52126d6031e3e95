import Outbox.Json.Scalar
import Outbox.Proofs.Bytes.Utf8

/-!
# JSON values there and back

A reader gives back what was written and leaves what follows: texts with all their escapes, integers
of 64 bits, and lists of octets.  Texts end with their quote; what follows an integer must not
continue it.
-/

set_option autoImplicit false

namespace Outbox.Json

/-! ## Texts -/

section Scan
variable {seen rest : Bytes}

theorem scanAfter_plain {byte : UInt8} (unquoted : byte ≠ 0x22) (unescaped : byte ≠ 0x5C)
    (visible : ¬byte < 0x20) :
    scanAfter seen (byte :: rest) = scanAfter (byte :: seen) rest := by
  rw [scanAfter.eq_def]
  simp only
  rw [if_neg unquoted, if_pos unescaped, if_neg visible]

theorem scanAfter_plains {bytes : Bytes}
    (plain : ∀ byte ∈ bytes, byte ≠ 0x22 ∧ byte ≠ 0x5C ∧ ¬byte < 0x20) :
    scanAfter seen (bytes ++ rest) = scanAfter (bytes.reverse ++ seen) rest := by
  induction bytes generalizing seen with
  | nil => rfl
  | cons byte bytes ih =>
      obtain ⟨unquoted, unescaped, visible⟩ := plain byte (List.mem_cons_self ..)
      rw [List.cons_append, scanAfter_plain unquoted unescaped visible,
        ih fun other member => plain other (List.mem_cons_of_mem _ member)]
      simp

theorem scanAfter_escape {letter : UInt8} {c : Char} (escapes : escape? letter = some c) :
    scanAfter seen (0x5C :: letter :: rest) = scanAfter (push c seen) rest := by
  have short : letter ≠ 0x75 := by
    rintro rfl
    cases escapes
  rw [scanAfter.eq_def]
  simp only
  rw [if_neg (by decide), if_neg (by decide), if_pos short, escapes]

theorem scanAfter_unit {a b c d : UInt8} {unit : Nat} (read : codeUnit? a b c d = some unit)
    (unled : isLeading unit = false) (untrailing : isTrailing unit = false) :
    scanAfter seen (0x5C :: 0x75 :: a :: b :: c :: d :: rest) =
      scanAfter (push (Char.ofNat unit) seen) rest := by
  rw [scanAfter.eq_def]
  simp only
  rw [if_neg (by decide), if_neg (by decide), if_neg (by decide)]
  simp [read, unled, untrailing]

theorem unpaired_of_small {unit : Nat} (small : unit < 0xD800) :
    isLeading unit = false ∧ isTrailing unit = false := by
  simp [isTrailing, isLeading]
  omega

theorem unit_of_control : ∀ code < 0x20,
    (match Utf8.encode (Text.hexDigits 4 code) with
      | [a, b, c, d] => codeUnit? a b c d
      | _ => none) = some code := by
  decide

theorem eq_of_toNat {c d : Char} (same : c.toNat = d.toNat) : c = d := by
  rw [← Char.ofNat_toNat c, same, Char.ofNat_toNat]

theorem plain_of_encodeChar {c : Char} (unquoted : c ≠ '"') (unescaped : c ≠ '\\')
    (visible : ¬c.toNat < 0x20) :
    ∀ byte ∈ Utf8.encodeChar c, byte ≠ 0x22 ∧ byte ≠ 0x5C ∧ ¬byte < 0x20 := by
  -- A byte of the character that is below 128 is the character itself.
  have own : ∀ byte ∈ Utf8.encodeChar c, byte.toNat = c.toNat ∨ 0x80 ≤ byte.toNat := by
    intro byte member
    by_cases small : c.toNat < 0x80
    · rw [Utf8.encodeChar_ascii small, List.mem_singleton] at member
      rw [member, Utf8.toNat_octet (by omega)]
      exact Or.inl rfl
    · exact Or.inr (Utf8.high_of_encodeChar (by omega) byte member)
  have no_quote : c.toNat ≠ 0x22 := fun same => unquoted (eq_of_toNat same)
  have no_escape : c.toNat ≠ 0x5C := fun same => unescaped (eq_of_toNat same)
  intro byte member
  have either := own byte member
  refine ⟨?_, ?_, ?_⟩
  · rintro rfl
    change (0x22 : Nat) = _ ∨ 0x80 ≤ (0x22 : Nat) at either
    omega
  · rintro rfl
    change (0x5C : Nat) = _ ∨ 0x80 ≤ (0x5C : Nat) at either
    omega
  · rw [UInt8.lt_iff_toNat_lt]
    change ¬byte.toNat < 0x20
    omega

theorem scanAfter_pair {a b c d e f g h : UInt8} {leading trailing : Nat}
    (first : codeUnit? a b c d = some leading) (leads : isLeading leading = true)
    (second : codeUnit? e f g h = some trailing) (trails : isTrailing trailing = true) :
    scanAfter seen
      (0x5C :: 0x75 :: a :: b :: c :: d :: 0x5C :: 0x75 :: e :: f :: g :: h :: rest) =
      scanAfter (push (ofSurrogates leading trailing) seen) rest := by
  have untrailing : isTrailing leading = false := by
    simp only [isLeading, isTrailing, Bool.and_eq_true, decide_eq_true_eq, Bool.and_eq_false_iff,
      decide_eq_false_iff_not] at leads ⊢
    omega
  rw [scanAfter.eq_def]
  simp only
  rw [if_neg (by decide), if_neg (by decide), if_neg (by decide)]
  simp [first, second, leads, trails, untrailing]

end Scan

/-- The bytes between two quotes stand for a text.  Each character may be written as it is, by its
letter or by its code units; only a quote, a backslash and a control character must be escaped. -/
inductive Spells : List Char → Bytes → Prop where
  | nil : Spells [] []
  | plain {c : Char} {text : List Char} {rest : Bytes} : c ≠ '"' → c ≠ '\\' → ¬c.toNat < 0x20 →
      Spells text rest → Spells (c :: text) (Utf8.encodeChar c ++ rest)
  | escape {letter : UInt8} {c : Char} {text : List Char} {rest : Bytes} :
      escape? letter = some c → Spells text rest → Spells (c :: text) (0x5C :: letter :: rest)
  | unit {a b c d : UInt8} {unit : Nat} {text : List Char} {rest : Bytes} :
      codeUnit? a b c d = some unit → isLeading unit = false → isTrailing unit = false →
      Spells text rest →
      Spells (Char.ofNat unit :: text) (0x5C :: 0x75 :: a :: b :: c :: d :: rest)
  | pair {a b c d e f g h : UInt8} {leading trailing : Nat} {text : List Char} {rest : Bytes} :
      codeUnit? a b c d = some leading → isLeading leading = true →
      codeUnit? e f g h = some trailing → isTrailing trailing = true →
      Spells text rest →
      Spells (ofSurrogates leading trailing :: text)
        (0x5C :: 0x75 :: a :: b :: c :: d :: 0x5C :: 0x75 :: e :: f :: g :: h :: rest)

/-- A text is scanned from each of its spellings. -/
theorem Spells.scanAfter {text : List Char} {content : Bytes} (spells : Spells text content)
    (seen rest : Bytes) :
    Json.scanAfter seen (content ++ 0x22 :: rest) =
      .ok (seen.reverse ++ Utf8.encode text, rest) := by
  induction spells generalizing seen with
  | nil =>
      rw [Json.scanAfter.eq_def]
      simp [Utf8.encode]
  | plain unquoted unescaped visible _ ih =>
      rw [List.append_assoc,
        scanAfter_plains (plain_of_encodeChar unquoted unescaped visible), ih]
      simp
  | escape known _ ih =>
      rw [List.cons_append, List.cons_append, scanAfter_escape known, ih]
      simp [push]
  | unit known unled untrailing _ ih =>
      simp only [List.cons_append]
      rw [scanAfter_unit known unled untrailing, ih]
      simp [push]
  | pair first leads second trails _ ih =>
      simp only [List.cons_append]
      rw [scanAfter_pair first leads second trails, ih]
      simp [push]

theorem Spells.readText {text : List Char} {content : Bytes} (spells : Spells text content)
    (rest : Bytes) : readText (content ++ 0x22 :: rest) = .ok (text, rest) := by
  unfold Json.readText
  rw [spells.scanAfter]
  simp [Utf8.decode?_encode]

/-- Each character may be written as the writer does it. -/
theorem Spells.quoteChar (c : Char) {text : List Char} {content : Bytes}
    (spells : Spells text content) :
    Spells (c :: text) (Utf8.encode (quoteChar c) ++ content) := by
  unfold Json.quoteChar
  split
  · subst c
    exact .escape rfl spells
  split
  · subst c
    exact .escape rfl spells
  split
  · subst c
    exact .escape rfl spells
  split
  · subst c
    exact .escape rfl spells
  split
  · subst c
    exact .escape rfl spells
  split
  · subst c
    exact .escape rfl spells
  split
  · subst c
    exact .escape rfl spells
  split
  · rename_i control
    have read := unit_of_control c.toNat control
    have mark : Utf8.encodeChar '\\' = [0x5C] ∧ Utf8.encodeChar 'u' = [0x75] := by decide
    split at read
    · rename_i digits
      have unpaired := unpaired_of_small (show c.toNat < 0xD800 by omega)
      have spelled := Spells.unit read unpaired.1 unpaired.2 spells
      rw [Char.ofNat_toNat] at spelled
      rw [Utf8.encode_cons, Utf8.encode_cons, digits, mark.1, mark.2]
      exact spelled
    · cases read
  · rename_i unquoted unescaped _ _ _ _ _ visible
    rw [Utf8.encode_cons, Utf8.encode_nil, List.append_nil]
    exact .plain unquoted unescaped visible spells

/-- The writer's own form is one of the spellings of a text. -/
theorem Spells.quoted (text : List Char) :
    Spells text (Utf8.encode (text.flatMap Json.quoteChar)) := by
  induction text with
  | nil => exact .nil
  | cons c text ih =>
      rw [List.flatMap_cons, Utf8.encode_append]
      exact ih.quoteChar c

theorem readText_quoted (text : List Char) (rest : Bytes) :
    readText (Utf8.encode (text.flatMap quoteChar) ++ 0x22 :: rest) = .ok (text, rest) :=
  (Spells.quoted text).readText rest

theorem encode_quote (text : List Char) (rest : Bytes) :
    Utf8.encode (quote text) ++ rest =
      0x22 :: (Utf8.encode (text.flatMap quoteChar) ++ 0x22 :: rest) := by
  have mark : Utf8.encodeChar '"' = [0x22] := by decide
  simp [quote, mark]

theorem Spells.readString {text : List Char} {content : Bytes} (spells : Spells text content)
    (rest : Bytes) : readString (0x22 :: (content ++ 0x22 :: rest)) = .ok (text, rest) :=
  spells.readText rest

theorem readString_quote (text : List Char) (rest : Bytes) :
    readString (Utf8.encode (quote text) ++ rest) = .ok (text, rest) := by
  rw [encode_quote]
  exact (Spells.quoted text).readString rest

theorem readParsed_quote {α : Type} {parse? : List Char → Option α} {text : List Char} {value : α}
    (parsed : parse? text = some value) (rest : Bytes) :
    readParsed parse? (Utf8.encode (quote text) ++ rest) = .ok (value, rest) := by
  unfold readParsed
  rw [readString_quote]
  simp only [parsed]

/-! ## Integers -/

/-- What follows a number does not continue it. -/
def Stops (rest : Bytes) : Prop :=
  ∀ byte ∈ rest.head?, isDigit byte = false ∧ byte ≠ 0x2E ∧ byte ≠ 0x65 ∧ byte ≠ 0x45

/-- The bytes of the digits of a number. -/
def digitBytes (value : Nat) : Bytes :=
  Utf8.encode (Nat.toDigits 10 value)

theorem range_of_isDigit {c : Char} (digit : c.isDigit = true) : 48 ≤ c.toNat ∧ c.toNat ≤ 57 := by
  simpa [Char.isDigit, UInt32.le_iff_toNat_le] using digit

theorem range_of_toDigits (value : Nat) :
    ∀ c ∈ Nat.toDigits 10 value, 48 ≤ c.toNat ∧ c.toNat ≤ 57 :=
  fun _ member => range_of_isDigit (Nat.isDigit_of_mem_toDigits (by decide) (by decide) member)

theorem digitBytes_eq (value : Nat) :
    digitBytes value = (Nat.toDigits 10 value).map fun c => UInt8.ofNat c.toNat := by
  apply Utf8.encode_ascii
  intro c member
  have range := range_of_toDigits value c member
  omega

theorem isDigit_digitBytes (value : Nat) : ∀ byte ∈ digitBytes value, isDigit byte = true := by
  intro byte member
  rw [digitBytes_eq] at member
  obtain ⟨c, digit, rfl⟩ := List.mem_map.mp member
  have range := range_of_toDigits value c digit
  simp only [isDigit, Bool.and_eq_true, decide_eq_true_eq, UInt8.le_iff_toNat_le,
    Utf8.toNat_octet (show c.toNat < 256 by omega)]
  exact range

theorem foldl_digitBytes {digits : List Char} (start : Nat)
    (range : ∀ c ∈ digits, 48 ≤ c.toNat ∧ c.toNat ≤ 57) :
    (digits.map fun c => UInt8.ofNat c.toNat).foldl
      (fun value digit => value * 10 + digitValue digit) start =
      Nat.ofDigitChars 10 digits start := by
  induction digits generalizing start with
  | nil => rfl
  | cons c digits ih =>
      have first := range c (List.mem_cons_self ..)
      have digit : start * 10 + digitValue (UInt8.ofNat c.toNat) =
          10 * start + (c.toNat - '0'.toNat) := by
        rw [digitValue, Utf8.toNat_octet (by omega), Nat.mul_comm]
        rfl
      rw [List.map_cons, List.foldl_cons, Nat.ofDigitChars_cons, digit,
        ih _ fun other member => range other (List.mem_cons_of_mem _ member)]

theorem ofDigits_digitBytes (value : Nat) : ofDigits (digitBytes value) = value := by
  rw [ofDigits, digitBytes_eq, foldl_digitBytes 0 (range_of_toDigits value)]
  exact Nat.ofDigitChars_ten_toDigits

/-- Only the digits of zero begin with a zero. -/
theorem toDigits_cons {value : Nat} (positive : 0 < value) :
    ∃ c rest, Nat.toDigits 10 value = c :: rest ∧ c ≠ '0' := by
  induction value using Nat.strongRecOn with
  | ind value ih =>
      by_cases small : value < 10
      · refine ⟨Nat.digitChar value, [], Nat.toDigits_of_lt_base small, ?_⟩
        rw [ne_eq, Nat.digitChar_eq_zero]
        omega
      · obtain ⟨c, rest, shape, first⟩ := ih (value / 10) (by omega) (by omega)
        rw [Nat.toDigits_of_base_le (by decide) (by omega), shape]
        exact ⟨c, _, rfl, first⟩

theorem digitBytes_cons (value : Nat) :
    ∃ first others, digitBytes value = first :: others ∧ isDigit first = true ∧
      ¬(first = 0x30 ∧ others ≠ []) := by
  have digits := isDigit_digitBytes value
  by_cases zero : value = 0
  · refine ⟨0x30, [], ?_, rfl, by simp⟩
    rw [zero]
    rfl
  · obtain ⟨c, rest, shape, first⟩ := toDigits_cons (Nat.pos_of_ne_zero zero)
    have range := range_of_toDigits value c (by rw [shape]; exact List.mem_cons_self ..)
    have bytes := digitBytes_eq value
    rw [shape, List.map_cons] at bytes
    refine ⟨_, _, bytes, digits _ (by rw [bytes]; exact List.mem_cons_self ..), ?_⟩
    rintro ⟨same, _⟩
    have code := congrArg UInt8.toNat same
    rw [Utf8.toNat_octet (by omega)] at code
    exact first (eq_of_toNat code)

/-- Digits end at the first byte that is none. -/
theorem span_digits {digits rest : Bytes} (all : ∀ byte ∈ digits, isDigit byte = true)
    (ends : ∀ byte ∈ rest.head?, isDigit byte = false) :
    (digits ++ rest).takeWhile isDigit = digits ∧ (digits ++ rest).dropWhile isDigit = rest := by
  rw [List.takeWhile_append_of_pos all, List.dropWhile_append_of_pos all]
  cases rest with
  | nil => simp
  | cons byte rest =>
      have stop := ends byte rfl
      simp [stop]

theorem Stops.span {digits rest : Bytes} (stops : Stops rest)
    (all : ∀ byte ∈ digits, isDigit byte = true) :
    (digits ++ rest).takeWhile isDigit = digits ∧ (digits ++ rest).dropWhile isDigit = rest :=
  span_digits all fun byte head => (stops byte head).1

theorem readTail_of_stops {whole rest : Bytes} (stops : Stops rest) :
    readTail whole rest = .ok (⟨whole, [], none, false⟩, rest) := by
  cases rest with
  | nil => rfl
  | cons byte rest =>
      obtain ⟨_, no_point, no_mark, no_capital⟩ := stops byte rfl
      unfold readTail
      split
      · rename_i same
        exact absurd (List.cons.inj same).1 no_point
      · simp [no_mark, no_capital]

theorem readNumeral_digitBytes (value : Nat) {rest : Bytes} (stops : Stops rest) :
    readNumeral (digitBytes value ++ rest) =
      .ok (⟨digitBytes value, [], none, false⟩, rest) := by
  obtain ⟨first, others, shape, _, lone⟩ := digitBytes_cons value
  have span := stops.span (isDigit_digitBytes value)
  unfold readNumeral
  rw [span.1, span.2, shape]
  simp only
  rw [if_neg lone, readTail_of_stops stops]

theorem readNumberSigned_digitBytes (negative : Bool) {value : Nat} (small : value < UInt64.size)
    {rest : Bytes} (stops : Stops rest) :
    readNumberSigned negative (digitBytes value ++ rest) =
      if !negative then .ok (.integer value, rest)
      else if value = 0 ∨ 1 <<< 63 < value then .ok (.other, rest)
      else .ok (.integer (-value), rest) := by
  unfold readNumberSigned
  rw [readNumeral_digitBytes value stops]
  simp only [Numeral.value, ofDigits_digitBytes, small]
  cases negative with
  | false => rfl
  | true =>
      by_cases other : value = 0 ∨ 1 <<< 63 < value
      · simp only [if_pos other]
        rfl
      · simp only [if_neg other]
        rfl

theorem dropSpace_of_visible {byte : UInt8} (visible : isSpace byte = false) (rest : Bytes) :
    dropSpace (byte :: rest) = byte :: rest := by
  simp [dropSpace, visible]

theorem isSpace_of_isDigit {byte : UInt8} (digit : isDigit byte = true) :
    isSpace byte = false := by
  unfold isSpace
  simp only [Bool.or_eq_false_iff, beq_eq_false_iff_ne]
  refine ⟨⟨⟨?_, ?_⟩, ?_⟩, ?_⟩ <;> (rintro rfl; cases digit)

/-- An integer of 64 bits, with or without sign, is read back. -/
theorem readInteger_integerText {α : Type} {convert? : Int → Option α} {value : Int} {result : α}
    (least : -9223372036854775808 ≤ value) (most : value < 18446744073709551616)
    (converts : convert? value = some result) {rest : Bytes} (stops : Stops rest) :
    readInteger convert? (Utf8.encode (integerText value) ++ rest) = .ok (result, rest) := by
  have size : UInt64.size = 18446744073709551616 := rfl
  unfold integerText
  by_cases negative : value < 0
  · have minus : Utf8.encodeChar '-' = [0x2D] := by decide
    have written : Utf8.encode ('-' :: Nat.toDigits 10 value.natAbs) ++ rest =
        0x2D :: (digitBytes value.natAbs ++ rest) := by
      rw [Utf8.encode_cons, minus]
      rfl
    have signed : ¬(value.natAbs = 0 ∨ 1 <<< 63 < value.natAbs) := by omega
    have same : -(value.natAbs : Int) = value := by omega
    have read : readNumber (0x2D :: (digitBytes value.natAbs ++ rest)) =
        .ok (.integer value, rest) := by
      change readNumberSigned true _ = _
      rw [readNumberSigned_digitBytes true (by omega) stops, if_neg signed, same]
      rfl
    rw [if_pos negative, written, readInteger, dropSpace_of_visible rfl]
    simp [read, converts]
  · obtain ⟨first, others, shape, digit, _⟩ := digitBytes_cons value.natAbs
    have written : Utf8.encode (Nat.toDigits 10 value.natAbs) ++ rest =
        first :: (others ++ rest) := by
      change digitBytes value.natAbs ++ rest = _
      rw [shape]
      rfl
    have same : (value.natAbs : Int) = value := by omega
    have read : readNumber (first :: (others ++ rest)) = .ok (.integer value, rest) := by
      have unsigned : readNumber (first :: (others ++ rest)) =
          readNumberSigned false (first :: (others ++ rest)) := by
        unfold readNumber
        split
        · rename_i same
          cases (List.cons.inj same).1
          cases digit
        · rfl
      rw [unsigned, ← List.cons_append, ← shape,
        readNumberSigned_digitBytes false (by omega) stops, same]
      rfl
    rw [if_neg negative, written, readInteger, dropSpace_of_visible (isSpace_of_isDigit digit)]
    simp [digit, read, converts]

theorem int64?_toInt (value : Int64) : int64? value.toInt = some value := by
  unfold int64?
  rw [if_pos ⟨Int64.minValue_le_toInt value, Int64.toInt_le value⟩, Int64.ofInt_toInt]

theorem readInteger_int64 (value : Int64) {rest : Bytes} (stops : Stops rest) :
    readInteger int64? (Utf8.encode (integerText value.toInt) ++ rest) = .ok (value, rest) := by
  have least := value.le_toInt
  have most := value.toInt_lt
  exact readInteger_integerText (by omega) (by omega) (int64?_toInt value) stops

/-! ## Lists -/

/-- A list as its first item and the others, each behind a comma. -/
theorem intercalate_comma (first : List Char) (others : List (List Char)) :
    List.intercalate [','] (first :: others) = first ++ others.flatMap fun item => ',' :: item := by
  induction others generalizing first with
  | nil => simp
  | cons next others ih =>
      rw [List.intercalate_cons_cons, ih]
      simp

/-- The bytes of items, each behind a comma. -/
def itemBytes {α : Type} (text : α → List Char) (items : List α) : Bytes :=
  Utf8.encode (items.flatMap fun item => ',' :: text item)

theorem itemBytes_cons {α : Type} (text : α → List Char) (item : α) (items : List α) :
    itemBytes text (item :: items) =
      0x2C :: (Utf8.encode (text item) ++ itemBytes text items) := by
  have comma : Utf8.encodeChar ',' = [0x2C] := by decide
  simp [itemBytes, comma]

theorem length_le_itemBytes {α : Type} (text : α → List Char) (items : List α) :
    items.length ≤ (itemBytes text items).length := by
  induction items with
  | nil => exact Nat.zero_le _
  | cons item items ih =>
      rw [itemBytes_cons]
      simp only [List.length_cons, List.length_append]
      omega

/-- What follows an item is the comma before the next one or the end of its list. -/
theorem stops_itemBytes {α : Type} (text : α → List Char) (items : List α) {closing : UInt8}
    (closes : closing = 0x5D ∨ closing = 0x7D) (rest : Bytes) :
    Stops (itemBytes text items ++ closing :: rest) := by
  cases items with
  | nil =>
      intro byte head
      cases head
      rcases closes with rfl | rfl <;> decide
  | cons item items =>
      intro byte head
      rw [itemBytes_cons] at head
      cases head
      decide

def octetText (octet : UInt8) : List Char :=
  Nat.toDigits 10 octet.toNat

theorem readInteger_octet (octet : UInt8) {rest : Bytes} (stops : Stops rest) :
    readInteger octet? (Utf8.encode (octetText octet) ++ rest) = .ok (octet, rest) := by
  have small := octet.toNat_lt
  have converts : octet? (octet.toNat : Int) = some octet := by
    unfold octet?
    rw [if_pos (by omega), Int.toNat_natCast, UInt8.ofNat_toNat]
  have written : integerText (octet.toNat : Int) = octetText octet := by
    unfold integerText
    rw [if_neg (by omega), Int.natAbs_natCast]
    rfl
  rw [← written]
  exact readInteger_integerText (by omega) (by omega) converts stops

/-- The bytes of an octet begin with a digit. -/
theorem nextItem_octet (octet : UInt8) (rest : Bytes) :
    nextItem true (Utf8.encode (octetText octet) ++ rest) =
        .ok (some (Utf8.encode (octetText octet) ++ rest)) ∧
    nextItem false (0x2C :: (Utf8.encode (octetText octet) ++ rest)) =
        .ok (some (Utf8.encode (octetText octet) ++ rest)) := by
  obtain ⟨first, others, shape, digit, _⟩ := digitBytes_cons octet.toNat
  have open_list : first ≠ 0x5D := by
    rintro rfl
    cases digit
  have kept := dropSpace_of_visible (isSpace_of_isDigit digit) (others ++ rest)
  have bytes : Utf8.encode (octetText octet) = first :: others := shape
  rw [bytes, List.cons_append]
  constructor
  · simp [nextItem, kept, open_list]
  · rw [nextItem, dropSpace_of_visible rfl]
    simp [kept, open_list]

/-- The closing bracket ends a list. -/
theorem readOctetsAfter_closing (seen : Bytes) (fuel : Nat) (rest : Bytes) :
    readOctetsAfter seen (fuel + 1) (0x5D :: rest) = .ok (seen.reverse, rest) := by
  have closing := dropSpace_of_visible (show isSpace 0x5D = false from rfl) rest
  simp [readOctetsAfter, nextItem, closeList, closing]

theorem readOctetsAfter_items (octets seen : Bytes) (pending : seen.isEmpty = false) {fuel : Nat}
    (enough : octets.length < fuel) (rest : Bytes) :
    readOctetsAfter seen fuel (itemBytes octetText octets ++ 0x5D :: rest) =
      .ok (seen.reverse ++ octets, rest) := by
  induction octets generalizing seen fuel with
  | nil =>
      cases fuel with
      | zero => omega
      | succ fuel =>
          rw [List.append_nil]
          exact readOctetsAfter_closing seen fuel rest
  | cons octet octets ih =>
      cases fuel with
      | zero => omega
      | succ fuel =>
          rw [List.length_cons] at enough
          have stops := stops_itemBytes octetText octets (Or.inl rfl) rest
          rw [itemBytes_cons, List.cons_append, List.append_assoc, readOctetsAfter, pending,
            (nextItem_octet octet _).2]
          simp only [readInteger_octet octet stops]
          rw [ih (octet :: seen) rfl (by omega)]
          simp

theorem encode_octetsText (octets : Bytes) (rest : Bytes) :
    Utf8.encode (octetsText octets) ++ rest =
      match octets with
      | [] => 0x5B :: 0x5D :: rest
      | first :: others => 0x5B :: (Utf8.encode (octetText first) ++
          (itemBytes octetText others ++ 0x5D :: rest)) := by
  have brackets : Utf8.encodeChar '[' = [0x5B] ∧ Utf8.encodeChar ']' = [0x5D] := by decide
  cases octets with
  | nil => simp [octetsText, brackets]
  | cons first others =>
      have items : List.intercalate [',']
          ((first :: others).map fun octet => Nat.toDigits 10 octet.toNat) =
          octetText first ++ others.flatMap fun octet => ',' :: octetText octet := by
        rw [List.map_cons, intercalate_comma, List.flatMap_map]
        rfl
      rw [octetsText, items]
      simp [brackets, itemBytes]

theorem readOctets_text (octets : Bytes) (rest : Bytes) :
    readOctets (Utf8.encode (octetsText octets) ++ rest) = .ok (octets, rest) := by
  rw [encode_octetsText]
  cases octets with
  | nil =>
      simp only [readOctets]
      rw [dropSpace_of_visible rfl]
      exact readOctetsAfter_closing [] (rest.length + 1) rest
  | cons first others =>
      have stops := stops_itemBytes octetText others (Or.inl rfl) rest
      have enough := length_le_itemBytes octetText others
      simp only [readOctets]
      rw [dropSpace_of_visible rfl]
      simp only [if_true, readOctetsAfter, List.isEmpty_nil, (nextItem_octet first _).1,
        readInteger_octet first stops]
      rw [readOctetsAfter_items others [first] rfl]
      · rfl
      · simp only [List.length_append, List.length_cons]
        omega

end Outbox.Json
