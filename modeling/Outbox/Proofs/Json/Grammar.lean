import Outbox.Proofs.Json.Values

/-!
# The grammar of JSON

Which bytes are a value, and which bytes between two quotes stand for a text.  The grammar says
nothing about how a value is read: a value that is only passed over may hold any escapes and any
numbers.  The items of lists and the members of objects have one set of rules, since only their
marks differ.
-/

set_option autoImplicit false

namespace Outbox.Json

/-! ## White space -/

/-- White space between the parts of a value. -/
def Blank (gap : Bytes) : Prop :=
  ∀ byte ∈ gap, isSpace byte = true

theorem Blank.nil : Blank [] := by
  intro byte member
  cases member

theorem Blank.dropSpace {gap : Bytes} (blank : Blank gap) (rest : Bytes) :
    dropSpace (gap ++ rest) = Json.dropSpace rest :=
  List.dropWhile_append_of_pos blank

theorem Blank.dropSpace_visible {gap : Bytes} (blank : Blank gap) {byte : UInt8}
    (visible : isSpace byte = false) (rest : Bytes) :
    Json.dropSpace (gap ++ byte :: rest) = byte :: rest := by
  rw [blank.dropSpace, dropSpace_of_visible visible]

/-- White space, and a byte that does not continue a number, end a number. -/
theorem Blank.stops {gap rest : Bytes} (blank : Blank gap) (stops : Stops rest) :
    Stops (gap ++ rest) := by
  cases gap with
  | nil => exact stops
  | cons space gap =>
      intro byte head
      cases head
      have white := blank space (List.mem_cons_self ..)
      refine ⟨?_, ?_, ?_, ?_⟩
      · cases digit : isDigit space with
        | false => rfl
        | true => rw [isSpace_of_isDigit digit] at white; cases white
      all_goals
        rintro rfl
        cases white

theorem stops_cons {byte : UInt8} (rest : Bytes)
    (ends : isDigit byte = false ∧ byte ≠ 0x2E ∧ byte ≠ 0x65 ∧ byte ≠ 0x45) :
    Stops (byte :: rest) := by
  intro other head
  cases head
  exact ends

/-! ## Texts -/

/-- The bytes between two quotes of which nobody asks for which text they stand. -/
inductive Literal : Bytes → Prop where
  | nil : Literal []
  | plain {byte : UInt8} {rest : Bytes} : byte ≠ 0x22 → byte ≠ 0x5C → ¬byte < 0x20 →
      Literal rest → Literal (byte :: rest)
  | escape {letter : UInt8} {rest : Bytes} : (escape? letter).isSome = true →
      Literal rest → Literal (0x5C :: letter :: rest)
  | unit {a b c d : UInt8} {rest : Bytes} : (codeUnit? a b c d).isSome = true →
      Literal rest → Literal (0x5C :: 0x75 :: a :: b :: c :: d :: rest)

theorem Literal.plains {bytes rest : Bytes}
    (plain : ∀ byte ∈ bytes, byte ≠ 0x22 ∧ byte ≠ 0x5C ∧ ¬byte < 0x20) (literal : Literal rest) :
    Literal (bytes ++ rest) := by
  induction bytes with
  | nil => exact literal
  | cons byte bytes ih =>
      obtain ⟨unquoted, unescaped, visible⟩ := plain byte (List.mem_cons_self ..)
      exact .plain unquoted unescaped visible
        (ih fun other member => plain other (List.mem_cons_of_mem _ member))

theorem Spells.literal {text : List Char} {content : Bytes} (spells : Spells text content) :
    Literal content := by
  induction spells with
  | nil => exact .nil
  | plain unquoted unescaped visible _ ih =>
      exact .plains (plain_of_encodeChar unquoted unescaped visible) ih
  | escape known _ ih => exact .escape (by rw [known]; rfl) ih
  | unit known _ _ _ ih => exact .unit (by rw [known]; rfl) ih
  | pair first _ second _ _ ih =>
      exact .unit (by rw [first]; rfl) (.unit (by rw [second]; rfl) ih)

/-- Nothing of a literal is taken for its closing quote. -/
theorem Literal.skipText {content : Bytes} (literal : Literal content) (rest : Bytes) :
    skipText (content ++ 0x22 :: rest) = .ok rest := by
  induction literal with
  | nil =>
      rw [List.nil_append, Json.skipText.eq_def]
      rfl
  | plain unquoted unescaped visible _ ih =>
      rw [List.cons_append, Json.skipText.eq_def]
      simp only
      rw [if_neg unquoted, if_pos unescaped, if_neg visible, ih]
  | @escape letter _ known _ ih =>
      have short : letter ≠ 0x75 := by
        rintro rfl
        cases known
      rw [List.cons_append, List.cons_append, Json.skipText.eq_def]
      simp only
      rw [if_neg (by decide), if_neg (by decide), if_pos short, if_pos known, ih]
  | unit known _ ih =>
      simp only [List.cons_append]
      rw [Json.skipText.eq_def]
      simp only
      rw [if_neg (by decide), if_neg (by decide), if_neg (by decide), if_pos known, ih]

/-! ## Numbers -/

/-- One digit or more. -/
structure Digits (digits : Bytes) : Prop where
  nonempty : digits ≠ []
  all : ∀ byte ∈ digits, isDigit byte = true

inductive Fraction : Bytes → Prop where
  | absent : Fraction []
  | present {digits : Bytes} : Digits digits → Fraction (0x2E :: digits)

inductive Exponent : Bytes → Prop where
  | absent : Exponent []
  | present {mark : UInt8} {sign digits : Bytes} : mark = 0x65 ∨ mark = 0x45 →
      sign = [] ∨ sign = [0x2B] ∨ sign = [0x2D] → Digits digits →
      Exponent (mark :: (sign ++ digits))

/-- The bytes of a number.  A zero before the point stands alone. -/
inductive Figure : Bytes → Prop where
  | mk {sign whole fraction exponent : Bytes} : sign = [] ∨ sign = [0x2D] → Digits whole →
      (whole.head? = some 0x30 → whole = [0x30]) → Fraction fraction → Exponent exponent →
      Figure (sign ++ (whole ++ (fraction ++ exponent)))

section Numbers
variable {rest : Bytes}

theorem Digits.head {digits : Bytes} (run : Digits digits) :
    ∃ first others, digits = first :: others ∧ isDigit first = true := by
  cases digits with
  | nil => exact absurd rfl run.nonempty
  | cons first others => exact ⟨first, others, rfl, run.all first (List.mem_cons_self ..)⟩

theorem Digits.readExponent {sign digits : Bytes}
    (signed : sign = [] ∨ sign = [0x2B] ∨ sign = [0x2D]) (run : Digits digits)
    (stops : Stops rest) :
    ∃ exponent, readExponent (sign ++ (digits ++ rest)) = .ok (exponent, rest) := by
  have span := stops.span run.all
  have nonempty := run.nonempty
  rcases signed with rfl | rfl | rfl
  · obtain ⟨first, others, rfl, digit⟩ := run.head
    have unsigned : first ≠ 0x2B ∧ first ≠ 0x2D := by
      constructor <;> (rintro rfl; cases digit)
    rw [List.cons_append] at span
    simp [Json.readExponent, span, unsigned]
  · simp [Json.readExponent, span, nonempty]
  · simp [Json.readExponent, span, nonempty]

/-- What follows the digits of a number does not continue them. -/
theorem head_exponent {exponent : Bytes} (written : Exponent exponent) (stops : Stops rest) :
    ∀ byte ∈ (exponent ++ rest).head?, isDigit byte = false := by
  intro byte head
  cases written with
  | absent => exact (stops byte head).1
  | present mark _ _ =>
      cases head
      rcases mark with rfl | rfl <;> rfl

theorem readTail_written (whole : Bytes) {fraction exponent : Bytes} (point : Fraction fraction)
    (mark : Exponent exponent) (stops : Stops rest) :
    ∃ numeral, readTail whole (fraction ++ (exponent ++ rest)) = .ok (numeral, rest) := by
  have ends := head_exponent mark stops
  cases mark with
  | absent =>
      cases point with
      | absent => exact ⟨_, readTail_of_stops stops⟩
      | present run =>
          have span := stops.span run.all
          cases rest with
          | nil =>
              rw [List.append_nil] at span
              simp [readTail, span, run.nonempty]
          | cons byte rest =>
              have markless := (stops byte rfl).2.2
              simp [readTail, span, run.nonempty, markless]
  | @present mark sign digits letter signed tens =>
      obtain ⟨value, read⟩ := tens.readExponent signed stops
      cases point with
      | absent =>
          have pointless : mark ≠ 0x2E := by
            rcases letter with rfl | rfl <;> decide
          simp [readTail, letter, read, pointless]
      | present run =>
          have span := span_digits run.all ends
          simp only [List.cons_append, List.append_assoc] at span
          simp [readTail, letter, read, span, run.nonempty]

theorem readNumeral_written {whole fraction exponent : Bytes} (run : Digits whole)
    (alone : whole.head? = some 0x30 → whole = [0x30]) (point : Fraction fraction)
    (mark : Exponent exponent) (stops : Stops rest) :
    ∃ numeral,
      readNumeral (whole ++ (fraction ++ (exponent ++ rest))) = .ok (numeral, rest) := by
  have ends : ∀ byte ∈ (fraction ++ (exponent ++ rest)).head?, isDigit byte = false := by
    cases point with
    | absent => simpa using head_exponent mark stops
    | present _ =>
        intro byte head
        cases head
        rfl
  have span := span_digits run.all ends
  have tail := readTail_written whole point mark stops
  unfold readNumeral
  rw [span.1, span.2]
  obtain ⟨first, others, rfl, _⟩ := run.head
  have lone : ¬(first = 0x30 ∧ others ≠ []) := by
    rintro ⟨rfl, more⟩
    exact more (List.cons.inj (alone rfl)).2
  simp only [if_neg lone]
  exact tail

/-- The first byte of a number says that it is one. -/
theorem Figure.head {number : Bytes} (figure : Figure number) :
    ∃ first others, number = first :: others ∧ (first = 0x2D ∨ isDigit first = true) := by
  obtain ⟨signed, run, _, _, _⟩ := figure
  rcases signed with rfl | rfl
  · obtain ⟨first, others, rfl, digit⟩ := run.head
    exact ⟨first, _, rfl, Or.inr digit⟩
  · exact ⟨0x2D, _, rfl, Or.inl rfl⟩

/-- A number is passed over up to what follows it. -/
theorem Figure.skipNumber {number : Bytes} (figure : Figure number) (stops : Stops rest) :
    skipNumber (number ++ rest) = .ok rest := by
  obtain ⟨signed, run, alone, point, mark⟩ := figure
  obtain ⟨numeral, read⟩ := readNumeral_written run alone point mark stops
  rcases signed with rfl | rfl
  · obtain ⟨first, others, rfl, digit⟩ := run.head
    have unsigned : first ≠ 0x2D := by
      rintro rfl
      cases digit
    rw [List.cons_append] at read
    simp [Json.skipNumber, unsigned, read]
  · simp [Json.skipNumber, read]

end Numbers

/-! ## Values -/

def Frame.opening : Frame → UInt8
  | .list => 0x5B
  | .object => 0x7B

/-- The words `null`, `true` and `false`. -/
def words : List Bytes :=
  [[0x6E, 0x75, 0x6C, 0x6C], [0x74, 0x72, 0x75, 0x65], [0x66, 0x61, 0x6C, 0x73, 0x65]]

/-- The parts of which values are made up. -/
inductive Part where
  | value
  /-- An item of a list, or a member of an object with its name. -/
  | item (frame : Frame)
  /-- What follows an item, up to the closing mark and with it. -/
  | others (frame : Frame)

/-- The bytes are such a part.  Space stands before a value, before a comma and before a closing
mark. -/
inductive Written : Part → Bytes → Prop where
  | word {word : Bytes} : word ∈ words → Written .value word
  | number {number : Bytes} : Figure number → Written .value number
  | text {content : Bytes} : Literal content → Written .value (0x22 :: (content ++ [0x22]))
  | empty (frame : Frame) {gap : Bytes} : Blank gap →
      Written .value (frame.opening :: (gap ++ [frame.closing]))
  | filled (frame : Frame) {item others : Bytes} : Written (.item frame) item →
      Written (.others frame) others → Written .value (frame.opening :: (item ++ others))
  | element {gap value : Bytes} : Blank gap → Written .value value →
      Written (.item .list) (gap ++ value)
  | member {before name behind gap value : Bytes} : Blank before → Literal name → Blank behind →
      Blank gap → Written .value value →
      Written (.item .object)
        (before ++ 0x22 :: (name ++ 0x22 :: (behind ++ 0x3A :: (gap ++ value))))
  | closing (frame : Frame) {gap : Bytes} : Blank gap →
      Written (.others frame) (gap ++ [frame.closing])
  | next (frame : Frame) {gap item others : Bytes} : Blank gap → Written (.item frame) item →
      Written (.others frame) others →
      Written (.others frame) (gap ++ 0x2C :: (item ++ others))

/-- A value begins with a byte that is neither space nor the end of a list or an object. -/
theorem Written.head {value : Bytes} (written : Written .value value) :
    ∃ first others, value = first :: others ∧ isSpace first = false ∧ first ≠ 0x5D ∧
      first ≠ 0x7D := by
  cases written with
  | word known =>
      simp only [words, List.mem_cons, List.not_mem_nil, or_false] at known
      rcases known with rfl | rfl | rfl <;> exact ⟨_, _, rfl, rfl, by decide, by decide⟩
  | number figure =>
      obtain ⟨first, others, rfl, minus | digit⟩ := figure.head
      · subst minus
        exact ⟨_, _, rfl, rfl, by decide, by decide⟩
      · refine ⟨first, others, rfl, isSpace_of_isDigit digit, ?_, ?_⟩ <;>
          (rintro rfl; cases digit)
  | text _ => exact ⟨_, _, rfl, rfl, by decide, by decide⟩
  | empty frame _ | filled frame _ _ =>
      cases frame <;> exact ⟨_, _, rfl, rfl, by decide, by decide⟩

/-- An item does not look like the closing mark of its list or object. -/
theorem Written.item_opens {frame : Frame} {item : Bytes} (written : Written (.item frame) item)
    (rest : Bytes) :
    ∃ first others, dropSpace (item ++ rest) = first :: others ∧ first ≠ frame.closing := by
  cases written with
  | element blank value =>
      obtain ⟨first, others, rfl, visible, unclosed, _⟩ := value.head
      refine ⟨first, others ++ rest, ?_, unclosed⟩
      rw [List.append_assoc, List.cons_append, blank.dropSpace_visible visible]
  | member blank _ _ _ _ =>
      rw [List.append_assoc, List.cons_append, blank.dropSpace_visible rfl]
      exact ⟨_, _, rfl, by decide⟩

/-- What follows an item ends a number. -/
theorem Written.others_stop {frame : Frame} {others : Bytes}
    (written : Written (.others frame) others) (rest : Bytes) : Stops (others ++ rest) := by
  cases written with
  | closing _ blank =>
      rw [List.append_assoc]
      apply blank.stops
      apply stops_cons
      cases frame <;> decide
  | next _ blank _ _ =>
      rw [List.append_assoc]
      exact blank.stops (stops_cons _ (by decide))

end Outbox.Json
