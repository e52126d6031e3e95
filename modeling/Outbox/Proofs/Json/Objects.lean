import Outbox.Proofs.Json.Passing

/-!
# Object texts

The text of an object as somebody else may write it: members of any names in any order, their names
and texts spelled in any way, white space wherever the grammar allows it.
-/

set_option autoImplicit false

namespace Outbox.Json

/-- White space that somebody has chosen. -/
structure Space where
  bytes : Bytes
  blank : Blank bytes

def Space.none : Space :=
  ⟨[], Blank.nil⟩

/-- A member of an object as it is written, with the white space around its name and its value. -/
structure Field where
  name : String
  /-- The bytes between the quotes of the name. -/
  spelling : Bytes
  value : Bytes
  beforeName : Space := .none
  beforeColon : Space := .none
  beforeValue : Space := .none
  behindValue : Space := .none
  spelled : Spells name.toList spelling
  written : Written .value value

/-- The bytes from a member on, behind the opening quote of its name. -/
def Field.tail (field : Field) (rest : Bytes) : Bytes :=
  field.spelling ++ 0x22 :: (field.beforeColon.bytes ++ 0x3A ::
    (field.beforeValue.bytes ++ (field.value ++ (field.behindValue.bytes ++ rest))))

/-- The bytes of an object behind its opening brace or, if a member was there before, behind that
member. -/
def fieldsBytes (first : Bool) : List Field → Bytes → Bytes
  | [], behind => 0x7D :: behind
  | field :: fields, behind =>
    (if first then [] else [0x2C]) ++
      (field.beforeName.bytes ++ 0x22 :: field.tail (fieldsBytes false fields behind))

/-- A text that holds an object and nothing else. -/
structure ObjectText where
  fields : List Field
  before : Space := .none
  behindBrace : Space := .none
  behind : Space := .none

def ObjectText.bytes (object : ObjectText) : Bytes :=
  object.before.bytes ++ 0x7B ::
    (object.behindBrace.bytes ++ fieldsBytes true object.fields object.behind.bytes)

/-- The values of all members with a name. -/
def ObjectText.valuesOf (object : ObjectText) (name : String) : List Bytes :=
  (object.fields.filter fun field => field.name = name).map Field.value

/-- What follows a member ends a number. -/
theorem Field.stops (field : Field) (fields : List Field) (behind : Bytes) :
    Stops (field.behindValue.bytes ++ fieldsBytes false fields behind) := by
  apply field.behindValue.blank.stops
  cases fields with
  | nil => exact stops_cons _ (by decide)
  | cons next fields => exact stops_cons _ (by decide)

theorem length_le_fieldsBytes (first : Bool) (fields : List Field) (behind : Bytes) :
    fields.length < (fieldsBytes first fields behind).length := by
  induction fields generalizing first with
  | nil =>
      simp only [fieldsBytes, List.length_cons, List.length_nil]
      omega
  | cons field fields ih =>
      have shorter := ih false
      simp only [fieldsBytes, Field.tail, List.length_append, List.length_cons]
      omega

/-! ## Other spellings -/

/-- The bytes are another way to write a JSON text: a text between quotes may be spelled
otherwise. -/
inductive Restates : List Char → Bytes → Prop where
  | same (text : List Char) : Restates text (Utf8.encode text)
  | respelled {text : List Char} {content : Bytes} : Spells text content →
      Restates (quote text) (0x22 :: (content ++ [0x22]))

/-- A reader of something else than a text looks at the whole text before it gives up. -/
theorem Spells.mismatch {text : List Char} {content : Bytes} (spells : Spells text content)
    (rest : Bytes) : mismatch (0x22 :: (content ++ 0x22 :: rest)) = .unsuitable := by
  have read := spells.readText rest
  simp [Json.mismatch, expectWord, isDigit, read]

theorem Spells.readInteger {α : Type} {convert? : Int → Option α} {text : List Char}
    {content : Bytes} (spells : Spells text content) (rest : Bytes) :
    readInteger convert? (0x22 :: (content ++ 0x22 :: rest)) = .error .unsuitable := by
  rw [Json.readInteger, dropSpace_of_visible rfl]
  simp [isDigit, spells.mismatch]

theorem Spells.readOctets {text : List Char} {content : Bytes} (spells : Spells text content)
    (rest : Bytes) :
    readOctets (0x22 :: (content ++ 0x22 :: rest)) = .error .unsuitable := by
  rw [Json.readOctets, dropSpace_of_visible rfl]
  simp [spells.mismatch]

/-! ## What the writer writes -/

theorem written_quote (text : List Char) : Written .value (Utf8.encode (quote text)) := by
  have bytes := encode_quote text []
  rw [List.append_nil] at bytes
  rw [bytes]
  exact .text (Spells.quoted text).literal

theorem digits_digitBytes (value : Nat) : Digits (digitBytes value) where
  nonempty := by
    obtain ⟨first, others, shape, _⟩ := digitBytes_cons value
    rw [shape]
    exact List.cons_ne_nil first others
  all := isDigit_digitBytes value

theorem written_integerText (value : Int) : Written .value (Utf8.encode (integerText value)) := by
  have alone : (digitBytes value.natAbs).head? = some 0x30 → digitBytes value.natAbs = [0x30] := by
    obtain ⟨first, others, shape, _, lone⟩ := digitBytes_cons value.natAbs
    rw [shape]
    intro zero
    cases zero
    rw [Decidable.not_not.mp fun more => lone ⟨rfl, more⟩]
  have figure : ∀ {sign : Bytes}, sign = [] ∨ sign = [0x2D] →
      Figure (sign ++ digitBytes value.natAbs) := by
    intro sign signed
    simpa using Figure.mk signed (digits_digitBytes _) alone .absent .absent
  unfold integerText
  split
  · have minus : Utf8.encodeChar '-' = [0x2D] := by decide
    rw [Utf8.encode_cons, minus]
    exact .number (figure (Or.inr rfl))
  · exact .number (figure (Or.inl rfl))

end Outbox.Json
