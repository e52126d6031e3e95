import Outbox.Config.Duration
import Outbox.Proofs.Text.WhiteSpace
import Outbox.Proofs.Time.Timestamp

/-!
# Durations as anybody may write them

A setting is a duration if it is made of digits and a unit, with white space anywhere but within the
digits and within the unit, and if 64 bits hold the number and the seconds of the duration.  Exactly
these texts are read, as so many of the unit.

Any text can be taken apart in the same way, and in one way only.  Its parts say whether it is read
and, if it is not, in which words it is refused: the number is looked at first, then the unit, and
the length of the duration last.
-/

set_option autoImplicit false

namespace Outbox.Config

open Text (Blanks Trimmed)
open Time (Span Spells)

/-- The units, and how many nanoseconds one of them has. -/
def units : List (List Char × Nat) :=
  [([], 1000000000), (['m', 's'], 1000000), (['s'], 1000000000), (['m'], 60 * 1000000000),
    (['h'], 3600 * 1000000000)]

/-- The units that are longer than a second, and how many seconds one of them has. -/
def longUnits : List (List Char × Nat) :=
  [(['m'], 60), (['h'], 3600)]

/-- A text that says how long a span is.  White space may stand around and between its parts. -/
inductive SpellsSpan : List Char → Span → Prop where
  | intro {before digits between unit after : List Char} {value size : Nat} {span : Span}
    (before_blank : Blanks before) (between_blank : Blanks between) (after_blank : Blanks after)
    (number : Spells digits value) (small : value < UInt64.size) (known : (unit, size) ∈ units)
    (length : span.nanoseconds = value * size) :
    SpellsSpan (before ++ digits ++ between ++ unit ++ after) span

/-! ## The value of a unit -/

theorem span_eq_iff {span other : Span} : span = other ↔ span.nanoseconds = other.nanoseconds := by
  cases span
  cases other
  rw [Span.mk.injEq]

theorem ofSeconds_eq_iff {value : Nat} (small : value < UInt64.size) {span : Span} :
    Span.ofSeconds (UInt64.ofNatLT value small) = span ↔ span.nanoseconds = value * 1000000000 := by
  have length : (Span.ofSeconds (UInt64.ofNatLT value small)).nanoseconds = value * 1000000000 := by
    simp [Span.ofSeconds, UInt64.toNat_ofNatLT]
  rw [span_eq_iff, length, eq_comm]

theorem ofMilliseconds_eq_iff {value : Nat} (small : value < UInt64.size) {span : Span} :
    Span.ofMilliseconds (UInt64.ofNatLT value small) = span ↔
      span.nanoseconds = value * 1000000 := by
  have length :
      (Span.ofMilliseconds (UInt64.ofNatLT value small)).nanoseconds = value * 1000000 := by
    simp [Span.ofMilliseconds, UInt64.toNat_ofNatLT]
  rw [span_eq_iff, length, eq_comm]

theorem secondsSpan?_eq_ok {seconds : Nat} {span : Span} :
    secondsSpan? seconds = .ok span ↔ span.nanoseconds = seconds * 1000000000 := by
  unfold secondsSpan?
  split
  next inRange => rw [Except.ok.injEq, ofSeconds_eq_iff]
  next tooLong =>
    have limit := span.inRange
    rw [Time.spanLimit] at limit
    simp only [reduceCtorEq, false_iff]
    omega

theorem secondsSpan?_eq_error {seconds : Nat} {fault : DurationError} :
    secondsSpan? seconds = .error fault ↔ UInt64.size ≤ seconds ∧ fault = .outOfRange := by
  unfold secondsSpan?
  split
  next inRange => simp [Nat.not_le_of_lt inRange]
  next tooLong => simp [Nat.le_of_not_lt tooLong, eq_comm]

theorem unitSpan_eq_ok {value : Nat} (small : value < UInt64.size) {unit : List Char}
    {span : Span} : unitSpan value small unit = .ok span ↔
      ∃ size, (unit, size) ∈ units ∧ span.nanoseconds = value * size := by
  unfold unitSpan
  split
  next milliseconds =>
    subst milliseconds
    rw [Except.ok.injEq, ofMilliseconds_eq_iff]
    simp [units]
  next =>
    split
    next seconds =>
      rw [Except.ok.injEq, ofSeconds_eq_iff]
      rcases seconds with rfl | rfl <;> simp [units]
    next =>
      split
      next minutes =>
        subst minutes
        rw [secondsSpan?_eq_ok, Nat.mul_assoc]
        simp [units]
      next =>
        split
        next hours =>
          subst hours
          rw [secondsSpan?_eq_ok, Nat.mul_assoc]
          simp [units]
        next => simp_all [units]

theorem unitSpan_eq_error {value : Nat} (small : value < UInt64.size) {unit : List Char}
    {fault : DurationError} : unitSpan value small unit = .error fault ↔
      ((∀ size, (unit, size) ∉ units) ∧ fault = .unknownUnit unit) ∨
      ∃ seconds, (unit, seconds) ∈ longUnits ∧ UInt64.size ≤ value * seconds ∧
        fault = .outOfRange := by
  unfold unitSpan
  split
  next milliseconds => simp [milliseconds, units, longUnits]
  next =>
    split
    next seconds => rcases seconds with rfl | rfl <;> simp [units, longUnits]
    next =>
      split
      next minutes => simp [minutes, secondsSpan?_eq_error, units, longUnits]
      next =>
        split
        next hours => simp [hours, secondsSpan?_eq_error, units, longUnits]
        next => simp_all [units, longUnits, eq_comm]

/-- Only a unit that is longer than a second can make a number of 64 bits too long a span. -/
theorem lt_spanLimit_iff {value : Nat} (small : value < UInt64.size) {unit : List Char} {size : Nat}
    (known : (unit, size) ∈ units) : value * size < Time.spanLimit ↔
      ∀ seconds, (unit, seconds) ∈ longUnits → value * seconds < UInt64.size := by
  rw [Time.spanLimit]
  simp only [units, List.mem_cons, Prod.mk.injEq, List.not_mem_nil, or_false] at known
  rcases known with ⟨rfl, rfl⟩ | ⟨rfl, rfl⟩ | ⟨rfl, rfl⟩ | ⟨rfl, rfl⟩ | ⟨rfl, rfl⟩ <;>
    simp [longUnits] <;> omega

/-! ## Texts taken apart -/

/-- A text taken apart.  Without the white space around it, it is the digits that it begins with,
white space, and a rest that is taken for the unit.  Each of the three may be missing. -/
@[ext] structure Layout (raw : List Char) where
  text : List Char
  digits : List Char
  gap : List Char
  unit : List Char
  around : ∃ before after, raw = before ++ text ++ after ∧ Blanks before ∧ Blanks after
  trimmed : Trimmed text
  parts : text = digits ++ (gap ++ unit)
  decimal : ∀ c ∈ digits, c.isDigit = true
  stop : ∀ c ∈ (gap ++ unit).head?, c.isDigit = false
  gap_blank : Blanks gap
  unit_trimmed : Trimmed unit

theorem takeWhile_of_head? {rest : List Char} (stop : ∀ c ∈ rest.head?, c.isDigit = false) :
    rest.takeWhile Char.isDigit = [] := by
  cases rest with
  | nil => rfl
  | cons c rest => exact List.takeWhile_cons_of_neg (by simp [stop c rfl])

namespace Layout
variable {raw : List Char} (layout : Layout raw)

theorem trim_raw : Text.trim raw = layout.text := by
  obtain ⟨before, after, around, before_blank, after_blank⟩ := layout.around
  exact (congrArg Text.trim around).trans
    (Text.trim_around before_blank layout.trimmed after_blank)

theorem takeWhile_text : layout.text.takeWhile Char.isDigit = layout.digits := by
  rw [layout.parts, List.takeWhile_append_of_pos layout.decimal, takeWhile_of_head? layout.stop,
    List.append_nil]

theorem dropWhile_text : layout.text.dropWhile Char.isDigit = layout.gap ++ layout.unit := by
  have whole := List.takeWhile_append_dropWhile (p := Char.isDigit) (l := layout.text)
  rw [takeWhile_text] at whole
  exact List.append_cancel_left (whole.trans layout.parts)

theorem trim_rest : Text.trim (layout.gap ++ layout.unit) = layout.unit := by
  simpa using Text.trim_around layout.gap_blank layout.unit_trimmed Text.blanks_nil

/-- There is one way to take a text apart. -/
theorem unique (other : Layout raw) : other = layout := by
  have text : other.text = layout.text := by rw [← other.trim_raw, layout.trim_raw]
  have digits : other.digits = layout.digits := by
    rw [← other.takeWhile_text, text, layout.takeWhile_text]
  have rest : other.gap ++ other.unit = layout.gap ++ layout.unit := by
    rw [← other.dropWhile_text, text, layout.dropWhile_text]
  have unit : other.unit = layout.unit := by rw [← other.trim_rest, rest, layout.trim_rest]
  have gap : other.gap = layout.gap := by
    rw [unit] at rest
    exact List.append_cancel_right rest
  exact Layout.ext text digits gap unit

/-- The parts that the reader finds. -/
def ofRaw (raw : List Char) : Layout raw where
  text := Text.trim raw
  digits := (Text.trim raw).takeWhile Char.isDigit
  gap := ((Text.trim raw).dropWhile Char.isDigit).takeWhile Text.isBlank
  unit := Text.trimStart ((Text.trim raw).dropWhile Char.isDigit)
  around := Text.trim_spec raw
  trimmed := Text.trimmed_trim raw
  parts := by rw [← Text.trimStart_spec, List.takeWhile_append_dropWhile]
  decimal := fun _ member => List.mem_takeWhile_imp member
  stop := by
    rw [← Text.trimStart_spec]
    exact Text.head?_dropWhile Char.isDigit _
  gap_blank := Text.blanks_takeWhile _
  unit_trimmed := by
    have trimmed := Text.trimmed_trim raw
    rw [← List.takeWhile_append_dropWhile (p := Char.isDigit) (l := Text.trim raw)] at trimmed
    exact trimmed.trimStart_back

end Layout

/-! ## What is read, and what is refused -/

/-- The parts name a length in nanoseconds: there is a number of 64 bits and a unit, and the seconds
of a longer unit fit into 64 bits as well. -/
inductive Layout.Lasts {raw : List Char} (layout : Layout raw) : Nat → Prop where
  | intro {value size : Nat} (number : Spells layout.digits value) (small : value < UInt64.size)
    (known : (layout.unit, size) ∈ units)
    (fits : ∀ seconds, (layout.unit, seconds) ∈ longUnits → value * seconds < UInt64.size) :
    Lasts layout (value * size)

/-- What is wrong with a text that is no duration, in words. -/
inductive Layout.Complaint {raw : List Char} (layout : Layout raw) : String → Prop where
  | missing (undigited : layout.digits = []) :
    Complaint layout ("invalid duration " ++ Text.quote layout.text)
  | tooLarge {value : Nat} (number : Spells layout.digits value) (large : UInt64.size ≤ value) :
    Complaint layout ("invalid duration " ++ Text.quote layout.text)
  | unknownUnit {value : Nat} (number : Spells layout.digits value) (small : value < UInt64.size)
    (unknown : ∀ size, (layout.unit, size) ∉ units) :
    Complaint layout ("unknown duration unit " ++ Text.quote layout.unit ++ " in " ++
      Text.quote layout.text)
  | outOfRange {value seconds : Nat} (number : Spells layout.digits value)
    (small : value < UInt64.size) (known : (layout.unit, seconds) ∈ longUnits)
    (far : UInt64.size ≤ value * seconds) :
    Complaint layout ("duration out of range: " ++ Text.quote layout.text)

namespace Layout
variable {raw : List Char} (layout : Layout raw)

theorem undigited_or_number : layout.digits = [] ∨ ∃ value, Spells layout.digits value := by
  by_cases undigited : layout.digits = []
  · exact .inl undigited
  · exact .inr ⟨_, layout.decimal, rfl, undigited⟩

theorem parseTrimmed_undigited (undigited : layout.digits = []) :
    parseTrimmed layout.text = .error .invalid := by
  simp [parseTrimmed, layout.takeWhile_text, undigited]

theorem parseTrimmed_number {value : Nat} (number : Spells layout.digits value) :
    parseTrimmed layout.text =
      if small : value < UInt64.size then unitSpan value small layout.unit
      else .error .invalid := by
  have some_digit : layout.digits.isEmpty = false := by simpa using number.nonempty
  simp only [parseTrimmed, layout.takeWhile_text, layout.dropWhile_text, layout.trim_rest,
    some_digit, number.value, Bool.false_eq_true, if_false]

theorem Lasts.inRange {layout : Layout raw} {nanoseconds : Nat}
    (lasts : layout.Lasts nanoseconds) : nanoseconds < Time.spanLimit := by
  obtain ⟨_, small, known, fits⟩ := lasts
  exact (lt_spanLimit_iff small known).mpr fits

theorem parseTrimmed_eq_ok {span : Span} :
    parseTrimmed layout.text = .ok span ↔ layout.Lasts span.nanoseconds := by
  constructor
  · intro read
    obtain undigited | ⟨value, number⟩ := layout.undigited_or_number
    · rw [layout.parseTrimmed_undigited undigited] at read
      cases read
    · rw [layout.parseTrimmed_number number] at read
      split at read
      next small =>
        obtain ⟨size, known, length⟩ := (unitSpan_eq_ok small).mp read
        have fits := (lt_spanLimit_iff small known).mp (length ▸ span.inRange)
        exact length ▸ .intro number small known fits
      next => cases read
  · intro lasts
    generalize length : span.nanoseconds = nanoseconds at lasts
    obtain ⟨number, small, known, _⟩ := lasts
    rw [layout.parseTrimmed_number number, dif_pos small]
    exact (unitSpan_eq_ok small).mpr ⟨_, known, length⟩

theorem complaint_of_fault {fault : DurationError}
    (refused : parseTrimmed layout.text = .error fault) :
    layout.Complaint (fault.reason layout.text) := by
  obtain undigited | ⟨value, number⟩ := layout.undigited_or_number
  · rw [layout.parseTrimmed_undigited undigited] at refused
    cases refused
    exact .missing undigited
  · rw [layout.parseTrimmed_number number] at refused
    split at refused
    next small =>
      obtain ⟨unknown, rfl⟩ | ⟨seconds, known, far, rfl⟩ := (unitSpan_eq_error small).mp refused
      · exact .unknownUnit number small unknown
      · exact .outOfRange number small known far
    next large =>
      cases refused
      exact .tooLarge number (Nat.le_of_not_lt large)

theorem fault_of_complaint {reason : String} (complaint : layout.Complaint reason) :
    ∃ fault, parseTrimmed layout.text = .error fault ∧ fault.reason layout.text = reason := by
  cases complaint with
  | missing undigited => exact ⟨.invalid, layout.parseTrimmed_undigited undigited, rfl⟩
  | tooLarge number large =>
      refine ⟨.invalid, ?_, rfl⟩
      rw [layout.parseTrimmed_number number, dif_neg (Nat.not_lt_of_le large)]
  | unknownUnit number small unknown =>
      refine ⟨.unknownUnit layout.unit, ?_, rfl⟩
      rw [layout.parseTrimmed_number number, dif_pos small]
      exact (unitSpan_eq_error small).mpr (.inl ⟨unknown, rfl⟩)
  | outOfRange number small known far =>
      refine ⟨.outOfRange, ?_, rfl⟩
      rw [layout.parseTrimmed_number number, dif_pos small]
      exact (unitSpan_eq_error small).mpr (.inr ⟨_, known, far, rfl⟩)

/-- A reader sees no more of a setting than its parts. -/
theorem parseDuration_eq (key : String) :
    parseDuration key raw = (parseTrimmed layout.text).mapError
      fun fault => .setting key (fault.reason layout.text) := by
  rw [parseDuration, layout.trim_raw]
  cases parseTrimmed layout.text <;> rfl

theorem parseDuration_eq_ok {key : String} {span : Span} :
    parseDuration key raw = .ok span ↔ layout.Lasts span.nanoseconds := by
  rw [layout.parseDuration_eq, ← layout.parseTrimmed_eq_ok]
  cases parseTrimmed layout.text <;> simp [Except.mapError]

theorem parseDuration_eq_error {key : String} {error : ProgramError} :
    parseDuration key raw = .error error ↔
      ∃ reason, layout.Complaint reason ∧ error = .setting key reason := by
  rw [layout.parseDuration_eq]
  constructor
  · intro refused
    cases read : parseTrimmed layout.text with
    | ok span =>
        rw [read] at refused
        cases refused
    | error fault =>
        rw [read] at refused
        cases refused
        exact ⟨_, layout.complaint_of_fault read, rfl⟩
  · rintro ⟨reason, complaint, rfl⟩
    obtain ⟨fault, read, rfl⟩ := layout.fault_of_complaint complaint
    rw [read]
    rfl

end Layout

/-! ## Spelled durations -/

theorem trimmed_of_unit {unit : List Char} {size : Nat} (known : (unit, size) ∈ units) :
    Trimmed unit := by
  have visible : ∀ entry ∈ units, entry.1.all (fun c => !Text.isBlank c) = true := by decide
  exact Text.trimmed_of_all (visible _ known)

theorem isDigit_of_isBlank {c : Char} (blank : Text.isBlank c = true) : c.isDigit = false := by
  by_contra digit
  rw [Bool.not_eq_false] at digit
  rw [Time.isBlank_of_isDigit digit] at blank
  cases blank

/-- No digit follows the digits. -/
theorem head?_between {between unit : List Char} (blank : Blanks between) {size : Nat}
    (known : (unit, size) ∈ units) : ∀ c ∈ (between ++ unit).head?, c.isDigit = false := by
  cases between with
  | cons c rest =>
      rintro d ⟨⟩
      exact isDigit_of_isBlank (blank c List.mem_cons_self)
  | nil =>
      have letters : ∀ entry ∈ units, entry.1.all (fun c => !c.isDigit) = true := by decide
      have each : ∀ c ∈ unit, c.isDigit = false := by simpa using letters _ known
      exact fun c first => each c (List.mem_of_mem_head? first)

theorem getLast?_of_spells {digits : List Char} {value : Nat} (number : Spells digits value) :
    ∀ c ∈ digits.getLast?, Text.isBlank c = false :=
  fun c member => Time.isBlank_of_isDigit (number.decimal c (List.mem_of_getLast? member))

theorem head?_of_spells {digits : List Char} {value : Nat} (number : Spells digits value)
    (rest : List Char) : ∀ c ∈ (digits ++ rest).head?, Text.isBlank c = false := by
  cases digits with
  | nil => exact absurd rfl number.nonempty
  | cons first others =>
      rintro c ⟨⟩
      exact Time.isBlank_of_isDigit (number.decimal first List.mem_cons_self)

theorem Layout.Lasts.spells {raw : List Char} {layout : Layout raw} {span : Span}
    (lasts : layout.Lasts span.nanoseconds) : SpellsSpan raw span := by
  obtain ⟨before, after, around, before_blank, after_blank⟩ := layout.around
  generalize length : span.nanoseconds = nanoseconds at lasts
  obtain ⟨number, small, known, _⟩ := lasts
  have spelled :=
    SpellsSpan.intro before_blank layout.gap_blank after_blank number small known length
  rw [around, layout.parts]
  simpa using spelled

/-- A spelled duration is taken apart into its digits and its unit. -/
theorem SpellsSpan.lasts {raw : List Char} {span : Span} (spelled : SpellsSpan raw span) :
    ∃ layout : Layout raw, layout.Lasts span.nanoseconds := by
  obtain @⟨before, digits, between, unit, after, value, size, _, before_blank, between_blank,
    after_blank, number, small, known, length⟩ := spelled
  have fits := (lt_spanLimit_iff small known).mp (length ▸ span.inRange)
  by_cases bare : unit = []
  · -- The white space before a missing unit is white space at the end.
    subst bare
    let layout : Layout (before ++ digits ++ between ++ [] ++ after) :=
      { text := digits
        digits := digits
        gap := []
        unit := []
        around := ⟨before, between ++ after, by simp, before_blank,
          between_blank.append after_blank⟩
        trimmed := ⟨by simpa using head?_of_spells number [], getLast?_of_spells number⟩
        parts := by simp
        decimal := number.decimal
        stop := by simp
        gap_blank := Text.blanks_nil
        unit_trimmed := trimmed_of_unit known }
    exact ⟨layout, length ▸ .intro number small known fits⟩
  · let layout : Layout (before ++ digits ++ between ++ unit ++ after) :=
      { text := digits ++ (between ++ unit)
        digits := digits
        gap := between
        unit := unit
        around := ⟨before, after, by simp, before_blank, after_blank⟩
        trimmed := by
          refine ⟨head?_of_spells number _, ?_⟩
          rw [← List.append_assoc, List.getLast?_append_of_ne_nil _ bare]
          exact (trimmed_of_unit known).finish
        parts := rfl
        decimal := number.decimal
        stop := head?_between between_blank known
        gap_blank := between_blank
        unit_trimmed := trimmed_of_unit known }
    exact ⟨layout, length ▸ .intro number small known fits⟩

/-- A setting is read as a duration exactly if it says how long that is. -/
theorem parseDuration_eq_ok {key : String} {raw : List Char} {span : Span} :
    parseDuration key raw = .ok span ↔ SpellsSpan raw span := by
  constructor
  · intro read
    exact ((Layout.ofRaw raw).parseDuration_eq_ok.mp read).spells
  · intro spelled
    obtain ⟨layout, lasts⟩ := spelled.lasts
    exact layout.parseDuration_eq_ok.mpr lasts

theorem key_of_parseDuration {key : String} {raw : List Char} {error : ProgramError}
    (refused : parseDuration key raw = .error error) : ∃ reason, error = .setting key reason := by
  obtain ⟨reason, _, same⟩ := (Layout.ofRaw raw).parseDuration_eq_error.mp refused
  exact ⟨reason, same⟩

/-! ## Durations, exactly -/

/-- A setting can be taken apart in one way only, and its parts decide.  It is read as a duration of
so many nanoseconds exactly if its parts name that length.  It is refused in the words for what is
wrong with them, under the key that was asked for: no number, or one of more than 64 bits; else a
unit that is not known; else a length that needs more than 64 bits of seconds. -/
theorem durations_are_exact (key : String) (raw : List Char) :
    ∃ layout : Layout raw, (∀ other : Layout raw, other = layout) ∧
      (∀ nanoseconds,
        (∃ span, parseDuration key raw = .ok span ∧ span.nanoseconds = nanoseconds) ↔
          layout.Lasts nanoseconds) ∧
      ∀ error, parseDuration key raw = .error error ↔
        ∃ reason, layout.Complaint reason ∧ error = .setting key reason := by
  refine ⟨.ofRaw raw, (Layout.ofRaw raw).unique, ?_,
    fun _ => (Layout.ofRaw raw).parseDuration_eq_error⟩
  intro nanoseconds
  constructor
  · rintro ⟨span, read, rfl⟩
    exact (Layout.ofRaw raw).parseDuration_eq_ok.mp read
  · intro lasts
    exact ⟨⟨nanoseconds, lasts.inRange⟩, (Layout.ofRaw raw).parseDuration_eq_ok.mpr lasts, rfl⟩

/-- A number of more than 64 bits is reported before its unit, and a unit before a length. -/
example :
    parseDuration "K" "\u30000018446744073709551616 d".toList =
        .error (.setting "K" "invalid duration \"0018446744073709551616 d\"") ∧
      parseDuration "K" "18446744073709551615 d".toList =
        .error (.setting "K" "unknown duration unit \"d\" in \"18446744073709551615 d\"") ∧
      parseDuration "K" "18446744073709551615 h".toList =
        .error (.setting "K" "duration out of range: \"18446744073709551615 h\"") := by
  decide

end Outbox.Config
