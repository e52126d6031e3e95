import Mathlib.Algebra.Group.Nat.Defs
import Mathlib.Data.List.Basic
import Outbox.Proofs.Time.Calendar
import Outbox.Time.Timestamp

/-!
# Timestamps there and back

The written form of an instant is read as that instant: years with and without a sign, all four
lengths of the fraction, and leap seconds.
-/

set_option autoImplicit false

namespace Outbox.Time

/-! ## Digits of numbers -/

/-- These digits stand for the number. -/
structure Spells (digits : List Char) (value : Nat) : Prop where
  decimal : ∀ c ∈ digits, c.isDigit = true
  value : Nat.ofDigitChars 10 digits 0 = value
  nonempty : digits ≠ []

@[simp] theorem length_decimalDigits (width value : Nat) :
    (decimalDigits width value).length = width := by
  induction width generalizing value with
  | zero => rfl
  | succ width ih => simp [decimalDigits, ih]

theorem isDigit_decimalDigits (width value : Nat) :
    ∀ c ∈ decimalDigits width value, c.isDigit = true := by
  induction width generalizing value with
  | zero => simp [decimalDigits]
  | succ width ih =>
      intro c member
      rw [decimalDigits, List.mem_append, List.mem_singleton] at member
      rcases member with earlier | rfl
      · exact ih _ c earlier
      · rw [Nat.isDigit_digitChar]
        exact decide_eq_true (Nat.mod_lt _ (by decide))

theorem ofDigitChars_decimalDigits (width value : Nat) :
    Nat.ofDigitChars 10 (decimalDigits width value) 0 = value % 10 ^ width := by
  induction width generalizing value with
  | zero => simp [decimalDigits, Nat.mod_one]
  | succ width ih =>
      have last : value % 10 < 10 := Nat.mod_lt _ (by decide)
      rw [decimalDigits, Nat.ofDigitChars_append, ih,
        Nat.ofDigitChars_cons_digitChar_of_lt_ten last, Nat.ofDigitChars_nil, Nat.pow_succ',
        Nat.mod_mul]
      omega

theorem spells_decimalDigits {width value : Nat} (positive : 0 < width)
    (small : value < 10 ^ width) : Spells (decimalDigits width value) value where
  decimal := isDigit_decimalDigits width value
  value := by rw [ofDigitChars_decimalDigits, Nat.mod_eq_of_lt small]
  nonempty := by
    rw [← List.length_pos_iff, length_decimalDigits]
    exact positive

theorem spells_toDigits (value : Nat) : Spells (Nat.toDigits 10 value) value where
  decimal := fun _ => Nat.isDigit_of_mem_toDigits (by decide) (by decide)
  value := Nat.ofDigitChars_ten_toDigits
  nonempty := Nat.toDigits_ne_nil

theorem spells_paddedDecimal (width value : Nat) : Spells (paddedDecimal width value) value where
  decimal := by
    intro c member
    rw [paddedDecimal, List.mem_append] at member
    rcases member with zero | digit
    · rw [(List.mem_replicate.mp zero).2]
      decide
    · exact (spells_toDigits value).decimal c digit
  value := by
    rw [paddedDecimal, Nat.ofDigitChars_append, Nat.ofDigitChars_replicate_zero, Nat.mul_zero]
    exact (spells_toDigits value).value
  nonempty := by
    intro none_left
    exact Nat.toDigits_ne_nil (List.append_eq_nil_iff.mp none_left).2

/-! ## Reading them -/

section Readers
variable {digits rest : List Char} {value : Nat}

/-- A reader takes no more digits than it may, whatever follows. -/
theorem number?_full (spells : Spells digits value) :
    number? (some digits.length) (digits ++ rest) = some (value, rest) := by
  unfold number?
  rw [List.takeWhile_append_of_pos spells.decimal]
  simp [spells.nonempty, spells.value]

/-- A reader without a limit stops at the first character that is no digit. -/
theorem number?_free (spells : Spells digits value) (stop : rest.takeWhile Char.isDigit = []) :
    number? none (digits ++ rest) = some (value, rest) := by
  unfold number?
  rw [List.takeWhile_append_of_pos spells.decimal, stop]
  simp [spells.nonempty, spells.value]

end Readers

/-! ## The parts of a timestamp -/

theorem isBlank_of_isDigit {c : Char} (digit : c.isDigit = true) : Text.isBlank c = false := by
  have range : 48 ≤ c.toNat ∧ c.toNat ≤ 57 := by
    simpa [Char.isDigit, UInt32.le_iff_toNat_le] using digit
  unfold Text.isBlank
  simp only [Bool.or_eq_false_iff, Bool.and_eq_false_iff, decide_eq_false_iff_not,
    beq_eq_false_iff_ne]
  omega

theorem trimStart_of_digits {digits rest : List Char} {value : Nat}
    (spells : Spells digits value) : Text.trimStart (digits ++ rest) = digits ++ rest := by
  cases digits with
  | nil => exact absurd rfl spells.nonempty
  | cons c others =>
      have visible := isBlank_of_isDigit (spells.decimal c (List.mem_cons_self ..))
      simp [Text.trimStart, visible]

theorem mark?_of_visible {c : Char} (visible : Text.isBlank c = false) (rest : List Char) :
    mark? c (c :: rest) = some rest := by
  simp [mark?, Text.trimStart, visible]

theorem shortNumber?_two {value : Nat} (small : value < 100) (rest : List Char) :
    shortNumber? (decimalDigits 2 value ++ rest) = some (value, rest) := by
  have spells : Spells (decimalDigits 2 value) value := spells_decimalDigits (by decide) small
  have read := @number?_full _ rest _ spells
  rw [length_decimalDigits] at read
  rw [shortNumber?, trimStart_of_digits spells, read]

theorem year?_unsigned {digits rest : List Char} {value : Nat} (spells : Spells digits value)
    (four : digits.length = 4) : year? (digits ++ rest) = some ((value : Int), rest) := by
  have read := @number?_full _ rest _ spells
  rw [four] at read
  cases digits with
  | nil => cases four
  | cons c others =>
      have digit := spells.decimal c (List.mem_cons_self ..)
      unfold year?
      rw [trimStart_of_digits spells]
      split
      · rename_i same
        cases (List.cons.inj same).1
        cases digit
      · rename_i same
        cases (List.cons.inj same).1
        cases digit
      · rw [read]
        rfl

theorem year?_text (year : Int) (rest : List Char) :
    year? (yearText year ++ '-' :: rest) = some (year, '-' :: rest) := by
  have stop : ('-' :: rest).takeWhile Char.isDigit = [] := by simp
  unfold yearText
  by_cases four : 0 ≤ year ∧ year ≤ 9999
  · rw [if_pos four]
    have spells : Spells (decimalDigits 4 year.toNat) year.toNat :=
      spells_decimalDigits (by decide) (by omega)
    rw [year?_unsigned spells (length_decimalDigits 4 _), Int.toNat_of_nonneg four.1]
  · rw [if_neg four]
    have read := number?_free (spells_paddedDecimal 4 year.natAbs) stop
    by_cases negative : year < 0
    · have value : -(year.natAbs : Int) = year := by omega
      rw [if_pos negative]
      change (number? none (paddedDecimal 4 year.natAbs ++ '-' :: rest)).map _ = _
      simp only [read, Option.map_some, value]
    · have value : (year.natAbs : Int) = year := by omega
      rw [if_neg negative]
      change (number? none (paddedDecimal 4 year.natAbs ++ '-' :: rest)).map _ = _
      simp only [read, Option.map_some, value]

theorem fraction?_decimal {places value : Nat} (positive : 0 < places) (short : places ≤ 9)
    (small : value < 10 ^ places) (rest : List Char) :
    fraction? ('.' :: (decimalDigits places value ++ 'Z' :: rest)) =
      some (value * 10 ^ (9 - places), 'Z' :: rest) := by
  have spells := spells_decimalDigits positive small
  have run : (decimalDigits places value ++ 'Z' :: rest).takeWhile Char.isDigit =
      decimalDigits places value := by
    rw [List.takeWhile_append_of_pos spells.decimal]
    simp
  have kept : (decimalDigits places value).take 9 = decimalDigits places value :=
    List.take_of_length_le (by simpa using short)
  unfold fraction?
  simp [run, spells.nonempty, kept, spells.value]

theorem fraction?_text {nanos : Nat} (small : nanos < 1000000000) (rest : List Char) :
    fraction? (fractionText nanos ++ 'Z' :: rest) = some (nanos, 'Z' :: rest) := by
  unfold fractionText
  by_cases whole : nanos = 0
  · rw [if_pos whole, whole]
    rfl
  · rw [if_neg whole]
    by_cases milli : nanos % 1000000 = 0
    · have value : nanos / 1000000 * 10 ^ (9 - 3) = nanos := by omega
      rw [if_pos milli, List.cons_append,
        fraction?_decimal (by decide) (by decide) (by omega), value]
    · rw [if_neg milli]
      by_cases micro : nanos % 1000 = 0
      · have value : nanos / 1000 * 10 ^ (9 - 6) = nanos := by omega
        rw [if_pos micro, List.cons_append,
          fraction?_decimal (by decide) (by decide) (by omega), value]
      · have value : nanos * 10 ^ (9 - 9) = nanos := by omega
        rw [if_neg micro, List.cons_append,
          fraction?_decimal (by decide) (by decide) (by omega), value]

/-! ## The whole timestamp -/

theorem date?_text {date : Date} (real : date.isOnCalendar = true) (rest : List Char) :
    date? (yearText date.year ++ '-' :: (decimalDigits 2 date.month ++ '-' ::
      (decimalDigits 2 date.day ++ rest))) = some (date, rest) := by
  have hyphen : Text.isBlank '-' = false := by decide
  have bounds : date.month < 100 ∧ date.day < 100 := by
    simp only [Date.isOnCalendar, Bool.and_eq_true, decide_eq_true_eq] at real
    omega
  unfold date?
  simp only [year?_text, mark?_of_visible hyphen, shortNumber?_two bounds.1,
    shortNumber?_two bounds.2, Option.bind_eq_bind, Option.bind_some, real, if_true]

theorem timeOfDay?_text {hour minute second nanos : Nat} (hours : hour ≤ 23) (minutes : minute ≤ 59)
    (seconds : second ≤ 60) (small : nanos < 1000000000) (rest : List Char) :
    timeOfDay? (decimalDigits 2 hour ++ ':' :: (decimalDigits 2 minute ++ ':' ::
      (decimalDigits 2 second ++ (fractionText nanos ++ 'Z' :: rest)))) =
      if second = 60 then
        some (hour * 3600 + minute * 60 + 59, nanos + 1000000000, 'Z' :: rest)
      else some (hour * 3600 + minute * 60 + second, nanos, 'Z' :: rest) := by
  have colon : Text.isBlank ':' = false := by decide
  have two_hours : hour < 100 := by omega
  have two_minutes : minute < 100 := by omega
  have two_seconds : second < 100 := by omega
  unfold timeOfDay?
  simp only [shortNumber?_two two_hours, shortNumber?_two two_minutes,
    shortNumber?_two two_seconds, mark?_of_visible colon, fraction?_text small,
    Option.bind_eq_bind, Option.bind_some]
  rw [if_pos ⟨hours, minutes, seconds⟩]

namespace Instant

theorem ofParts?_parts (instant : Instant) :
    ofParts? instant.seconds instant.nanos = some instant := by
  unfold ofParts?
  rw [dif_pos ⟨instant.seconds_in_range, instant.nanos_lt, instant.leap_after_59⟩]

/-- A date and a time of day, and the second that they stand for. -/
theorem parse?_parts {date : Date} (real : date.isOnCalendar = true)
    {hour minute second nanos : Nat} (hours : hour ≤ 23) (minutes : minute ≤ 59)
    (seconds : second ≤ 60) (small : nanos < 1000000000)
    {instant : Instant}
    (moment : date.dayNumber * 86400 + (hour * 3600 + minute * 60 + min second 59 : Nat) =
      instant.seconds)
    (within_second : (if second = 60 then nanos + 1000000000 else nanos) = instant.nanos) :
    parse? (yearText date.year ++ '-' :: (decimalDigits 2 date.month ++ '-' ::
      (decimalDigits 2 date.day ++ 'T' :: (decimalDigits 2 hour ++ ':' ::
        (decimalDigits 2 minute ++ ':' :: (decimalDigits 2 second ++
          (fractionText nanos ++ ['Z']))))))) = some instant := by
  unfold parse?
  simp only [date?_text real, timeOfDay?_text hours minutes seconds small, Option.bind_eq_bind,
    Option.bind_some]
  have zone : offset? (Text.trimStart ['Z']) = some (0, []) := by decide
  have parts : ofParts? (instant.seconds - 0) instant.nanos = some instant := by
    rw [Int.sub_zero]
    exact ofParts?_parts instant
  have valid : Text.isBlankText [] = true ∧ earliestSecond ≤ instant.seconds ∧
      instant.seconds ≤ latestSecond := ⟨rfl, instant.seconds_in_range⟩
  by_cases leap : second = 60
  · have last : min second 59 = 59 := by omega
    rw [if_pos leap] at within_second
    rw [last] at moment
    simp only [if_pos leap, Option.bind_some, zone, within_second, moment, parts, true_or,
      if_true]
    exact if_pos valid
  · have earlier : min second 59 = second := by omega
    rw [if_neg leap] at within_second
    rw [earlier] at moment
    simp only [if_neg leap, Option.bind_some, zone, within_second, moment, parts, true_or,
      if_true]
    exact if_pos valid

theorem parse?_text (instant : Instant) : parse? instant.text = some instant := by
  have real := Date.isOnCalendar_ofDayNumber (instant.seconds / 86400)
  have day := Date.dayNumber_ofDayNumber (instant.seconds / 86400)
  obtain ⟨secondOfDay, seconds⟩ : ∃ secondOfDay, secondOfDay = (instant.seconds % 86400).toNat :=
    ⟨_, rfl⟩
  have nanos_lt := instant.nanos_lt
  have leap_after_59 := instant.leap_after_59
  unfold text
  simp only [← seconds, List.append_assoc, List.cons_append]
  by_cases leap : 1000000000 ≤ instant.nanos
  · have second : instant.seconds % 60 = 59 := leap_after_59 leap
    rw [if_pos leap, if_pos leap]
    apply parse?_parts real (by omega) (by omega) (by omega) (by omega)
    · rw [day]
      omega
    · rw [if_pos (by omega)]
      omega
  · rw [if_neg leap, if_neg leap]
    apply parse?_parts real (by omega) (by omega) (by omega) (by omega)
    · rw [day]
      omega
    · rw [if_neg (by omega)]

end Instant

end Outbox.Time
