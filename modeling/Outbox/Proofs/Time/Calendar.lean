import Outbox.Time.Calendar

/-!
# The calendar there and back

The date of a day number stands on the calendar and has that day number.  The years of a cycle begin
in March, so their lengths follow one rule: within a century of a cycle every fourth year has 366
days, and only the last century ends with such a year.
-/

set_option autoImplicit false

namespace Outbox.Time.Date

/-- The year within its cycle of a day within its cycle. -/
def yearOfDay (day : Int) : Int :=
  (day - day / 1460 + day / 36524 - day / 146096) / 365

/-- The day within its cycle on which a year begins. -/
def firstDay (year : Int) : Int :=
  365 * year + year / 4 - year / 100

/-- A day of a cycle belongs to the year that its number gives. -/
theorem dayOfYear_bounds {day : Int} (least : 0 ≤ day) (most : day < 146097) :
    0 ≤ day - firstDay (yearOfDay day) ∧ day - firstDay (yearOfDay day) < 366 := by
  by_cases last : day = 146096
  · subst last
    decide
  · -- The day `rest` of the four years `quad` in a century.
    obtain ⟨century, inCentury, dayOfCentury, within_cycle, within_century⟩ :
        ∃ century inCentury, day = 36524 * century + inCentury ∧ (0 ≤ century ∧ century ≤ 3) ∧
          0 ≤ inCentury ∧ inCentury < 36524 :=
      ⟨day / 36524, day % 36524, by omega, by omega, by omega⟩
    obtain ⟨quad, rest, dayOfQuad, within_quads, within_quad⟩ :
        ∃ quad rest, inCentury = 1461 * quad + rest ∧ (0 ≤ quad ∧ quad ≤ 24) ∧
          0 ≤ rest ∧ rest < 1461 :=
      ⟨inCentury / 1461, inCentury % 1461, by omega, by omega, by omega⟩
    obtain ⟨carry, carried⟩ : ∃ carry, carry = (24 * century + quad + rest) / 1460 := ⟨_, rfl⟩
    obtain ⟨year, counted⟩ : ∃ year, year = (rest - carry) / 365 := ⟨_, rfl⟩
    have quads : day / 1460 = 25 * century + quad + carry := by omega
    have centuries : day / 36524 = century := by omega
    have cycles : day / 146096 = 0 := by omega
    have years : yearOfDay day = 100 * century + 4 * quad + year := by
      rw [yearOfDay, quads, centuries, cycles]
      omega
    have year_bounds : 0 ≤ year ∧ year ≤ 3 := by omega
    have leap_days : (100 * century + 4 * quad + year) / 4 = 25 * century + quad := by omega
    have no_leap_days : (100 * century + 4 * quad + year) / 100 = century := by omega
    rw [years, firstDay, leap_days, no_leap_days]
    omega

theorem yearOfDay_bounds {day : Int} (least : 0 ≤ day) (most : day < 146097) :
    0 ≤ yearOfDay day ∧ yearOfDay day < 400 := by
  unfold yearOfDay
  omega

/-- The month and the day of the month of a day of a year that begins in March. -/
theorem monthFromMarch_bounds {dayOfYear : Int} (least : 0 ≤ dayOfYear) (most : dayOfYear < 366) :
    (0 ≤ (5 * dayOfYear + 2) / 153 ∧ (5 * dayOfYear + 2) / 153 ≤ 11) ∧
    1 ≤ dayOfYear - (153 * ((5 * dayOfYear + 2) / 153) + 2) / 5 + 1 ∧
    dayOfYear - (153 * ((5 * dayOfYear + 2) / 153) + 2) / 5 + 1 ≤ 31 := by
  omega

/-- What the date of a day is made of: the cycle, the year in the cycle, the month from March and
the day of the month. -/
theorem ofDayNumber_parts (number : Int) :
    ∃ cycle year month day : Int, (0 ≤ year ∧ year < 400) ∧ (0 ≤ month ∧ month ≤ 11) ∧
      (1 ≤ day ∧ day ≤ 31) ∧
      number + epochOffset =
        cycle * daysPerCycle + (firstDay year + ((153 * month + 2) / 5 + day - 1)) ∧
      ofDayNumber number =
        { year := year + cycle * 400 + (if month < 10 then 0 else 1)
          month := (if month < 10 then month + 3 else month - 9).toNat
          day := day.toNat } := by
  obtain ⟨cycle, cycles⟩ : ∃ cycle, cycle = (number + epochOffset) / daysPerCycle := ⟨_, rfl⟩
  obtain ⟨dayOfCycle, days⟩ :
      ∃ dayOfCycle, dayOfCycle = number + epochOffset - cycle * daysPerCycle := ⟨_, rfl⟩
  have within_cycle : 0 ≤ dayOfCycle ∧ dayOfCycle < 146097 := by
    unfold daysPerCycle at cycles days
    omega
  have year_bounds := yearOfDay_bounds within_cycle.1 within_cycle.2
  have day_bounds := dayOfYear_bounds within_cycle.1 within_cycle.2
  obtain ⟨dayOfYear, dayOfYear_eq⟩ :
      ∃ dayOfYear, dayOfYear = dayOfCycle - firstDay (yearOfDay dayOfCycle) := ⟨_, rfl⟩
  rw [← dayOfYear_eq] at day_bounds
  obtain ⟨month_bounds, first_day, last_day⟩ :=
    monthFromMarch_bounds day_bounds.1 day_bounds.2
  obtain ⟨month, month_eq⟩ : ∃ month, month = (5 * dayOfYear + 2) / 153 := ⟨_, rfl⟩
  rw [← month_eq] at month_bounds first_day last_day
  refine ⟨cycle, yearOfDay dayOfCycle, month, dayOfYear - (153 * month + 2) / 5 + 1, year_bounds,
    month_bounds, ⟨first_day, last_day⟩, by omega, ?_⟩
  have computed : ofDayNumber number =
      { year := yearOfDay dayOfCycle + cycle * 400 +
          (if (if month < 10 then month + 3 else month - 9) ≤ 2 then 1 else 0)
        month := (if month < 10 then month + 3 else month - 9).toNat
        day := (dayOfYear - (153 * month + 2) / 5 + 1).toNat } := by
    subst month_eq dayOfYear_eq days cycles
    rfl
  rw [computed]
  by_cases early : month < 10
  · have late_month : ¬month + 3 ≤ 2 := by omega
    simp only [if_pos early, if_neg late_month]
  · have first_months : month - 9 ≤ 2 := by omega
    simp only [if_neg early, if_pos first_months]

theorem dayNumber_ofDayNumber (number : Int) : (ofDayNumber number).dayNumber = number := by
  obtain ⟨cycle, year, month, day, year_bounds, month_bounds, day_bounds, total, date⟩ :=
    ofDayNumber_parts number
  have day_kept : (day.toNat : Int) = day := by omega
  have cycle_kept : (year + cycle * 400) / 400 = cycle := by omega
  have year_kept : year + cycle * 400 - cycle * 400 = year := by omega
  unfold firstDay at total
  rw [date, dayNumber]
  by_cases early : month < 10
  · have late_month : ¬(month + 3).toNat ≤ 2 := by omega
    have month_kept : ((month + 3).toNat : Int) - 3 = month := by omega
    simp only [if_pos early, if_neg late_month, Int.add_zero, day_kept, cycle_kept, year_kept,
      month_kept]
    omega
  · have first_months : (month - 9).toNat ≤ 2 := by omega
    have month_kept : ((month - 9).toNat : Int) + 9 = month := by omega
    simp only [if_neg early, if_pos first_months, Int.add_sub_cancel, day_kept, cycle_kept,
      year_kept, month_kept]
    omega

theorem isOnCalendar_ofDayNumber (number : Int) : (ofDayNumber number).isOnCalendar = true := by
  have back := dayNumber_ofDayNumber number
  obtain ⟨cycle, year, month, day, _, month_bounds, day_bounds, _, date⟩ :=
    ofDayNumber_parts number
  have months : 1 ≤ (ofDayNumber number).month ∧ (ofDayNumber number).month ≤ 12 := by
    rw [date]
    simp only
    split <;> omega
  have days : 1 ≤ (ofDayNumber number).day ∧ (ofDayNumber number).day ≤ 31 := by
    rw [date]
    simp only
    omega
  simp [isOnCalendar, back, months, days]

end Outbox.Time.Date
