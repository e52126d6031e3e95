import Outbox.Proofs.Config.Settings
import Outbox.Proofs.Demo.Stock

/-!
# When a demonstration stops

A demonstration goes on for three intervals.  An interval that can be loaded may be so long that a
span cannot hold three of them.  Then there is no moment to stop at, and the demonstration panics.
-/

set_option autoImplicit false

namespace Outbox.Demo

open Config (Describes Settings)
open Time (Instant Span)

/-- The longest interval of which a span holds three, in nanoseconds: so many seconds. -/
def longestInterval : Nat := 6148914691236517205 * 1000000000

theorem times?_eq_some {span stop : Span} {count : Nat} :
    span.times? count = some stop ↔ stop.nanoseconds = span.nanoseconds * count := by
  have limit := stop.inRange
  unfold Span.times? Span.ofNanoseconds?
  split
  next inRange =>
    cases stop
    simp [eq_comm]
  next tooLong =>
    simp
    omega

theorem times?_eq_none {span : Span} {count : Nat} :
    span.times? count = none ↔ Time.spanLimit ≤ span.nanoseconds * count := by
  unfold Span.times? Span.ofNanoseconds?
  split <;> simp <;> omega

/-- Intervals above the longest one come in whole seconds. -/
theorem three_fit_iff {lookup : String → Option String} {settings : Settings}
    (described : Describes lookup settings) :
    settings.workerInterval.nanoseconds * 3 < Time.spanLimit ↔
      settings.workerInterval.nanoseconds ≤ longestInterval := by
  obtain ⟨value, unit, size, small, known, length⟩ := described.interval_of_unit
  have sizes : ∀ entry ∈ Config.units, entry.2 = 1000000 ∨ 1000000000 ∣ entry.2 := by decide
  rw [length, Time.spanLimit, longestInterval]
  rcases sizes _ known with milliseconds | ⟨seconds, whole⟩
  · simp only at milliseconds
    subst milliseconds
    simp only [UInt64.size] at *
    omega
  · simp only at whole
    subst whole
    have regrouped : value * (1000000000 * seconds) = value * seconds * 1000000000 := by
      rw [Nat.mul_comm 1000000000, Nat.mul_assoc]
    rw [regrouped]
    generalize value * seconds = count
    simp only [UInt64.size] at *
    omega

variable {clock : Instant} {ids : Nat → Uuid}

theorem run_eq (distinct : Distinct ids) (settings : Settings) :
    run settings clock ids =
      match settings.workerInterval.times? 3 with
      | none => .panicked (opening settings) overflow
      | some stop => .ended {
          opening := opening settings
          duration := stop.pause
          closing := closing (operate settings stop.pause
            (stockedWorld settings.backend clock ids)) } := by
  cases fits : settings.workerInterval.times? 3 <;> simp only [run, prepare_eq distinct, fits]

/-- The demonstration comes to its end, and nothing fails. -/
def Outcome.Succeeds (outcome : Outcome) : Prop :=
  ∃ account, outcome = .ended account ∧ account.failure = none

/-- A demonstration panics exactly if its interval is too long to be had three times. -/
theorem panicked_iff (distinct : Distinct ids) {lookup : String → Option String}
    {settings : Settings} (described : Describes lookup settings) :
    ((run settings clock ids).Succeeds ↔
      settings.workerInterval.nanoseconds ≤ longestInterval) ∧
    (run settings clock ids = .panicked (opening settings) overflow ↔
      longestInterval < settings.workerInterval.nanoseconds) := by
  rw [run_eq distinct, ← Nat.not_le, ← three_fit_iff described, ← Nat.not_le, ← times?_eq_none]
  cases settings.workerInterval.times? 3 <;> simp [Outcome.Succeeds]

/-- Of an interval that was loaded three can be had, and the demonstration succeeds, exactly if it
is no longer than `longestInterval`.  For a longer one there is no moment to stop at, and the
demonstration panics. -/
theorem three_intervals_fit_iff (lookup : String → Option String) (settings : Settings)
    (loaded : Config.load lookup = .ok settings) :
    ((∃ stop, settings.workerInterval.times? 3 = some stop ∧
        stop.nanoseconds = 3 * settings.workerInterval.nanoseconds) ↔
      settings.workerInterval.nanoseconds ≤ longestInterval) ∧
    (settings.workerInterval.times? 3 = none ↔
      longestInterval < settings.workerInterval.nanoseconds) ∧
    ∀ clock ids, Distinct ids →
      ((run settings clock ids).Succeeds ↔
        settings.workerInterval.nanoseconds ≤ longestInterval) ∧
      (run settings clock ids =
          .panicked (opening settings) "overflow when multiplying duration by scalar" ↔
        longestInterval < settings.workerInterval.nanoseconds) := by
  have described := Config.load_eq_ok.mp loaded
  have fit := three_fit_iff described
  refine ⟨⟨?_, ?_⟩, ?_, fun clock ids distinct => panicked_iff distinct described⟩
  · rintro ⟨stop, found, _⟩
    rw [← fit, ← Nat.not_le, ← times?_eq_none, found]
    exact Option.some_ne_none stop
  · intro short
    rw [← fit] at short
    exact ⟨⟨_, short⟩, times?_eq_some.mpr rfl, Nat.mul_comm _ _⟩
  · rw [times?_eq_none, ← Nat.not_lt, fit, Nat.not_le]

/-- The environment of a program in which only the interval is set. -/
def intervalLookup (interval : String) (key : String) : Option String :=
  if key = Config.intervalKey then some interval else none

def intervalSettings (interval : Span) : Settings :=
  { Settings.default with workerInterval := interval }

/-- Three ids. -/
def firstIds (index : Nat) : Uuid :=
  if inRange : index < uuidCount then ⟨index, inRange⟩ else default

theorem distinct_firstIds : Distinct firstIds := by decide

/-- With the longest interval the demonstration succeeds, with the next one it panics. -/
theorem three_intervals_fit_at_the_limit :
    Config.load (intervalLookup "6148914691236517205") =
      .ok (intervalSettings (Span.ofSeconds 6148914691236517205)) ∧
    (run (intervalSettings (Span.ofSeconds 6148914691236517205)) .epoch firstIds).Succeeds ∧
    Config.load (intervalLookup "6148914691236517206") =
      .ok (intervalSettings (Span.ofSeconds 6148914691236517206)) ∧
    run (intervalSettings (Span.ofSeconds 6148914691236517206)) .epoch firstIds =
      .panicked (opening (intervalSettings (Span.ofSeconds 6148914691236517206))) overflow := by
  have longest : Config.load (intervalLookup "6148914691236517205") =
      .ok (intervalSettings (Span.ofSeconds 6148914691236517205)) := rfl
  have next : Config.load (intervalLookup "6148914691236517206") =
      .ok (intervalSettings (Span.ofSeconds 6148914691236517206)) := rfl
  obtain ⟨_, _, runs⟩ := three_intervals_fit_iff _ _ longest
  obtain ⟨_, _, next_runs⟩ := three_intervals_fit_iff _ _ next
  exact ⟨longest, (runs .epoch firstIds distinct_firstIds).1.mpr (by decide), next,
    (next_runs .epoch firstIds distinct_firstIds).2.mpr (by decide)⟩

/-- The longest span that can be written is loaded as an interval, and then there is no moment to
stop at: the demonstration panics. -/
theorem longest_span_has_no_stop :
    Config.load (intervalLookup "18446744073709551615") =
      .ok (intervalSettings (Span.ofSeconds 18446744073709551615)) ∧
    (Span.ofSeconds 18446744073709551615).times? 3 = none ∧
    run (intervalSettings (Span.ofSeconds 18446744073709551615)) .epoch firstIds =
      .panicked (opening (intervalSettings (Span.ofSeconds 18446744073709551615))) overflow := by
  have loaded : Config.load (intervalLookup "18446744073709551615") =
      .ok (intervalSettings (Span.ofSeconds 18446744073709551615)) := rfl
  have panicked := @panicked_iff .epoch _ distinct_firstIds _ _ (Config.load_eq_ok.mp loaded)
  exact ⟨loaded, times?_eq_none.mpr (by decide), panicked.2.mpr (by decide)⟩

end Outbox.Demo
