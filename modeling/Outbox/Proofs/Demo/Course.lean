import Outbox.Proofs.Bytes.Utf8
import Outbox.Proofs.Demo.Export
import Outbox.Proofs.Demo.Stop
import Outbox.Proofs.Sorting

/-!
# The course of a demonstration

The worker makes two rounds, for it is stopped at its third tick.  What they publish reaches the
audit at the same moment, so when everything is stopped nothing waits on the bus: as many entries
are shown as publications were counted, and nothing has failed.
-/

set_option autoImplicit false

namespace Outbox.Demo

open Config (Backend Describes Environment Settings)
open Simulation (Kept World countedFor heard kept_before_stop nanosecondsPerMoment)
open Time (Instant Span)

/-! ## What is to be shown -/

/-- The numbers of the fruits and what is said about them, in the order in which they are
enqueued. -/
def sayings : List (Int64 × String) :=
  [ (1, "\x7b\"id\":1,\"name\":\"apple\"\x7d"),
    (2, "\x7b\"id\":2,\"name\":\"pear\"\x7d"),
    (3, "\x7b\"id\":3,\"name\":\"plum\"\x7d") ]

/-- The entry of a fruit. -/
def fruitEntry (clock : Instant) (ids : Nat → Uuid) (fruit : (Int64 × String) × Nat) :
    Audit.Entry where
  id := ids fruit.2
  occurredAt := clock
  aggregateId := fruit.1.1
  eventType := "fruit"
  data := Utf8.encode fruit.1.2.toList
  metadata := "fruit.created"

def fruitEntries (clock : Instant) (ids : Nat → Uuid) : List Audit.Entry :=
  sayings.zipIdx.map (fruitEntry clock ids)

/-- The line about the entry of a fruit. -/
def fruitLine (ids : Nat → Uuid) (fruit : (Int64 × String) × Nat) : Line where
  message := "audit log entry"
  fields :=
    [ ("id", .text (ids fruit.2).toText),
      ("aggregate_id", .number fruit.1.1.toInt),
      ("event_type", .text "fruit"),
      ("data", .text fruit.1.2) ]

/-- How many fruits are published in two rounds. -/
def publishedFruits (settings : Settings) : Nat :=
  min fruits.length (2 * settings.workerBatchSize)

def byAggregate (a b : Audit.Entry) : Bool :=
  decide (a.aggregateId ≤ b.aggregateId)

/-- What is shown in the end if so many fruits were published. -/
def Shows (backend : Backend) (clock : Instant) (ids : Nat → Uuid) (count : Nat)
    (closing : List Notice) : Prop :=
  match backend with
  | .memory => ∃ entries : List Audit.Entry,
    closing = entries.map .recorded ++ [.counted (recordedText count ++ publishedText count)] ∧
    entries.length = count ∧ entries.mergeSort byAggregate = (fruitEntries clock ids).take count
  | .noop => closing = [.counted (publishedText count)]

section Shown
variable {clock : Instant} {ids : Nat → Uuid}

theorem line_fruitEntry (fruit : (Int64 × String) × Nat) :
    (Notice.recorded (fruitEntry clock ids fruit)).line = fruitLine ids fruit := by
  simp [Notice.line, fruitEntry, fruitLine, dataText, Utf8.decode?_encode]

theorem entries_rows :
    (rows clock ids).map (Audit.Entry.ofEvent ∘ Event.ofMessage) = fruitEntries clock ids := by
  have payloads : fruits.map (fun fruit => payload fruit.1 fruit.2) =
      sayings.map fun fruit => Utf8.encode fruit.2.toList := by decide
  simp only [fruits, sayings, List.map_cons, List.map_nil, List.cons.injEq] at payloads
  obtain ⟨apple, pear, plum, _⟩ := payloads
  have entry (fruit : Int64 × String) (index : Nat) :
      Audit.Entry.ofEvent (Event.ofMessage (row clock (ids index, submission fruit))) =
        { id := ids index, occurredAt := clock, aggregateId := fruit.1, eventType := "fruit"
          data := payload fruit.1 fruit.2, metadata := "fruit.created" } := rfl
  simp [rows, submissions, fruits, fruitEntries, sayings, List.zipIdx, entry, fruitEntry, apple,
    pear, plum]

theorem pairwise_fruitEntries : (fruitEntries clock ids).Pairwise fun a b =>
    a.aggregateId.toInt < b.aggregateId.toInt := by
  have ascending : sayings.zipIdx.Pairwise fun a b => a.1.1.toInt < b.1.1.toInt := by decide
  rw [fruitEntries, List.pairwise_map]
  exact ascending

theorem byAggregate_iff {a b : Audit.Entry} :
    byAggregate a b = true ↔ a.aggregateId.toInt ≤ b.aggregateId.toInt := by
  rw [byAggregate, decide_eq_true_eq, Int64.le_iff_toInt_le]

/-- Entries in the order of the numbers of their aggregates are the first fruits. -/
theorem sorted_entries {entries : List Audit.Entry} {count : Nat}
    (same : entries.Perm ((fruitEntries clock ids).take count)) :
    entries.mergeSort byAggregate = (fruitEntries clock ids).take count := by
  have ascending := (@pairwise_fruitEntries clock ids).take (i := count)
  have numbered : (((fruitEntries clock ids).take count).map
      fun entry => entry.aggregateId.toInt).Nodup :=
    List.pairwise_map.mpr (ascending.imp ne_of_lt)
  apply Sorting.mergeSort_eq_of_perm @byAggregate_iff ?_ (ascending.imp le_of_lt) same
  intro a here b there level
  exact List.inj_on_of_nodup_map numbered here there level

end Shown

/-! ## The moments of a demonstration -/

/-- An interval that can be loaded is a whole number of milliseconds. -/
theorem whole_interval {lookup : String → Option String} {settings : Settings}
    (described : Describes lookup settings) : ∃ period, 0 < period ∧
      settings.workerInterval.nanoseconds = period * nanosecondsPerMoment := by
  have sizes : ∀ entry ∈ Config.units, nanosecondsPerMoment ∣ entry.2 := by decide
  obtain ⟨value, unit, size, _, known, length⟩ := described.interval_of_unit
  obtain ⟨milliseconds, whole⟩ := sizes _ known
  have regrouped : settings.workerInterval.nanoseconds =
      value * milliseconds * nanosecondsPerMoment := by
    simp only at whole
    rw [length, whole, Nat.mul_comm nanosecondsPerMoment, Nat.mul_assoc]
  refine ⟨value * milliseconds, ?_, regrouped⟩
  have positive := described.positive.1
  rw [regrouped] at positive
  exact Nat.pos_of_mul_pos_right positive

/-- Three intervals of whole milliseconds, if they are no longer than a pause can be. -/
theorem times?_three {interval : Span} {period : Nat}
    (whole : interval.nanoseconds = period * nanosecondsPerMoment)
    (short : 3 * period ≤ Time.longestPause) :
    ∃ stop, interval.times? 3 = some stop ∧ stop.pause = 3 * period := by
  have bound : Time.longestPause * nanosecondsPerMoment < Time.spanLimit := by decide
  have regrouped : interval.nanoseconds * 3 = 3 * period * nanosecondsPerMoment := by
    rw [whole, Nat.mul_comm, Nat.mul_assoc]
  have inRange : interval.nanoseconds * 3 < Time.spanLimit := by
    rw [regrouped]
    exact (Nat.mul_le_mul_right _ short).trans_lt bound
  refine ⟨⟨_, inRange⟩, times?_eq_some.mpr rfl, ?_⟩
  have exact_stop : (interval.nanoseconds * 3 + 999999) / 1000000 = 3 * period := by
    rw [regrouped, nanosecondsPerMoment]
    omega
  rw [Span.pause, Span.ceilMilliseconds, exact_stop, Time.pauseOf, Nat.min_eq_left short]

/-! ## The end -/

section Course
variable {clock : Instant} {ids : Nat → Uuid} {settings : Settings} {period : Nat}

theorem kept_operate (distinct : Distinct ids)
    (whole : settings.workerInterval.nanoseconds = period * nanosecondsPerMoment)
    (positive : 0 < period) (short : 3 * period ≤ Time.longestPause) :
    Kept settings.backend (stockedWorld settings.backend clock ids)
      ((rows clock ids).take (publishedFruits settings))
      (operate settings (3 * period) (stockedWorld settings.backend clock ids)) := by
  -- the worker starts at moment 0, and its third tick is the moment at which it is stopped
  have kept := @kept_before_stop _ _ settings.publisher period _
    (fresh_stockedWorld settings.backend clock ids)
    (backlog_stockedWorld distinct settings.backend clock) whole positive (by omega) 2
  have count : (rows clock ids).length = fruits.length := rfl
  rw [pendingRows_stockedWorld, List.take_eq_take_min, count, Nat.min_comm] at kept
  exact kept

theorem shows_of_kept {backend : Backend} {count : Nat} {world : World} (positive : 0 < count)
    (few : count ≤ fruits.length)
    (kept : Kept backend (stockedWorld backend clock ids) ((rows clock ids).take count) world) :
    Shows backend clock ids count (closing world) := by
  obtain ⟨saved, increments, sink, counts⟩ := kept
  have published : ((rows clock ids).take count).length = count := by
    rw [List.length_take]
    exact Nat.min_eq_left few
  have exported (recorded : Nat) (counts : increments.Perm (countedFor count recorded)) :
      export? world.sink = some (Registry.counted count recorded).text := by
    have counted : world.sink = .registry (Registry.counted count recorded) :=
      sink.trans (recordAll_of_perm counts)
    rw [counted, export?]
  rw [published] at counts
  cases backend with
  | noop =>
      have unrecorded : world.log.entries = [] := by
        simp only [Audit.Log.entries, saved, heard, List.map_nil, List.mergeSort_nil]
      rw [Shows, closing, unrecorded, exported 0 counts, Registry.text_published positive]
      rfl
  | memory =>
      have recorded : (heard .memory ((rows clock ids).take count)).length = count := published
      rw [recorded] at counts
      have sorted : world.log.entries.Perm world.log.saved := List.mergeSort_perm _ _
      have entries : world.log.entries.Perm ((fruitEntries clock ids).take count) := by
        rw [← entries_rows, ← List.map_take]
        exact sorted.trans (List.Perm.of_eq saved)
      have length : world.log.entries.length = count := by
        rw [entries.length_eq, ← entries_rows, ← List.map_take, List.length_map, published]
      rw [Shows, closing, exported count counts, Registry.text_both positive positive]
      exact ⟨_, rfl, length, sorted_entries entries⟩

end Course

/-- A demonstration whose settings can be loaded ends after three intervals, unless they are longer
than a pause can be, and nothing fails.  What it shows in the end are the fruits that were published
and the counters of them: all three fruits if two of them make a batch, and their entries if the bus
has subscribers. -/
theorem start_shows_published_fruits {environment : Environment} {file : Bytes}
    {settings : Settings} (loaded : Settings.ofEnvironment environment file = .ok settings)
    (in_timer : 3 * settings.workerInterval.nanoseconds ≤
      Time.longestPause * nanosecondsPerMoment)
    (clock : Instant) {ids : Nat → Uuid} (distinct : Distinct ids) :
    (∃ account, start environment file clock ids = .ended account ∧
      account.failure = none ∧
      account.duration * nanosecondsPerMoment = 3 * settings.workerInterval.nanoseconds ∧
      Shows settings.backend clock ids (publishedFruits settings) account.closing) ∧
    (0 < publishedFruits settings ∧
      (2 ≤ settings.workerBatchSize → publishedFruits settings = fruits.length)) ∧
    (fruitEntries clock ids).map (fun entry => (Notice.recorded entry).line) =
      sayings.zipIdx.map (fruitLine ids) := by
  have described := Config.load_eq_ok.mp loaded
  have size := described.positive.2
  obtain ⟨period, positive, whole⟩ := whole_interval described
  have short : 3 * period ≤ Time.longestPause := by
    rw [whole, ← Nat.mul_assoc] at in_timer
    exact Nat.le_of_mul_le_mul_right in_timer (by decide)
  obtain ⟨stop, found, pause⟩ := times?_three whole short
  have account : start environment file clock ids = .ended {
      opening := opening settings
      duration := 3 * period
      closing := closing (operate settings (3 * period)
        (stockedWorld settings.backend clock ids)) } := by
    rw [start, loaded]
    dsimp only
    rw [run_eq distinct, found, ← pause]
  have three : fruits.length = 3 := rfl
  have some_published : 0 < publishedFruits settings := by
    rw [publishedFruits, three]
    omega
  have kept := @kept_operate clock ids _ _ distinct whole positive short
  refine ⟨⟨_, account, rfl, ?_, ?_⟩, ⟨some_published, ?_⟩, ?_⟩
  · rw [whole, Nat.mul_assoc]
  · exact shows_of_kept some_published (Nat.min_le_left _ _) kept
  · intro two
    rw [publishedFruits, three]
    omega
  · rw [fruitEntries, List.map_map]
    exact List.map_congr_left fun fruit _ => line_fruitEntry fruit

/-- Batches of one fruit, and the bus without subscribers. -/
def sparingEnvironment : Environment :=
  [("OUTBOX_WORKER_BATCH_SIZE", "1"), ("OUTBOX_BUS_BACKEND", "noop")]

def sparingSettings : Settings :=
  { Settings.default with workerBatchSize := 1, backend := .noop }

/-- Without any settings all fruits are shown after fifteen seconds.  With the sparing ones two are
published, and no entry is shown. -/
theorem start_shows_published_fruits_by_default :
    Settings.ofEnvironment [] [] = .ok Settings.default ∧
    (∃ account, start [] [] .epoch firstIds = .ended account ∧ account.failure = none ∧
      account.duration = 15000 ∧ Shows .memory .epoch firstIds 3 account.closing) ∧
    Settings.ofEnvironment sparingEnvironment [] = .ok sparingSettings ∧
    ∃ account, start sparingEnvironment [] .epoch firstIds = .ended account ∧
      account.closing = [.counted (publishedText 2)] := by
  have loaded : Settings.ofEnvironment [] [] = .ok Settings.default := rfl
  have sparing : Settings.ofEnvironment sparingEnvironment [] = .ok sparingSettings := rfl
  obtain ⟨⟨account, ended, sound, duration, shows⟩, _⟩ :=
    start_shows_published_fruits loaded (by decide) .epoch distinct_firstIds
  obtain ⟨⟨other, other_ended, _, _, unshown⟩, _⟩ :=
    start_shows_published_fruits sparing (by decide) .epoch distinct_firstIds
  have positive : 0 < nanosecondsPerMoment := by decide
  exact ⟨loaded, ⟨account, ended, sound, Nat.eq_of_mul_eq_mul_right positive duration, shows⟩,
    sparing, other, other_ended, unshown⟩

end Outbox.Demo
