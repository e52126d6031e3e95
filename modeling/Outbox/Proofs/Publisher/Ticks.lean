import Mathlib.Data.List.Nodup
import Outbox.Proofs.Publisher.Cancellation

/-!
# Missed ticks

The iterations of a worker by the window that each begins in: window `k` goes from `k` to `k + 1`
intervals after the start.  A tick that is taken late by more than the tolerance skips all ticks up
to the present.  One that is late by less does not, and the ticks behind it are taken at once; so a
window has one iteration at most where the interval is longer than the tolerance, and where it is
shorter a window can have as many more as the tolerance has intervals.
-/

set_option autoImplicit false

namespace Outbox.Publisher

open Time (Span)

/-! ## One tick -/

namespace Ticker

@[simp] theorem due_take (ticker : Ticker) (now : Nat) :
    (ticker.take now).due = ticker.following now := by
  cases ticker
  rfl

theorem following_early {ticker : Ticker} {now : Nat} (early : now ≤ ticker.due + tolerance) :
    ticker.following now = ticker.due + ticker.period := by
  rw [following, if_neg (Nat.not_lt.mpr early)]

/-- The tick after one that is a multiple of the period after some start is the next multiple, or
behind a late tick the next multiple after now. -/
theorem following_multiple {ticker : Ticker} {start count now : Nat}
    (grid : ticker.due = start + count * ticker.period) (ticked : ticker.due ≤ now) :
    (now ≤ ticker.due + tolerance ∧
      ticker.following now = start + (count + 1) * ticker.period) ∨
    ticker.following now = start + ((now - start) / ticker.period + 1) * ticker.period := by
  unfold following
  by_cases late : ticker.due + tolerance < now
  · right
    rw [if_pos late]
    have elapsed : now - start = (now - ticker.due) + count * ticker.period := by omega
    have rest : (now - start) % ticker.period = (now - ticker.due) % ticker.period := by
      rw [elapsed, Nat.add_mul_mod_self_right]
    have whole := Nat.div_add_mod (now - start) ticker.period
    have small := Nat.mod_lt (now - start) ticker.period_pos
    rw [Nat.add_mul, Nat.one_mul, Nat.mul_comm, ← rest]
    omega
  · left
    rw [if_neg late, grid, Nat.add_mul, Nat.one_mul]
    omega

end Ticker

namespace Loop

variable {settings : Settings} {start : Nat} {history : List Move} {loop : Loop}

/-! ## Windows -/

/-- The window that an iteration begins in. -/
def window (settings : Settings) (start : Nat) (lap : Lap) : Nat :=
  (lap.begun - start) / Ticker.firstWait settings.interval

def windows (settings : Settings) (start : Nat) (loop : Loop) : List Nat :=
  loop.laps.map (window settings start)

/-- A move leaves the windows and the ticker, or it begins an iteration that is due. -/
theorem windows_step (sound : loop.Sound settings start history) (move : Move) :
    ((loop.step settings.batchSize move).windows settings start = loop.windows settings start ∧
      (loop.step settings.batchSize move).worker.ticker = loop.worker.ticker) ∨
    (loop.worker.ticker.due ≤ loop.now ∧
      (loop.step settings.batchSize move).windows settings start =
        loop.windows settings start ++ [window settings start { begun := loop.now }] ∧
      (loop.step settings.batchSize move).worker.ticker = loop.worker.ticker.take loop.now) := by
  have moved := loop.step_moved settings.batchSize move
  generalize loop.step settings.batchSize move = after at moved
  cases moved with
  | begun due =>
      right
      refine ⟨(Worker.isDue_iff.mp due).2, ?_, Worker.ticker_begin due⟩
      simp [windows, laps, sound.resting due]
  | continued current =>
      left
      refine ⟨?_, rfl⟩
      simp [windows, laps, current, window, Lap.advance]
  | finished current =>
      left
      refine ⟨?_, Worker.ticker_finish _⟩
      simp [windows, laps, current, window, Lap.advance]
  | quieted _ quiet => exact .inl ⟨rfl, quiet.ticker⟩
  | _ => exact .inl ⟨rfl, rfl⟩

/-- Later iterations begin in the same window or in a later one. -/
theorem windows_ordered (sound : loop.Sound settings start history) :
    (loop.windows settings start).Pairwise (· ≤ ·) := by
  apply List.Pairwise.map _ _ sound.pairwise_laps
  rintro lap next ⟨ended, _, before, after⟩
  apply Nat.div_le_div_right
  omega

/-! ## How many begin in a window -/

/-- The next tick is a multiple of the interval, and a window with iterations is so much the further
behind it the more it has. -/
structure Spaced (settings : Settings) (start : Nat) (loop : Loop) (next : Nat) : Prop where
  due : loop.worker.ticker.due = start + next * Ticker.firstWait settings.interval
  few : ∀ window, (loop.windows settings start).count window ≤
    Ticker.tolerance / Ticker.firstWait settings.interval + 1
  behind : ∀ window, (loop.windows settings start).count window = 0 ∨
    (loop.windows settings start).count window + window ≤
      next + Ticker.tolerance / Ticker.firstWait settings.interval

theorem Spaced.step {next : Nat} (spaced : loop.Spaced settings start next)
    (sound : loop.Sound settings start history)
    (short : Ticker.firstWait settings.interval ≤ Ticker.longestPeriod) (move : Move) :
    ∃ next, (loop.step settings.batchSize move).Spaced settings start next := by
  rcases windows_step sound move with ⟨windows, ticker⟩ | ⟨ticked, windows, ticker⟩
  · refine ⟨next, ?_, ?_, ?_⟩
    · rw [ticker]
      exact spaced.due
    · rw [windows]
      exact spaced.few
    · rw [windows]
      exact spaced.behind
  · have period : loop.worker.ticker.period = Ticker.firstWait settings.interval :=
      sound.period.trans (Nat.min_eq_left short)
    have positive := Ticker.firstWait_pos settings.interval
    have grid := spaced.due
    rw [← period] at grid
    have followed := Ticker.following_multiple grid ticked
    rw [grid] at ticked
    rw [grid, period] at followed
    rw [period] at ticked
    -- The window of the new iteration is not before the tick.
    have reached : next ≤ window settings start { begun := loop.now } := by
      rw [window, Nat.le_div_iff_mul_le positive]
      dsimp only
      omega
    have room : (loop.windows settings start).count (window settings start { begun := loop.now }) ≤
        Ticker.tolerance / Ticker.firstWait settings.interval := by
      rcases spaced.behind (window settings start { begun := loop.now }) with none_yet | behind
      · rw [none_yet]
        exact Nat.zero_le _
      · generalize Ticker.tolerance / Ticker.firstWait settings.interval = spare at behind ⊢
        omega
    have counted (other : Nat) :
        ((loop.step settings.batchSize move).windows settings start).count other =
          (loop.windows settings start).count other +
            if window settings start { begun := loop.now } = other then 1 else 0 := by
      rw [windows, List.count_append, List.count_singleton]
      simp only [beq_iff_eq]
    have due : (loop.step settings.batchSize move).worker.ticker.due =
        loop.worker.ticker.following loop.now := by
      rw [ticker]
      rfl
    have few (other : Nat) :
        ((loop.step settings.batchSize move).windows settings start).count other ≤
          Ticker.tolerance / Ticker.firstWait settings.interval + 1 := by
      rw [counted]
      split
      next same => exact Nat.succ_le_succ (same ▸ room)
      next => exact spaced.few other
    rcases followed with ⟨tolerated, following⟩ | following
    · have close : window settings start { begun := loop.now } ≤
          next + Ticker.tolerance / Ticker.firstWait settings.interval := by
        have bound : loop.now - start ≤
            Ticker.tolerance + next * Ticker.firstWait settings.interval := by omega
        have divided := Nat.div_le_div_right (c := Ticker.firstWait settings.interval) bound
        rw [Nat.add_mul_div_right _ _ positive, Nat.add_comm] at divided
        exact divided
      refine ⟨next + 1, due.trans following, few, ?_⟩
      intro other
      have behind := spaced.behind other
      rw [counted]
      generalize Ticker.tolerance / Ticker.firstWait settings.interval = spare at behind close ⊢
      split
      next same =>
        subst same
        omega
      next => omega
    · refine ⟨window settings start { begun := loop.now } + 1, due.trans following, few, ?_⟩
      intro other
      have behind := spaced.behind other
      rw [counted]
      generalize Ticker.tolerance / Ticker.firstWait settings.interval = spare at behind room ⊢
      split
      next same =>
        subst same
        omega
      next => omega

theorem spaced_run (short : Ticker.firstWait settings.interval ≤ Ticker.longestPeriod)
    (start : Nat) (store : Store) (history : List Move) :
    ∃ next, (run settings start store history).Spaced settings start next := by
  induction history using List.reverseRecOn with
  | nil =>
      refine ⟨1, ?_, ?_, ?_⟩
      · rw [Nat.one_mul]
        rfl
      · intro window
        exact Nat.zero_le _
      · intro window
        exact .inl rfl
  | append_singleton past move ih =>
      obtain ⟨next, spaced⟩ := ih
      rw [run_concat]
      exact spaced.step (sound_run settings start store past) short move

/-! ## Two in one window -/

/-- An iteration that takes some time until it is told that it cannot begin a transaction. -/
def failedLap (duration : Nat) : List Move :=
  [.look, .tick, .pass duration, .reply { injected := some (.database "gone") }]

/-- A loop that is ready for an iteration. -/
structure Ready (loop : Loop) : Prop where
  idle : loop.worker.activity = .idle
  uncancelled : loop.worker.isCancelled = false
  resting : loop.current = none

/-- What an iteration that is due leaves behind when it has failed. -/
theorem foldl_failedLap (settings : Settings) (start : Nat) (ready : loop.Ready)
    (ticked : loop.worker.ticker.due ≤ loop.now) (duration : Nat) :
    ((failedLap duration).foldl (step settings.batchSize) loop).Ready ∧
    ((failedLap duration).foldl (step settings.batchSize) loop).now = loop.now + duration ∧
    ((failedLap duration).foldl (step settings.batchSize) loop).worker.ticker =
      loop.worker.ticker.take loop.now ∧
    ((failedLap duration).foldl (step settings.batchSize) loop).windows settings start =
      loop.windows settings start ++ [window settings start { begun := loop.now }] := by
  have looked : loop.worker.look = { loop.worker with activity := .looking } := by
    simp [Worker.look, ready.idle, ready.uncancelled]
  have due : loop.worker.look.isDue loop.now = true := by
    rw [looked]
    exact Worker.isDue_iff.mpr ⟨rfl, ticked⟩
  have activity := Worker.activity_finish (Worker.activity_begin due)
  have left : (failedLap duration).foldl (step settings.batchSize) loop = { loop with
      worker := (loop.worker.look.begin loop.now).finish
      now := loop.now + duration
      past := loop.past ++ [{
        begun := loop.now
        earlier := [.starting]
        iteration := .ended (.error (.database "gone"))
        ended := some (loop.now + duration) }]
      current := none } := by
    simp only [failedLap, List.foldl_cons, List.foldl_nil, step, due, if_true]
    rfl
  rw [left]
  refine ⟨⟨activity, ?_, rfl⟩, rfl, ?_, ?_⟩
  · simp [ready.uncancelled]
  · rw [Worker.ticker_finish, Worker.ticker_begin due, looked]
  · simp [windows, laps, ready.resting, window]

/-- A fresh loop when its first iteration is due. -/
theorem first_due (settings : Settings) (store : Store) :
    let first := run settings 0 store [.pass (Ticker.firstWait settings.interval)]
    first.Ready ∧ first.now = Ticker.firstWait settings.interval ∧
      first.worker.ticker.due = Ticker.firstWait settings.interval ∧
      first.worker.ticker.period =
        min (Ticker.firstWait settings.interval) Ticker.longestPeriod ∧
      first.windows settings 0 = [] :=
  ⟨⟨rfl, rfl, rfl⟩, Nat.zero_add _, Nat.zero_add _, rfl, rfl⟩

theorem window_multiple (settings : Settings) (count : Nat) {moment : Nat}
    (multiple : moment = count * Ticker.firstWait settings.interval) :
    window settings 0 { begun := moment } = count := by
  rw [window, multiple]
  exact Nat.mul_div_cancel _ (Ticker.firstWait_pos settings.interval)

/-- An iteration that takes two short intervals, and two more that come at once after it. -/
def crowdedHistory (settings : Settings) : List Move :=
  [.pass (Ticker.firstWait settings.interval)] ++
    failedLap (2 * Ticker.firstWait settings.interval) ++ failedLap 0 ++ failedLap 0

theorem windows_crowdedHistory (store : Store)
    (short : Ticker.firstWait settings.interval ≤ Ticker.tolerance) :
    (run settings 0 store (crowdedHistory settings)).windows settings 0 = [1, 3, 3] := by
  have longest : Ticker.tolerance ≤ Ticker.longestPeriod := by decide
  obtain ⟨ready, now, due, period, windows⟩ := first_due settings store
  rw [Nat.min_eq_left (Nat.le_trans short longest)] at period
  rw [crowdedHistory, run_append, run_append, run_append]
  generalize run settings 0 store [.pass (Ticker.firstWait settings.interval)] = first
    at ready now due period windows ⊢
  -- The long iteration begins in time, so the tick after it is one period later.
  obtain ⟨ready, later, ticker, shown⟩ := foldl_failedLap settings 0 ready (by omega)
    (2 * Ticker.firstWait settings.interval)
  generalize (failedLap (2 * Ticker.firstWait settings.interval)).foldl (step settings.batchSize)
    first = second at ready later ticker shown ⊢
  have second_due : second.worker.ticker.due = 2 * Ticker.firstWait settings.interval := by
    rw [ticker, Ticker.due_take, Ticker.following_early (by omega)]
    omega
  have second_period : second.worker.ticker.period = Ticker.firstWait settings.interval := by
    rw [ticker, Ticker.period_take, period]
  rw [windows, window_multiple settings 1 (by omega)] at shown
  -- The next one is late, but not by more than the tolerance.
  obtain ⟨ready, third_now, third_ticker, third_shown⟩ := foldl_failedLap settings 0 ready
    (by omega) 0
  generalize (failedLap 0).foldl (step settings.batchSize) second = third
    at ready third_now third_ticker third_shown ⊢
  have third_due : third.worker.ticker.due = 3 * Ticker.firstWait settings.interval := by
    rw [third_ticker, Ticker.due_take, Ticker.following_early (by omega)]
    omega
  rw [shown, window_multiple settings 3 (by omega)] at third_shown
  obtain ⟨_, _, _, all⟩ := foldl_failedLap settings 0 ready (by omega) 0
  rw [all, third_shown, window_multiple settings 3 (by omega)]
  rfl

/-- An iteration that takes the longest period, and the next one. -/
def rareLaps (settings : Settings) : List Move :=
  [.pass (Ticker.firstWait settings.interval)] ++ failedLap Ticker.longestPeriod ++ failedLap 0

theorem windows_rareLaps (store : Store)
    (long : Ticker.longestPeriod < Ticker.firstWait settings.interval) :
    (run settings 0 store (rareLaps settings)).windows settings 0 = [1, 1] := by
  obtain ⟨ready, now, due, period, windows⟩ := first_due settings store
  rw [Nat.min_eq_right (Nat.le_of_lt long)] at period
  rw [rareLaps, run_append, run_append]
  generalize run settings 0 store [.pass (Ticker.firstWait settings.interval)] = first
    at ready now due period windows ⊢
  obtain ⟨ready, later, ticker, shown⟩ := foldl_failedLap settings 0 ready (by omega)
    Ticker.longestPeriod
  generalize (failedLap Ticker.longestPeriod).foldl (step settings.batchSize) first = second
    at ready later ticker shown ⊢
  have second_due : second.worker.ticker.due ≤ second.now := by
    rw [ticker, Ticker.due_take, Ticker.following_early (by omega)]
    omega
  have same_window : window settings 0 { begun := second.now } = 1 := by
    have positive := Ticker.firstWait_pos settings.interval
    rw [window, later, now]
    apply Nat.div_eq_of_lt_le
    · dsimp only
      omega
    · dsimp only
      omega
  obtain ⟨_, _, _, all⟩ := foldl_failedLap settings 0 ready second_due 0
  rw [all, shown, windows, window_multiple settings 1 (by omega), same_window]
  rfl

/-! ## The exact condition -/

/-- Where the interval is longer than the tolerance of late ticks and not longer than the timer's
longest period, and nowhere else, every iteration begins in a later window than the one before: of
the ticks that an iteration overran one is taken when it ends, and the next iteration waits for the
next multiple of the interval.  With a shorter interval so many begin in one window at most as
tolerated ticks have room in it. -/
theorem missed_ticks_are_skipped_iff (settings : Settings) :
    ((∀ start store history,
        ((run settings start store history).windows settings start).Pairwise (· < ·)) ↔
      Ticker.tolerance < Ticker.firstWait settings.interval ∧
        Ticker.firstWait settings.interval ≤ Ticker.longestPeriod) ∧
    (Ticker.firstWait settings.interval ≤ Ticker.longestPeriod →
      ∀ start store history window,
        ((run settings start store history).windows settings start).count window ≤
          Ticker.tolerance / Ticker.firstWait settings.interval + 1) := by
  refine ⟨⟨?_, ?_⟩, ?_⟩
  · intro skipped
    constructor
    · by_contra short
      have crowded := skipped 0 { id := 0 } (crowdedHistory settings)
      rw [windows_crowdedHistory _ (Nat.not_lt.mp short)] at crowded
      revert crowded
      decide
    · by_contra long
      have rare := skipped 0 { id := 0 } (rareLaps settings)
      rw [windows_rareLaps _ (Nat.not_le.mp long)] at rare
      revert rare
      decide
  · rintro ⟨long, short⟩ start store history
    obtain ⟨_, spaced⟩ := spaced_run short start store history
    have ordered := windows_ordered (sound_run settings start store history)
    have distinct : ((run settings start store history).windows settings start).Nodup := by
      rw [List.nodup_iff_count_le_one]
      intro window
      have few := spaced.few window
      rw [Nat.div_eq_of_lt long] at few
      exact few
    exact (ordered.and distinct).imp fun both => Nat.lt_of_le_of_ne both.1 both.2
  · intro short start store history window
    obtain ⟨_, spaced⟩ := spaced_run short start store history
    exact spaced.few window

/-- A worker that looks for rows every millisecond. -/
def eagerSettings : Settings :=
  { interval := Span.ofMilliseconds 1 }

/-- After an iteration of four milliseconds four iterations come at once. -/
theorem eagerHistory_bursts :
    (run eagerSettings 0 { id := 0 } ([.pass 1000000] ++ failedLap 4000000 ++ failedLap 0 ++
      failedLap 0 ++ failedLap 0 ++ failedLap 0)).laps.map Lap.begun =
      [1000000, 5000000, 5000000, 5000000, 5000000] ∧
    ¬ ∀ settings start store history,
      ((run settings start store history).windows settings start).Pairwise (· < ·) := by
  refine ⟨by rfl, ?_⟩
  intro skipped
  have crowded := skipped eagerSettings 0 { id := 0 } ([.pass 1000000] ++ failedLap 4000000 ++
    failedLap 0 ++ failedLap 0)
  revert crowded
  decide

/-- Ten milliseconds are long enough, and with one millisecond six iterations can come at once. -/
theorem briskSettings_skip_missed_ticks :
    (∀ start store history,
      ((run briskSettings start store history).windows briskSettings start).Pairwise (· < ·)) ∧
    Ticker.firstWait eagerSettings.interval ≤ Ticker.longestPeriod ∧
    ∀ start store history window,
      ((run eagerSettings start store history).windows eagerSettings start).count window ≤ 6 := by
  have short : Ticker.firstWait eagerSettings.interval ≤ Ticker.longestPeriod := by decide
  obtain ⟨_, few⟩ := missed_ticks_are_skipped_iff eagerSettings
  obtain ⟨skipped, _⟩ := missed_ticks_are_skipped_iff briskSettings
  exact ⟨skipped.mpr ⟨by decide, by decide⟩, short, few short⟩

end Loop

end Outbox.Publisher
