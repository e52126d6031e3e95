import Outbox.Proofs.Publisher.Calls
import Outbox.Publisher.Settings
import Outbox.Publisher.Worker

/-!
# The loop of a worker

A worker with its iterations.  A history is a list of moves: time passes, the worker looks whether
it is cancelled or whether a tick is due, the call of its iteration comes to an end, others change
the store, the worker is cancelled, or somebody looks whether it has stopped.  So the calls take any
time and end in any way, and the cancellation comes at any moment, also between the two looks.

Iterations come one after the other, and none comes before its time.
-/

set_option autoImplicit false

namespace Outbox.Publisher

open Time (Instant Span)

/-! ## Exchanges -/

/-- What the surroundings say to a call of an iteration. -/
structure Reply where
  clock : Instant := .epoch
  /-- The error of a call to the store that did not take place. -/
  injected : Option Error := none
  /-- The result of a publication, which may be the error of its time limit. -/
  result : Except Error Unit := .ok ()

namespace Iteration

def isEnded : Iteration → Bool
  | .ended _ => true
  | _ => false

/-- The next call of an iteration, and the reply. -/
def exchange (batchSize : Nat) (reply : Reply) (store : Store) (iteration : Iteration) :
    Iteration × Store :=
  match iteration.action batchSize with
  | .call _ => iteration.perform batchSize reply.clock reply.injected store
  | .publish _ _ => ((iteration.answer reply.result).1, store)
  | .stop _ => (iteration, store)

/-- The most exchanges until an iteration has ended. -/
def exchangesLeft (batchSize : Nat) : Iteration → Nat
  | .starting => batchSize + 5
  | .fetching _ => batchSize + 4
  | .publishing _ _ _ waiting => waiting.length + 4
  | .savingProcessed _ _ => 3
  | .savingFailed _ _ => 2
  | .committing _ _ => 1
  | .undoing _ _ => 1
  | .ended _ => 0

section Exchanges
variable {batchSize : Nat} {iteration : Iteration}

theorem isEnded_of_exchangesLeft (none_left : iteration.exchangesLeft batchSize = 0) :
    iteration.isEnded = true := by
  cases iteration with
  | ended result => rfl
  | _ => simp [exchangesLeft] at none_left

theorem exchangesLeft_publishNext_le (batchSize : Nat) (tx : Transaction) (attempts : Attempts)
    (waiting : List Message) :
    (publishNext tx attempts waiting).exchangesLeft batchSize ≤ waiting.length + 3 := by
  rcases publishNext_cases tx attempts waiting with
    ⟨message, rest, there, next⟩ | ⟨_, next⟩ | ⟨_, _, next⟩ | ⟨_, _, _, next⟩
  · rw [next, there]
    exact Nat.le_refl _
  · simp [next, exchangesLeft]
  · simp [next, exchangesLeft]
  · simp [next, exchangesLeft]

theorem length_le_of_fetch {store later : Store} {tx : Transaction} {batch : List Message}
    (fetched : store.fetch tx batchSize = .ok (batch, later)) : batch.length ≤ batchSize := by
  rw [(Store.of_fetch fetched).1]
  exact List.length_take_le _ _

theorem waiting_of_stage (other_stage : iteration.rank.1 ≠ 4) : iteration.rank.2 = 0 := by
  cases iteration with
  | publishing tx attempts message waiting => exact absurd rfl other_stage
  | _ => rfl

theorem exchangesLeft_of_late (batchSize : Nat) (late : iteration.rank.1 ≤ 4) :
    iteration.exchangesLeft batchSize = iteration.rank.1 + iteration.rank.2 := by
  cases iteration with
  | starting => exact absurd late (by decide)
  | fetching tx => exact absurd late (by simp [rank])
  | publishing tx attempts message waiting => exact Nat.add_comm _ _
  | _ => rfl

/-- Once the batch is there, every step that comes nearer to the end is an exchange less. -/
theorem exchangesLeft_lt_of_nearer (batchSize : Nat) {next : Iteration}
    (nearer : next.Nearer iteration) (late : iteration.rank.1 ≤ 4) :
    next.exchangesLeft batchSize < iteration.exchangesLeft batchSize := by
  rcases Prod.lex_def.mp nearer with earlier | ⟨same, fewer⟩
  · have none_waits := waiting_of_stage (Nat.ne_of_lt (Nat.lt_of_lt_of_le earlier late))
    rw [exchangesLeft_of_late batchSize (Nat.le_of_lt (Nat.lt_of_lt_of_le earlier late)),
      exchangesLeft_of_late batchSize late, none_waits]
    omega
  · rw [exchangesLeft_of_late batchSize (same ▸ late), exchangesLeft_of_late batchSize late, same]
    exact Nat.add_lt_add_left fewer _

theorem exchangesLeft_perform {call : Call} (calls : iteration.action batchSize = .call call)
    (now : Instant) (injected : Option Error) (store : Store) :
    (iteration.perform batchSize now injected store).1.exchangesLeft batchSize <
      iteration.exchangesLeft batchSize := by
  have nearer := perform_nearer calls now injected store
  cases iteration with
  | starting => cases injected <;> simp [perform, exchangesLeft]
  | fetching tx =>
      -- How many publications there will be is known from here on.
      cases injected with
      | some error => simp [perform, exchangesLeft]
      | none =>
          simp only [perform]
          split
          · simp [exchangesLeft]
          · rename_i batch later fetched
            have next := exchangesLeft_publishNext_le batchSize tx
              { fetched := batch.length } batch
            have bound := length_le_of_fetch fetched
            exact Nat.lt_succ_of_le (Nat.le_trans next (Nat.add_le_add_right bound 3))
  | _ => exact exchangesLeft_lt_of_nearer batchSize nearer (by simp [rank])

theorem exchangesLeft_exchange (batchSize : Nat) (under_way : iteration.isEnded = false)
    (reply : Reply) (store : Store) :
    (iteration.exchange batchSize reply store).1.exchangesLeft batchSize <
      iteration.exchangesLeft batchSize := by
  unfold exchange
  split
  · exact exchangesLeft_perform ‹_› _ _ _
  · rename_i topic event publishes
    have nearer := answer_nearer publishes reply.result
    cases iteration with
    | publishing tx attempts message waiting =>
        exact exchangesLeft_lt_of_nearer batchSize nearer (Nat.le_refl 4)
    | _ => simp [action] at publishes
  · rename_i result stops
    cases iteration with
    | ended result => cases under_way
    | _ => simp [action] at stops

end Exchanges

end Iteration

/-! ## Workers -/

namespace Ticker

theorem add_period_le_following (ticker : Ticker) (now : Nat) :
    ticker.due + ticker.period ≤ ticker.following now := by
  unfold following
  split
  · have skipped : (now - ticker.due) % ticker.period ≤ now - ticker.due := Nat.mod_le _ _
    omega
  · exact Nat.le_refl _

@[simp] theorem period_take (ticker : Ticker) (now : Nat) :
    (ticker.take now).period = ticker.period := by
  cases ticker
  rfl

/-- The time between two ticks of a worker. -/
def pace (interval : Span) : Nat :=
  min (firstWait interval) longestPeriod

end Ticker

namespace Worker

variable {worker : Worker} {now : Nat}

theorem isDue_iff : worker.isDue now = true ↔
    worker.activity = .looking ∧ worker.ticker.due ≤ now := by
  simp [isDue]

theorem activity_begin (due : worker.isDue now = true) :
    (worker.begin now).activity = .running := by
  simp only [begin, if_pos due]

theorem ticker_begin (due : worker.isDue now = true) :
    (worker.begin now).ticker = worker.ticker.take now := by
  simp only [begin, if_pos due]

@[simp] theorem isCancelled_begin (worker : Worker) (now : Nat) :
    (worker.begin now).isCancelled = worker.isCancelled := by
  unfold begin
  split
  · simp only
  · rfl

theorem activity_finish (running : worker.activity = .running) :
    worker.finish.activity = .idle := by
  simp [finish, running]

@[simp] theorem ticker_finish (worker : Worker) : worker.finish.ticker = worker.ticker := by
  unfold finish
  split <;> rfl

@[simp] theorem isCancelled_finish (worker : Worker) :
    worker.finish.isCancelled = worker.isCancelled := by
  unfold finish
  split <;> rfl

/-- What a worker does without beginning or ending an iteration. -/
structure Quiet (worker after : Worker) : Prop where
  ticker : after.ticker = worker.ticker
  running : after.activity = .running ↔ worker.activity = .running
  stays : worker.activity = .stopped → after.activity = .stopped
  stops : after.activity = .stopped → worker.activity = .stopped ∨ worker.isCancelled = true
  cancelled : worker.isCancelled = true → after.isCancelled = true

theorem quiet_look (worker : Worker) : worker.Quiet worker.look := by
  rcases worker with ⟨ticker, _ | _ | _ | _, _ | _⟩ <;> constructor <;> simp [look]

theorem quiet_rest (worker : Worker) : worker.Quiet worker.rest := by
  rcases worker with ⟨ticker, _ | _ | _ | _, isCancelled⟩ <;> constructor <;> simp [rest]

/-- A worker that looks and then waits again. -/
theorem quiet_look_rest (worker : Worker) : worker.Quiet worker.look.rest := by
  rcases worker with ⟨ticker, _ | _ | _ | _, _ | _⟩ <;> constructor <;> simp [look, rest]

theorem unlooking_rest (worker : Worker) : worker.rest.activity ≠ .looking := by
  rcases worker with ⟨ticker, _ | _ | _ | _, isCancelled⟩ <;> simp [rest]

theorem quiet_cancel (worker : Worker) : worker.Quiet worker.cancel :=
  ⟨rfl, Iff.rfl, id, Or.inl, fun _ => rfl⟩

@[simp] theorem isCancelled_look (worker : Worker) :
    worker.look.isCancelled = worker.isCancelled := by
  unfold look
  split <;> rfl

@[simp] theorem isCancelled_rest (worker : Worker) :
    worker.rest.isCancelled = worker.isCancelled := by
  unfold rest
  split <;> rfl

end Worker

/-! ## Loops -/

/-- One iteration of a worker. -/
structure Lap where
  begun : Nat
  /-- What it was at before each of its calls, and so the calls and all that they were made with. -/
  earlier : List Iteration := []
  iteration : Iteration := .starting
  ended : Option Nat := none

/-- An iteration after its next call. -/
def Lap.advance (lap : Lap) (next : Iteration) : Lap :=
  { lap with earlier := lap.earlier ++ [lap.iteration], iteration := next }

/-- The first iteration has ended when the second one begins. -/
def Lap.Precedes (lap next : Lap) : Prop :=
  ∃ ended, lap.ended = some ended ∧ lap.begun ≤ ended ∧ ended ≤ next.begun

theorem Lap.Precedes.congr {lap next later : Lap} (precedes : lap.Precedes next)
    (same : later.begun = next.begun) : lap.Precedes later := by
  obtain ⟨ended, was, order, past⟩ := precedes
  exact ⟨ended, was, order, same ▸ past⟩

/-- A worker, its iterations and the store.  Times are nanoseconds. -/
structure Loop where
  worker : Worker
  now : Nat
  store : Store
  /-- The iterations that have ended, in this order. -/
  past : List Lap := []
  current : Option Lap := none
  /-- When somebody who waited for the end of the worker went on. -/
  joined : Option Nat := none

namespace Loop

inductive Move where
  | pass (nanoseconds : Nat)
  /-- The worker looks whether it is cancelled. -/
  | look
  /-- The worker looks for a tick, and begins an iteration if one is due. -/
  | tick
  /-- The worker lets others go first, before it has looked for a tick. -/
  | rest
  /-- The next call of the iteration comes to its end. -/
  | reply (reply : Reply)
  /-- Others change the store. -/
  | disturb (store : Store)
  /-- The handle is shut down, or dropped. -/
  | cancel
  /-- Somebody who waits for the end of the worker looks whether it has come. -/
  | join

def Move.isReply : Move → Bool
  | .reply _ => true
  | _ => false

/-- All iterations so far, in the order in which they began. -/
def laps (loop : Loop) : List Lap :=
  loop.past ++ loop.current.toList

/-- The iteration after an exchange. -/
def put (loop : Loop) (lap : Lap) : Loop :=
  if lap.iteration.isEnded then
    { loop with
      worker := loop.worker.finish
      past := loop.past ++ [{ lap with ended := some loop.now }]
      current := none }
  else { loop with current := some lap }

def step (batchSize : Nat) (loop : Loop) : Move → Loop
  | .pass nanoseconds => { loop with now := loop.now + nanoseconds }
  | .look => { loop with worker := loop.worker.look }
  | .tick =>
    if loop.worker.isDue loop.now then
      { loop with worker := loop.worker.begin loop.now, current := some { begun := loop.now } }
    else { loop with worker := loop.worker.rest }
  | .rest => { loop with worker := loop.worker.rest }
  | .reply reply =>
    match loop.current with
    | none => loop
    | some lap =>
      let (iteration, store) := lap.iteration.exchange batchSize reply loop.store
      put { loop with store } (lap.advance iteration)
  | .disturb store => { loop with store }
  | .cancel => { loop with worker := loop.worker.cancel }
  | .join =>
    if loop.joined = none ∧ loop.worker.activity = .stopped then
      { loop with joined := some loop.now }
    else loop

def start (settings : Settings) (now : Nat) (store : Store) : Loop where
  worker := Worker.start settings.interval now
  now := now
  store := store

def run (settings : Settings) (now : Nat) (store : Store) (history : List Move) : Loop :=
  history.foldl (step settings.batchSize) (start settings now store)

theorem run_concat (settings : Settings) (now : Nat) (store : Store) (past : List Move)
    (move : Move) : run settings now store (past ++ [move]) =
      (run settings now store past).step settings.batchSize move := by
  simp [run]

theorem run_append (settings : Settings) (now : Nat) (store : Store) (past later : List Move) :
    run settings now store (past ++ later) =
      later.foldl (step settings.batchSize) (run settings now store past) := by
  simp [run]

/-! ## What a move can do -/

inductive Moved (batchSize : Nat) (loop : Loop) : Move → Loop → Prop where
  /-- The move does not fit. -/
  | nothing (move : Move) (unfit : move.isReply = true → loop.current = none) :
      Moved batchSize loop move loop
  | passed (nanoseconds : Nat) :
      Moved batchSize loop (.pass nanoseconds) { loop with now := loop.now + nanoseconds }
  | begun (due : loop.worker.isDue loop.now = true) :
      Moved batchSize loop .tick
        { loop with worker := loop.worker.begin loop.now, current := some { begun := loop.now } }
  | continued {reply : Reply} {lap : Lap} {iteration : Iteration} {store : Store}
      (current : loop.current = some lap)
      (exchanged : lap.iteration.exchange batchSize reply loop.store = (iteration, store))
      (under_way : iteration.isEnded = false) :
      Moved batchSize loop (.reply reply)
        { loop with store, current := some (lap.advance iteration) }
  | finished {reply : Reply} {lap : Lap} {iteration : Iteration} {store : Store}
      (current : loop.current = some lap)
      (exchanged : lap.iteration.exchange batchSize reply loop.store = (iteration, store))
      (complete : iteration.isEnded = true) :
      Moved batchSize loop (.reply reply) { loop with
        store
        worker := loop.worker.finish
        past := loop.past ++ [{ lap.advance iteration with ended := some loop.now }]
        current := none }
  | disturbed (store : Store) : Moved batchSize loop (.disturb store) { loop with store }
  /-- The worker looks or rests, or is cancelled. -/
  | quieted {move : Move} {worker : Worker} (silent : move.isReply = false)
      (quiet : loop.worker.Quiet worker)
      (cancels : worker.isCancelled = true → loop.worker.isCancelled = true ∨ move = .cancel) :
      Moved batchSize loop move { loop with worker }
  | joined (stopped : loop.worker.activity = .stopped) :
      Moved batchSize loop .join { loop with joined := some loop.now }

theorem step_moved (batchSize : Nat) (loop : Loop) (move : Move) :
    Moved batchSize loop move (loop.step batchSize move) := by
  cases move with
  | pass nanoseconds => exact .passed nanoseconds
  | look => exact .quieted rfl loop.worker.quiet_look fun kept => .inl (by simpa using kept)
  | tick =>
      by_cases due : loop.worker.isDue loop.now = true
      · rw [step, if_pos due]
        exact .begun due
      · rw [step, if_neg due]
        exact .quieted rfl loop.worker.quiet_rest fun kept => .inl (by simpa using kept)
  | rest => exact .quieted rfl loop.worker.quiet_rest fun kept => .inl (by simpa using kept)
  | reply reply =>
      cases current : loop.current with
      | none =>
          simp only [step, current]
          exact .nothing _ fun _ => current
      | some lap =>
          simp only [step, current, put]
          split
          · exact .finished current rfl ‹_›
          · exact .continued current rfl (eq_false_of_ne_true ‹_›)
  | disturb store => exact .disturbed store
  | cancel => exact .quieted rfl loop.worker.quiet_cancel fun _ => .inr rfl
  | join =>
      by_cases ready : loop.joined = none ∧ loop.worker.activity = .stopped
      · rw [step, if_pos ready]
        exact .joined ready.2
      · rw [step, if_neg ready]
        exact .nothing _ Bool.noConfusion

/-! ## Sound loops -/

/-- What holds after every history. -/
structure Sound (settings : Settings) (start : Nat) (history : List Move) (loop : Loop) :
    Prop where
  running : loop.current.isSome = true ↔ loop.worker.activity = .running
  cancelled : loop.worker.isCancelled = true → .cancel ∈ history
  /-- Only a cancellation stops a worker. -/
  stops : loop.worker.activity = .stopped → loop.worker.isCancelled = true
  period : loop.worker.ticker.period = Ticker.pace settings.interval
  due : start + Ticker.firstWait settings.interval +
    loop.laps.length * Ticker.pace settings.interval ≤ loop.worker.ticker.due
  begun : ∀ index lap, loop.laps[index]? = some lap →
    start + Ticker.firstWait settings.interval + index * Ticker.pace settings.interval ≤ lap.begun
  past : ∀ lap ∈ loop.past, lap.iteration.isEnded = true ∧ ∃ ended,
    lap.ended = some ended ∧ lap.begun ≤ ended ∧ ended ≤ loop.now
  turns : loop.past.Pairwise Lap.Precedes
  current : ∀ lap, loop.current = some lap → lap.begun ≤ loop.now ∧
    ∀ earlier ∈ loop.past, earlier.Precedes lap
  joined : ∀ moment, loop.joined = some moment → loop.worker.activity = .stopped ∧
    ∀ lap ∈ loop.past, ∃ ended, lap.ended = some ended ∧ ended ≤ moment

section Sound
variable {settings : Settings} {start : Nat} {history : List Move} {loop : Loop}

theorem laps_of_current {lap : Lap} (current : loop.current = some lap) :
    loop.laps = loop.past ++ [lap] := by
  rw [laps, current]
  rfl

theorem laps_of_no_current (current : loop.current = none) : loop.laps = loop.past := by
  rw [laps, current]
  exact List.append_nil _

theorem sound_start (settings : Settings) (start : Nat) (store : Store) :
    (Loop.start settings start store).Sound settings start [] where
  running := by
    constructor
    · intro impossible
      cases impossible
    · intro impossible
      cases impossible
  cancelled := by
    intro impossible
    cases impossible
  stops := by
    intro impossible
    cases impossible
  period := rfl
  due := by
    simp [Loop.start, Worker.start, Ticker.start, laps]
  begun := by
    intro index lap there
    cases there
  past := by
    intro lap member
    cases member
  turns := .nil
  current := by
    intro lap impossible
    cases impossible
  joined := by
    intro moment impossible
    cases impossible

/-- A worker that takes a tick is in no iteration. -/
theorem Sound.resting (sound : loop.Sound settings start history)
    (due : loop.worker.isDue loop.now = true) : loop.current = none := by
  rw [← Option.not_isSome_iff_eq_none, sound.running, (Worker.isDue_iff.mp due).1]
  exact Activity.noConfusion

/-- The tick of an iteration comes a period after the one before it. -/
theorem Sound.begin (sound : loop.Sound settings start history)
    (due : loop.worker.isDue loop.now = true) :
    Sound settings start (history ++ [.tick]) { loop with
      worker := loop.worker.begin loop.now, current := some { begun := loop.now } } := by
  obtain ⟨looking, ticked⟩ := Worker.isDue_iff.mp due
  have resting := sound.resting due
  have paced := sound.due
  have begun := sound.begun
  rw [laps_of_no_current resting] at paced begun
  have running := Worker.activity_begin due
  have ticker := Worker.ticker_begin due
  refine ⟨⟨fun _ => running, fun _ => rfl⟩, ?_, ?_, ?_, ?_, ?_, sound.past, sound.turns, ?_, ?_⟩
  · rw [Worker.isCancelled_begin]
    exact fun cancelled => List.mem_append_left _ (sound.cancelled cancelled)
  · rw [running]
    intro impossible
    cases impossible
  · rw [ticker, Ticker.period_take]
    exact sound.period
  · have later := loop.worker.ticker.add_period_le_following loop.now
    rw [sound.period] at later
    simp only [laps, Option.toList_some, List.length_append, List.length_singleton, Nat.succ_mul,
      ticker, Ticker.take]
    omega
  · intro index lap there
    simp only [laps, Option.toList_some, List.getElem?_append] at there
    split at there
    · exact begun index lap there
    · obtain ⟨last, rfl⟩ := List.getElem?_eq_some_iff.mp there
      obtain rfl : index = loop.past.length := by
        rw [List.length_singleton] at last
        omega
      simp only [Nat.sub_self, List.getElem_cons_zero]
      exact Nat.le_trans paced ticked
  · rintro lap ⟨⟩
    refine ⟨Nat.le_refl _, ?_⟩
    intro before member
    obtain ⟨_, ended, was, order, past⟩ := sound.past before member
    exact ⟨ended, was, order, past⟩
  · intro moment joined
    have stopped := (sound.joined moment joined).1
    rw [looking] at stopped
    cases stopped

theorem Sound.begun_of_current (sound : loop.Sound settings start history) {lap later other : Lap}
    (current : loop.current = some lap) (same : later.begun = lap.begun) {index : Nat}
    (there : (loop.past ++ [later])[index]? = some other) :
    start + Ticker.firstWait settings.interval + index * Ticker.pace settings.interval ≤
      other.begun := by
  have begun := sound.begun index
  rw [laps_of_current current] at begun
  rw [List.getElem?_append] at there
  split at there
  · rename_i earlier
    exact begun other (by rw [List.getElem?_append_left earlier, there])
  · rename_i last
    obtain ⟨position, rfl⟩ := List.getElem?_eq_some_iff.mp there
    have own : (loop.past ++ [lap])[index]? = some lap := by
      rw [List.length_singleton] at position
      rw [List.getElem?_append_right (Nat.le_of_not_lt last)]
      simp [Nat.lt_one_iff.mp position]
    simpa [same] using begun lap own

/-- A call that the iteration goes on after. -/
theorem Sound.continued (sound : loop.Sound settings start history) {lap later : Lap}
    (current : loop.current = some lap) (same : later.begun = lap.begun) (reply : Reply)
    (store : Store) :
    Sound settings start (history ++ [.reply reply])
      { loop with store, current := some later } := by
  have running : loop.worker.activity = .running := by
    rw [← sound.running, current]
    rfl
  have paced := sound.due
  rw [laps_of_current current] at paced
  refine ⟨⟨fun _ => running, fun _ => rfl⟩, ?_, sound.stops, sound.period, ?_, ?_, sound.past,
    sound.turns, ?_, sound.joined⟩
  · intro cancelled
    exact List.mem_append_left _ (sound.cancelled cancelled)
  · simpa [laps] using paced
  · intro index other there
    exact sound.begun_of_current current same there
  · rintro other ⟨⟩
    obtain ⟨begun, turns⟩ := sound.current lap current
    rw [same]
    exact ⟨begun, fun earlier member => (turns earlier member).congr same⟩

/-- The last call of an iteration. -/
theorem Sound.finished (sound : loop.Sound settings start history) {lap last : Lap}
    (current : loop.current = some lap) (same : last.begun = lap.begun)
    (complete : last.iteration.isEnded = true) (now : last.ended = some loop.now) (reply : Reply)
    (store : Store) :
    Sound settings start (history ++ [.reply reply]) { loop with
      store, worker := loop.worker.finish, past := loop.past ++ [last], current := none } := by
  have running : loop.worker.activity = .running := by
    rw [← sound.running, current]
    rfl
  have activity := Worker.activity_finish running
  obtain ⟨begun, turns⟩ := sound.current lap current
  have paced := sound.due
  rw [laps_of_current current] at paced
  refine ⟨?_, ?_, ?_, ?_, ?_, ?_, ?_, ?_, ?_, ?_⟩
  · rw [activity]
    simp
  · rw [Worker.isCancelled_finish]
    exact fun cancelled => List.mem_append_left _ (sound.cancelled cancelled)
  · rw [activity]
    intro impossible
    cases impossible
  · rw [Worker.ticker_finish]
    exact sound.period
  · rw [Worker.ticker_finish]
    simpa [laps] using paced
  · intro index other there
    rw [laps, Option.toList_none, List.append_nil] at there
    exact sound.begun_of_current current same there
  · intro other member
    rcases List.mem_append.mp member with earlier | own
    · exact sound.past other earlier
    · rw [List.mem_singleton] at own
      subst own
      exact ⟨complete, loop.now, now, same ▸ begun, Nat.le_refl _⟩
  · rw [List.pairwise_append]
    refine ⟨sound.turns, List.pairwise_singleton _ _, ?_⟩
    intro earlier member other own
    rw [List.mem_singleton] at own
    exact own ▸ (turns earlier member).congr same
  · intro other impossible
    cases impossible
  · intro moment joined
    have stopped := (sound.joined moment joined).1
    rw [running] at stopped
    cases stopped

/-- A worker that looks or rests, or is cancelled. -/
theorem Sound.quieted (sound : loop.Sound settings start history) {worker : Worker}
    (quiet : loop.worker.Quiet worker) {move : Move}
    (cancels : worker.isCancelled = true → loop.worker.isCancelled = true ∨ move = .cancel) :
    Sound settings start (history ++ [move]) { loop with worker } := by
  refine ⟨?_, ?_, ?_, ?_, ?_, sound.begun, sound.past, sound.turns, sound.current, ?_⟩
  · rw [sound.running]
    exact quiet.running.symm
  · intro cancelled
    rcases cancels cancelled with before | now
    · exact List.mem_append_left _ (sound.cancelled before)
    · exact List.mem_append_right _ (List.mem_singleton.mpr now.symm)
  · intro stopped
    rcases quiet.stops stopped with before | cancelled
    · exact quiet.cancelled (sound.stops before)
    · exact quiet.cancelled cancelled
  · rw [quiet.ticker]
    exact sound.period
  · rw [quiet.ticker]
    exact sound.due
  · intro moment joined
    obtain ⟨stopped, complete⟩ := sound.joined moment joined
    exact ⟨quiet.stays stopped, complete⟩

theorem Sound.step (sound : loop.Sound settings start history) (move : Move) :
    (loop.step settings.batchSize move).Sound settings start (history ++ [move]) := by
  have moved := loop.step_moved settings.batchSize move
  generalize loop.step settings.batchSize move = after at moved
  have earlier : loop.worker.isCancelled = true → .cancel ∈ history ++ [move] :=
    fun cancelled => List.mem_append_left _ (sound.cancelled cancelled)
  cases moved with
  | nothing => exact { sound with cancelled := earlier }
  | passed nanoseconds =>
      refine { sound with cancelled := earlier, past := ?_, current := ?_ }
      · intro lap member
        obtain ⟨complete, ended, was, order, past⟩ := sound.past lap member
        exact ⟨complete, ended, was, order, Nat.le_add_right_of_le past⟩
      · intro lap current
        obtain ⟨begun, turns⟩ := sound.current lap current
        exact ⟨Nat.le_add_right_of_le begun, turns⟩
  | begun due => exact sound.begin due
  | continued current exchanged under_way =>
      refine sound.continued current ?_ _ _
      rfl
  | finished current exchanged complete =>
      refine sound.finished current ?_ complete ?_ _ _
      · rfl
      · rfl
  | disturbed store => exact { sound with cancelled := earlier }
  | quieted _ quiet cancels => exact sound.quieted quiet cancels
  | joined stopped =>
      refine { sound with cancelled := earlier, joined := ?_ }
      rintro moment ⟨⟩
      refine ⟨stopped, ?_⟩
      intro lap member
      obtain ⟨_, ended, was, _, past⟩ := sound.past lap member
      exact ⟨ended, was, past⟩

theorem sound_run (settings : Settings) (start : Nat) (store : Store) (history : List Move) :
    (run settings start store history).Sound settings start history := by
  induction history using List.reverseRecOn with
  | nil => exact sound_start settings start store
  | append_singleton past move ih =>
      rw [run_concat]
      exact ih.step move

/-- Every iteration so far has ended when the next one begins. -/
theorem Sound.pairwise_laps (sound : loop.Sound settings start history) :
    loop.laps.Pairwise Lap.Precedes := by
  rw [laps, List.pairwise_append]
  refine ⟨sound.turns, ?_, ?_⟩
  · cases loop.current with
    | none => exact .nil
    | some lap => exact List.pairwise_singleton _ _
  · intro earlier member lap current
    exact (sound.current lap (Option.mem_toList.mp current)).2 earlier member

end Sound

end Loop

end Outbox.Publisher
