import Outbox.Proofs.Publisher.Timeouts
import Outbox.Proofs.Simulation.Rounds

/-!
# Runs that wait

In a world in which nobody else is at work and whose calls to the store do not fail, an iteration
that is run for its result is a timed one: on the script of the world, under the limit of its
settings.  So what holds of timed iterations holds of such runs, and the limit keeps a publication
that takes too long, or forever, from holding up the others.
-/

set_option autoImplicit false

namespace Outbox.Simulation

open Publisher (Action Contained Iteration Pace Phase Report Response Timed contained)
open Time (Instant Span)

def Sent.letter (sent : Sent) : String × Bytes :=
  (sent.topic, sent.event)

namespace World

/-- What was sent to scripted buses, in this order. -/
def letters (world : World) : List (String × Bytes) :=
  world.sent.reverse.map Sent.letter

/-- The surroundings of an iteration in a world whose clock stands still. -/
def pace (world : World) (settings : Publisher.Settings) : Pace Script where
  batchSize := settings.batchSize
  limit := settings.publishTimeout
  respond := Script.respond
  clock := fun _ => world.clock

/-- No call to the store fails, and nobody is at work in the background. -/
def Lone (world : World) : Prop :=
  world.faults = [] ∧ world.processes = [] ∧ world.runs = [] ∧ world.handlerCalls = [] ∧
    world.ready = [] ∧ world.yielding = []

/-- A world in which a timed iteration has come so far, beside the world in which it was begun. -/
structure Shows (origin world : World) (timed : Timed Script) : Prop where
  lone : world.Lone
  clock : world.clock = origin.clock
  current : world.current = origin.current
  scripted : world.channels[origin.current]? = some (.scripted timed.bus)
  main : world.main = timed.store
  home : timed.store.id = mainStore
  now : world.now = origin.now + timed.moment
  letters : world.letters = origin.letters ++ timed.sent

variable {origin world : World} {timed : Timed Script}

/-- The counters of a world and the steps that are left in it make no difference. -/
theorem Shows.busy (shows : Shows origin world timed) (sink : Sink) (steps : Nat) :
    Shows origin { world with sink, steps } timed :=
  ⟨shows.lone, shows.clock, shows.current, shows.scripted, shows.main, shows.home, shows.now,
    shows.letters⟩

theorem Shows.trace (shows : Shows origin world timed) (call : Call) :
    ∃ after, world.trace call = (none, after) ∧ Shows origin after timed :=
  ⟨_, trace_of_faultless shows.lone.1 call, ⟨rfl, shows.lone.2⟩, shows.clock, shows.current,
    shows.scripted, shows.main, shows.home, shows.now, shows.letters⟩

theorem Shows.afterCall (shows : Shows origin world timed) (settings : Publisher.Settings) :
    Shows origin
      (world.putStore (timed.iteration.perform settings.batchSize world.clock none world.main).2)
      (timed.afterCall (origin.pace settings)) := by
  rw [shows.clock, shows.main]
  have home : (timed.iteration.perform settings.batchSize origin.clock none timed.store).2.id =
      mainStore := (timed.iteration.id_perform _ _ _ _).trans shows.home
  exact ⟨shows.lone, shows.clock, shows.current, shows.scripted, world.main_putStore home, home,
    shows.now, shows.letters⟩

theorem Shows.afterAnswer (shows : Shows origin world timed) (delay : Nat)
    (result : Except Error Unit) :
    Shows origin { world with now := world.now + delay } (timed.afterAnswer delay result) where
  lone := shows.lone
  clock := shows.clock
  current := shows.current
  scripted := shows.scripted
  main := shows.main
  home := shows.home
  now := by
    have now := shows.now
    simp only [Timed.afterAnswer]
    omega
  letters := shows.letters

theorem Shows.send (shows : Shows origin world timed) (settings : Publisher.Settings)
    (topic : String) (event : Bytes) :
    ∃ after, world.send origin.current topic event =
        ((timed.bus.respond topic event).1, after) ∧
      Shows origin after (timed.afterSending (origin.pace settings) topic event) := by
  have sent : world.send origin.current topic event = ((timed.bus.respond topic event).1,
      { world with sent := ⟨world.now, topic, event⟩ :: world.sent }.putChannel origin.current
        (.scripted (timed.bus.respond topic event).2)) := by
    simp only [World.send, shows.scripted]
  have here : origin.current < world.channels.length :=
    (List.getElem?_eq_some_iff.mp shows.scripted).1
  refine ⟨_, sent, shows.lone, shows.clock, shows.current, ?_, shows.main, shows.home, shows.now,
    ?_⟩
  · rw [putChannel, List.getElem?_set_self here]
    rfl
  · have earlier := shows.letters
    simp only [World.letters] at earlier
    simp [World.letters, putChannel, Timed.afterSending, earlier, Sent.letter]

/-! ## Time passes -/

theorem wakeMany_of_unready (count : Nat) (unready : world.ready = []) :
    wakeMany count world = world := by
  induction count with
  | zero => rfl
  | succ count ih => rw [wakeMany, wakeFirst, unready, ih]

theorem playRounds_of_unready (rounds : Nat) (unready : world.ready = []) :
    playRounds rounds world = world := by
  cases rounds with
  | zero => rfl
  | succ rounds => simp [playRounds, unready]

theorem settle_of_unready (unready : world.ready = []) : world.settle = world := by
  rw [settle, playRounds_of_unready _ unready, playRounds_of_unready _ unready]

theorem Lone.now_later (lone : world.Lone) (delay : Nat) :
    (if world.now + delay ≤ world.now then world.playRound
      else world.waitUntil (world.now + delay)) = { world with now := world.now + delay } := by
  obtain ⟨_, processes, runs, handlerCalls, ready, yielding⟩ := lone
  have silent : world.alarms = [] := by
    simp [alarms, processes, runs, handlerCalls]
  by_cases instant : world.now + delay ≤ world.now
  · have at_once : delay = 0 := by omega
    rw [if_pos instant, playRound, wakeMany_of_unready _ ready, callBack, at_once]
    simp [ready, yielding]
  · rw [if_neg instant, World.waitUntil, if_neg instant]
    have nothing (moments : Nat) : passBefore (world.now + delay) moments world = world := by
      cases moments with
      | zero => rfl
      | succ moments => simp [passBefore, settle_of_unready ready, nextMoment?, silent, earliest]
    rw [nothing, passTo, silent]
    simp

/-! ## One publication -/

theorem spendOn?_eq {spent : World} {response : Response}
    (spends : world.spendOn? response = some spent) : ∃ steps, spent = { world with steps } := by
  unfold spendOn? at spends
  split at spends
  · exact ⟨world.steps, (Option.some.inj spends).symm⟩
  · split at spends
    · cases spends
    · exact ⟨_, (Option.some.inj spends).symm⟩

end World

open World (Shows)

section Steps
variable {settings : Publisher.Settings} {world after : World}

/-- An iteration goes on from a publication that has its result at once, if a step is left for it,
and waits for any other. -/
theorem proceed_publish_cases {channel : Nat} {iteration : Iteration} {topic : String}
    {event : Bytes} (publishes : iteration.action settings.batchSize = .publish topic event)
    {response : Response} (sends : world.send channel topic event = (response, after)) :
    (∃ result steps, response.within settings.publishTimeout = some (0, result) ∧
      World.proceed settings channel world iteration =
        World.proceed settings channel
          ({ after with steps : World }.count (iteration.answer result).2)
          (iteration.answer result).1) ∨
    World.proceed settings channel world iteration =
      (.waiting ⟨iteration, (response.within settings.publishTimeout).map fun ending =>
        (after.now + ending.1, ending.2)⟩, after) := by
  rw [World.proceed]
  split
  · simp_all
  · simp_all
  · rename_i publishes'
    obtain ⟨rfl, rfl⟩ := Action.publish.inj (publishes.symm.trans publishes')
    simp only [sends]
    split
    · rename_i within spends
      obtain ⟨steps, rfl⟩ := World.spendOn?_eq spends
      exact Or.inl ⟨_, steps, within, rfl⟩
    · exact Or.inr rfl

/-! ## Where an iteration stops to wait -/

/-- An iteration of a world, which comes to its end as a timed one, has ended, or waits forever, or
waits for the end of a publication that is not among the first `count` of them. -/
inductive Stopped (settings : Publisher.Settings) (origin : World) (count : Nat)
    (finished : Timed Script) : Progress × World → Prop where
  | ended {world : World} {result : Except Error Report}
      (completed : finished.iteration = .ended result) (shows : Shows origin world finished) :
      Stopped settings origin count finished (.ended result, world)
  | stuck {world : World} {topic : String} {event : Bytes}
      (publishes : finished.iteration.action settings.batchSize = .publish topic event)
      (shows : Shows origin world finished) :
      Stopped settings origin count finished (.waiting ⟨finished.iteration, none⟩, world)
  | waits {world : World} {timed : Timed Script} {delay : Nat} {result : Except Error Unit}
      (shows : Shows origin world timed)
      (later : finished = (timed.afterAnswer delay result).finish (origin.pace settings))
      (phase : Phase origin.main settings.batchSize (timed.iteration.answer result).1 timed.store
        timed.sent)
      (rows : timed.store.rows = origin.main.rows) (more : count < timed.sent.length) :
      Stopped settings origin count finished
        (.waiting ⟨timed.iteration, some (world.now + delay, result)⟩, world)

/-- An iteration of a world goes on as the timed one does. -/
theorem proceed_stopped (settings : Publisher.Settings) {origin world : World}
    {timed : Timed Script} (shows : Shows origin world timed)
    (phase : Phase origin.main settings.batchSize timed.iteration timed.store timed.sent)
    {count : Nat} (counted : count ≤ timed.sent.length) :
    Stopped settings origin count (timed.finish (origin.pace settings))
      (World.proceed settings origin.current world timed.iteration) := by
  cases action : timed.iteration.action settings.batchSize with
  | stop result =>
      rw [proceed_stop action, Timed.finish_stop action]
      exact .ended (Iteration.ended_of_stop action) shows
  | call call =>
      obtain ⟨after, traced, after_shows⟩ := shows.trace call
      have next := proceed_stopped settings (after_shows.afterCall settings)
        (phase.called action _) counted
      rw [proceed_call action traced, Timed.finish_call action]
      rw [after_shows.clock, after_shows.main] at next ⊢
      exact next
  | publish topic event =>
      obtain ⟨after, sends, after_shows⟩ := shows.send settings topic event
      have sent : (timed.afterSending (origin.pace settings) topic event).sent.length =
          timed.sent.length + 1 := by
        simp [Timed.afterSending]
      rcases proceed_publish_cases action sends with ⟨result, steps, within, next⟩ | next
      · rw [next, Timed.finish_publish action within]
        apply proceed_stopped settings ((after_shows.afterAnswer 0 result).busy _ _)
          (phase.answered action result)
        change count ≤ (timed.afterSending (origin.pace settings) topic event).sent.length
        omega
      · rw [next]
        cases within : ((timed.bus.respond topic event).1).within settings.publishTimeout with
        | none =>
            rw [Timed.finish_wait action within]
            exact .stuck action after_shows
        | some ending =>
            obtain ⟨delay, result⟩ := ending
            rw [Timed.finish_publish action within]
            exact @Stopped.waits _ _ _ _ after
              (timed.afterSending (origin.pace settings) topic event) delay result after_shows rfl
              (phase.answered action result) (phase.rows action) (by omega)
termination_by timed.iteration.rank
decreasing_by
  · exact Iteration.perform_nearer action _ none timed.store
  · exact Iteration.answer_nearer action result

end Steps

/-! ## The whole run -/

/-- The outcome of a run is that of a timed iteration: the same result, if there is one, the same
store, and the same publications. -/
structure Paced (origin : World) (finished : Timed Script)
    (outcome : Option (Except Error Report) × World) : Prop where
  result : outcome.1 = finished.iteration.result?
  shows : Shows origin outcome.2 finished

theorem await_stopped {settings : Publisher.Settings} {origin world : World}
    {finished : Timed Script} {progress : Progress} {count waits : Nat}
    (stopped : Stopped settings origin count finished (progress, world))
    (enough : (origin.main.begin.2.batch origin.main.begin.1 settings.batchSize).length ≤
      waits + count) :
    Paced origin finished (World.awaitIteration settings waits progress world) := by
  induction waits generalizing count progress world with
  | zero =>
      cases stopped with
      | ended completed shows => exact ⟨by rw [completed]; rfl, shows⟩
      | stuck publishes shows => exact ⟨(Iteration.result?_of_publish publishes).symm, shows⟩
      | waits shows later phase rows more =>
          have bound := phase.length_sent
          omega
  | succ waits ih =>
      cases stopped with
      | ended completed shows => exact ⟨by rw [completed]; rfl, shows⟩
      | stuck publishes shows => exact ⟨(Iteration.result?_of_publish publishes).symm, shows⟩
      | @waits _ timed delay result shows later phase rows more =>
          have answered : Shows origin ({ world with now := world.now + delay }.refresh.spend.count
              (timed.iteration.answer result).2) (timed.afterAnswer delay result) :=
            (shows.afterAnswer delay result).busy _ _
          have next : Stopped settings origin timed.sent.length finished
              (World.proceed settings origin.current
                ({ world with now := world.now + delay }.refresh.spend.count
                  (timed.iteration.answer result).2) (timed.iteration.answer result).1) := by
            rw [later]
            exact proceed_stopped settings answered phase (Nat.le_refl _)
          have resumed : World.resume settings world.current
              { world with now := world.now + delay }.refresh
              ⟨timed.iteration, some (world.now + delay, result)⟩ =
              World.proceed settings origin.current
                ({ world with now := world.now + delay }.refresh.spend.count
                  (timed.iteration.answer result).2) (timed.iteration.answer result).1 := by
            simp [World.resume, World.refresh, shows.current]
          rw [World.awaitIteration]
          simp only [shows.lone.now_later, resumed]
          exact ih next (by omega)

/-- A run in a lone world on a script is the timed iteration. -/
theorem runOnce_paced (settings : Publisher.Settings) {world : World} {script : Script}
    (lone : world.Lone) (home : world.main.id = World.mainStore)
    (scripted : world.channels[world.current]? = some (.scripted script)) :
    Paced world ((world.pace settings).run world.main script) (world.runOnce settings) := by
  have shows : Shows world world.refresh
      { iteration := .starting, store := world.main, bus := script } :=
    ⟨lone, rfl, rfl, scripted, rfl, home, rfl, (List.append_nil _).symm⟩
  have stopped := proceed_stopped settings shows .starting (Nat.zero_le _)
  change Stopped settings world 0 ((world.pace settings).run world.main script)
    (World.proceed settings world.current world.refresh .starting) at stopped
  rw [World.runOnce]
  cases proceeded : World.proceed settings world.current world.refresh .starting with
  | mk progress after =>
      rw [proceeded] at stopped
      simp only
      cases stopped with
      | ended completed shows => exact ⟨by rw [completed]; rfl, shows⟩
      | stuck publishes shows => exact ⟨(Iteration.result?_of_publish publishes).symm, shows⟩
      | @waits _ timed delay result shows later phase rows more =>
          apply await_stopped (.waits shows later phase rows more)
          have bound := world.main.length_batch_le settings.batchSize
          have size : after.main.size = world.main.size := by
            rw [Store.size, shows.main, rows]
            rfl
          omega

/-! ## Scripts under a limit -/

/-- No response of a script comes together with the end of a limit. -/
structure Script.Apart (limit : Span) (script : Script) : Prop where
  usual : Time.pauseOf script.delay * 1000000 ≠ limit.nanoseconds
  rules : ∀ rule ∈ script.rules,
    Time.pauseOf (rule.delay.getD script.delay) * 1000000 ≠ limit.nanoseconds

theorem Script.Apart.respond {limit : Span} {script : Script} (apart : script.Apart limit)
    (topic : String) (event : Bytes) :
    (script.respond topic event).1.Apart limit ∧ (script.respond topic event).2.Apart limit := by
  rcases Script.choose_cases topic event script.rules with
    unchosen | ⟨before, rule, after, split, chosen⟩
  · rw [Script.respond, unchosen]
    refine ⟨?_, apart⟩
    rintro delay result same
    cases same
    exact apart.usual
  · have others := apart.rules
    rw [Script.respond, chosen]
    simp only [split, List.mem_append, List.mem_cons] at others
    refine ⟨?_, apart.usual, ?_⟩
    · intro delay result same
      have own := others rule (Or.inr (Or.inl rfl))
      cases ending : rule.ending with
      | accept =>
          simp only [Rule.response, ending, Response.after.injEq] at same
          rwa [← same.1]
      | refuse error =>
          simp only [Rule.response, ending, Response.after.injEq] at same
          rwa [← same.1]
      | hang => simp [Rule.response, ending] at same
    · intro other member
      simp only [List.mem_append, List.mem_cons] at member
      rcases member with earlier | rfl | later
      · exact others other (Or.inl earlier)
      · exact others rule (Or.inr (Or.inl rfl))
      · exact others other (Or.inr (Or.inr later))

theorem Script.Apart.reaches {limit : Span} {script later : Script} (apart : script.Apart limit)
    {world : World} {settings : Publisher.Settings}
    (reached : (world.pace settings).Reaches script later) : later.Apart limit := by
  induction reached with
  | start => exact apart
  | sent _ topic event ih => exact (ih.respond topic event).2

/-- With a limit on the time of a publication every iteration comes to its end, has sent its whole
batch, and leaves behind what it would leave without a limit on a bus that hurries, up to the
moments at which rows were processed.  The runs of a world in which nobody else is at work are such
iterations. -/
theorem timeouts_contain_slow_calls :
    (∀ (Bus : Type) (pace : Pace Bus) (limit : Span) (bus : Bus), pace.limit = some limit →
      1000000 ∣ limit.nanoseconds →
      (∀ later, pace.Reaches bus later →
        ∀ topic event, (pace.respond later topic event).1.Apart limit) →
      ∀ (clock : Nat → Instant) (store : Store),
        Contained store pace.batchSize (pace.run store bus)
          ((pace.hurried limit clock).run store bus)) ∧
    ∀ (settings : Publisher.Settings) (world : World) (script : Script), world.Lone →
      world.main.id = World.mainStore →
      world.channels[world.current]? = some (.scripted script) →
      Paced world ((world.pace settings).run world.main script) (world.runOnce settings) := by
  constructor
  · intro Bus pace limit bus limited whole apart clock store
    exact contained limited whole apart clock store
  · intro settings world script lone home scripted
    exact runOnce_paced settings lone home scripted

/-- A world with two rows and a bus that never responds to the first publication. -/
def stuckWorld : World where
  clock := .epoch
  stores := Stores.empty.put { id := 0, rows := [.fruitNumbered 1, .fruitNumbered 2] }
  channels := [.scripted { rules := [{ uses := some 1, ending := .hang }] }]
  sink := .discard

def hastySettings : Publisher.Settings where
  publishTimeout := some (.ofMilliseconds 20)

theorem stuckWorld_sends_both :
    stuckWorld.Lone ∧ 1000000 ∣ (Span.ofMilliseconds 20).nanoseconds ∧
    (∃ report, (stuckWorld.runOnce hastySettings).1 = some (.ok report)) ∧
    (stuckWorld.runOnce hastySettings).2.letters =
      [(Message.fruitNumbered 1).letter, (Message.fruitNumbered 2).letter] := by
  have lone : stuckWorld.Lone := ⟨rfl, rfl, rfl, rfl, rfl, rfl⟩
  have whole : 1000000 ∣ (Span.ofMilliseconds 20).nanoseconds := ⟨20, rfl⟩
  have apart : Script.Apart (.ofMilliseconds 20)
      { rules := [{ uses := some 1, ending := .hang }] } := by
    constructor
    · decide
    · simp only [List.mem_singleton, forall_eq]
      decide
  have paced := timeouts_contain_slow_calls.2 hastySettings stuckWorld _ lone rfl rfl
  have kept := timeouts_contain_slow_calls.1 Script (stuckWorld.pace hastySettings)
    (.ofMilliseconds 20) { rules := [{ uses := some 1, ending := .hang }] } rfl whole
    (fun later reached topic event => ((apart.reaches reached).respond topic event).1)
    (fun _ => .epoch) stuckWorld.main
  obtain ⟨report, ended, _⟩ := kept.reported
  refine ⟨lone, whole, ⟨report, ?_⟩, ?_⟩
  · rw [paced.result, ended]
    rfl
  · rw [paced.shows.letters, kept.sent]
    rfl

end Outbox.Simulation
