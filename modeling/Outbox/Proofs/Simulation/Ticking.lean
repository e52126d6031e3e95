import Outbox.Proofs.Publisher.Batches
import Outbox.Proofs.Simulation.Audited
import Outbox.Proofs.Simulation.Shutdown

/-!
# A worker beside an audit

In a world with one worker and an audit subscriber, which nothing disturbs, every tick publishes the
next batch of the pending rows, and at the same moment the subscriber keeps an entry of each of
them.  So when time passes on nobody has anything left to do, and after some ticks the rows of as
many batches have been published and kept.
-/

set_option autoImplicit false

namespace Outbox.Simulation

open Publisher (Round Solo Ticker)

/-! ## One moment -/

section Moment
variable {world after : World}

/-- A moment is over when everybody who was ready has gone on and nobody else is ready. -/
theorem settle_of_round (awake : world.ready ≠ [])
    (round : World.wakeMany tasksPerRound world = after) (unready : after.ready = [])
    (patient : after.yielding = []) : world.settle = after := by
  have played : world.playRound = after := by
    rw [World.playRound, round, World.callBack, unready, patient]
    cases after
    simp_all
  obtain ⟨count, length⟩ : ∃ count, world.ready.length = count + 1 :=
    Nat.exists_eq_succ_of_ne_zero (by simpa using awake)
  have some_ready : world.ready.isEmpty = false := by simpa using awake
  rw [World.settle, length, World.playRounds, some_ready, played, if_neg Bool.false_ne_true,
    World.playRounds_of_unready _ unready, World.playRounds_of_unready _ unready]

end Moment

/-! ## Who is heard -/

/-- What reaches the subscriber. -/
def heard {α : Type} (backend : Config.Backend) (sent : List α) : List α :=
  match backend with
  | .memory => sent
  | .noop => []

section Subscriber
variable {backend : Config.Backend} {topic : String} {history : List (String × Bytes)}
variable {world : World} {events : List Event}

/-- The subscriber was all that was ready, and has handled what waited for it. -/
theorem wakeMany_subscriber (count : Nat)
    (attended : world.Attended (station .memory topic history (events.map Event.encode)))
    (ready : world.ready = [.subscriber 0 0])
    (distinct : (world.log.saved.map Audit.Entry.id ++ events.map Event.id).Nodup)
    (few : events.length < stepsPerTurn) :
    World.wakeMany (count + 1) world =
      ({ world with ready := [] }.refresh.recorded events).onBus
        (station .memory topic history []) := by
  have woken : world.wakeFirst =
      ({ world with ready := [] }.refresh.recorded events).onBus
        (station .memory topic history []) := by
    rw [World.wakeFirst, ready]
    exact wakeSubscriber_new attended.channels attended.unsavable attended.handlerCalls distinct few
  rw [World.wakeMany, woken]
  exact World.wakeMany_of_unready count rfl

/-- What waits for the subscriber is handled, if there is a subscriber. -/
theorem wakeMany_summoned (count : Nat)
    (attended : world.Attended (station backend topic history (events.map Event.encode)))
    (ready : world.ready = summons backend (events.map Event.encode))
    (distinct : (world.log.saved.map Audit.Entry.id ++ events.map Event.id).Nodup)
    (few : events.length < stepsPerTurn) :
    ∃ steps, World.wakeMany (count + 1) world =
      { (world.recorded (heard backend events)).onBus (station backend topic history []) with
        ready := [], steps } := by
  have unsummoned (unready : world.ready = [])
      (same : station backend topic history (events.map Event.encode) =
        station backend topic history []) (unheard : heard backend events = []) :
      World.wakeMany (count + 1) world =
        { (world.recorded (heard backend events)).onBus (station backend topic history []) with
          ready := [], steps := world.steps } := by
    rw [World.wakeMany_of_unready _ unready, unheard, World.recorded_nil, ← same,
      onBus_same attended.channels, ← unready]
  cases backend with
  | noop => exact ⟨_, unsummoned ready rfl rfl⟩
  | memory =>
      cases events with
      | nil => exact ⟨_, unsummoned ready rfl rfl⟩
      | cons event rest =>
          exact ⟨stepsPerTurn, wakeMany_subscriber count attended ready distinct few⟩

end Subscriber

/-! ## A tick -/

/-- A worker that waits for its next tick. -/
structure Process.Waits (process : Process) (settings : Publisher.Settings) (ticker : Ticker) :
    Prop where
  settings : process.settings = settings
  channel : process.channel = 0
  ticker : process.worker.ticker = ticker
  idle : process.worker.activity = .idle
  uncancelled : process.worker.isCancelled = false

/-- Nobody has anything left to do until the worker's next tick. -/
structure World.Resting (world : World) (backend : Config.Backend) (topic : String)
    (settings : Publisher.Settings) (ticker : Ticker) : Prop where
  attended : ∃ history, world.Attended (station backend topic history [])
  waits : ∃ process, world.processes = [process] ∧ process.Waits settings ticker
  ready : world.ready = []
  yielding : world.yielding = []

/-- A batch was published and kept. -/
structure Ticked (backend : Config.Backend) (world after : World) (batch : List Message) :
    Prop where
  log : after.log.saved = world.log.saved ++
    (heard backend batch).map (Audit.Entry.ofEvent ∘ Event.ofMessage)
  sink : after.sink = (world.sink.recordAll (List.replicate batch.length .published)).recordAll
    (List.replicate (heard backend batch).length .recorded)
  now : after.now = world.now
  clock : after.clock = world.clock

section Tick
variable {backend : Config.Backend} {topic : String} {settings : Publisher.Settings}
variable {ticker : Ticker} {world : World}

theorem beginIterations_due {index ticks : Nat} {process : Process}
    {result : Except Error Publisher.Report} {after : World} (steps : world.steps ≠ 0)
    (due : process.worker.look.isDue (world.now * nanosecondsPerMoment) = true)
    (proceeded : World.proceed process.settings process.channel world.spend .starting =
      (.ended result, after)) :
    World.beginIterations index (ticks + 1) process world =
      World.beginIterations index ticks
        { process with
          worker := (process.worker.look.begin (world.now * nanosecondsPerMoment)).finish
          publication := none }
        (after.count (Publisher.Worker.increments result)) := by
  rw [World.beginIterations]
  simp [steps, due, proceeded]

theorem beginIterations_early {index ticks : Nat} {process : Process}
    (early : process.worker.look.isDue (world.now * nanosecondsPerMoment) = false) :
    World.beginIterations index (ticks + 1) process world =
      world.putProcess index { process with worker := process.worker.look.rest } := by
  rw [World.beginIterations]
  simp [early]

/-- Where a process stands in the list makes no difference to what it has posted. -/
theorem Posted.putProcess {history : List (String × Bytes)} {queue : List Bytes} {after : World}
    {letters : List (String × Bytes)}
    (posted : Posted backend topic history queue world after letters)
    (processes : List Process) (turns : Nat) :
    Posted backend topic history queue { world with processes } { after with processes, turns }
      letters where
  attended := { posted.attended with }
  ready := posted.ready
  yielding := posted.yielding
  sink := posted.sink
  now := posted.now
  clock := posted.clock
  processes := rfl
  log := posted.log
  steps := posted.steps

/-- The ticker after the tick that is due. -/
def nextTick (ticker : Ticker) : Ticker :=
  { ticker with due := ticker.due + ticker.period }

/-- A worker that waits and is not cancelled looks for a tick. -/
theorem look_waiting {worker : Publisher.Worker} (idle : worker.activity = .idle)
    (uncancelled : worker.isCancelled = false) :
    worker.look = { worker with activity := .looking } := by
  simp [Publisher.Worker.look, idle, uncancelled]

theorem rest_look {worker : Publisher.Worker} (idle : worker.activity = .idle)
    (uncancelled : worker.isCancelled = false) : worker.look.rest = worker := by
  rw [look_waiting idle uncancelled]
  rcases worker with ⟨ticker, activity, isCancelled⟩
  obtain rfl : activity = .idle := idle
  rfl

theorem begin_finish {worker : Publisher.Worker} (idle : worker.activity = .idle)
    (uncancelled : worker.isCancelled = false) :
    (worker.look.begin worker.ticker.due).finish =
      { worker with ticker := nextTick worker.ticker } := by
  have due : worker.look.isDue worker.ticker.due = true := by
    simp [Publisher.Worker.isDue, look_waiting idle uncancelled]
  have taken : worker.ticker.take worker.ticker.due = nextTick worker.ticker := by
    simp [Ticker.take, Ticker.following, nextTick]
  rw [Publisher.Worker.begin, if_pos due, look_waiting idle uncancelled, taken]
  simp [Publisher.Worker.finish, idle]

/-- The round that an undisturbed worker makes. -/
def World.round (world : World) (settings : Publisher.Settings) : Solo :=
  Round.run ⟨settings.batchSize, world.clock, fun _ => .ok ()⟩ world.main

theorem World.round_completed (settings : Publisher.Settings) (orderly : world.main.Orderly) :
    Publisher.Completed ⟨settings.batchSize, world.clock, fun _ => .ok ()⟩ world.main
      (world.round settings) :=
  Round.run_completed _ orderly

/-- A process whose tick is due makes a round and waits for its next tick. -/
theorem wakeProcess_tick {history : List (String × Bytes)} {process : Process}
    (attended : world.Attended (station backend topic history [])) (ready : world.ready = [])
    (yielding : world.yielding = []) (processes : world.processes = [process])
    (waits : process.Waits settings ticker)
    (due : ticker.due = world.now * nanosecondsPerMoment) (steps : world.steps = stepsPerTurn)
    (orderly : world.main.Orderly) :
    ∃ after other, world.wakeProcess 0 = after ∧ other.Waits settings (nextTick ticker) ∧
      after.main = (world.round settings).store ∧
      Posted backend topic history [] { world.spend with processes := [other] } after
        (world.round settings).sent := by
  have finished : Finished backend topic history [] world.spend []
      (World.proceed settings 0 world.spend .starting) (world.round settings) :=
    proceed_attended settings world.spend (Solo.start world.main) { attended with }
      (by cases backend <;> exact ready) yielding rfl rfl
  cases outcome : World.proceed settings 0 world.spend .starting with
  | mk progress next =>
      rw [outcome] at finished
      obtain ⟨⟨result, rfl, own⟩, main, letters, sent, posted⟩ := finished
      have succeeded : Publisher.Worker.increments result = [] := by
        have done := (World.round_completed settings orderly).ended_of_healthy fun _ => rfl
        cases own.symm.trans done
        rfl
      have now : process.worker.ticker.due = world.now * nanosecondsPerMoment := by
        rw [waits.ticker, due]
      have first : process.worker.look.isDue (world.now * nanosecondsPerMoment) = true := by
        simp [Publisher.Worker.isDue, look_waiting waits.idle waits.uncancelled, now]
      have left : world.steps ≠ 0 := by simp [steps, stepsPerTurn]
      let worker := { process.worker with ticker := nextTick process.worker.ticker }
      let other : Process := { process with worker, publication := none, turn := next.turns }
      -- The loop looks once more for a tick that is late, and the next one is still to come.
      have looks : worker.look = { worker with activity := .looking } :=
        look_waiting waits.idle waits.uncancelled
      have second : worker.look.isDue (next.now * nanosecondsPerMoment) = false := by
        have positive := ticker.period_pos
        have moment : next.now = world.now := posted.now
        have later : ¬(nextTick ticker).due ≤ next.now * nanosecondsPerMoment := by
          rw [moment, ← due]
          change ¬ticker.due + ticker.period ≤ ticker.due
          omega
        rw [looks]
        simp [worker, Publisher.Worker.isDue, waits.ticker, later]
      have rests : worker.look.rest = worker := rest_look waits.idle waits.uncancelled
      have patient : next.steps ≠ 0 := by
        rw [posted.steps]
        simp [World.spend, steps, stepsPerTurn]
      refine ⟨{ next with processes := [other], turns := next.turns + 1 }, other, ?_, ?_, main, ?_⟩
      · rw [World.wakeProcess, processes]
        dsimp only [List.getElem?_cons_zero]
        rw [waits.idle]
        dsimp only
        rw [lateTicks, beginIterations_due left first
          (by rw [waits.settings, waits.channel]; exact outcome), succeeded, ← now,
          begin_finish waits.idle waits.uncancelled]
        have late :=
          @beginIterations_early next 0 4 { process with worker, publication := none } second
        have same : next.count [] = next := rfl
        rw [same, late, World.putProcess, posted.processes]
        dsimp only
        rw [rests]
        simp [World.giveWay, patient, World.spend, processes, other]
      · exact ⟨waits.settings, waits.channel, by rw [← waits.ticker], waits.idle, waits.uncancelled⟩
      · rw [sent]
        exact posted.putProcess [other] (next.turns + 1)

theorem heard_map {α β : Type} (f : α → β) (sent : List α) :
    heard backend (sent.map f) = (heard backend sent).map f := by
  cases backend <;> rfl

/-- The events of rows of the topic. -/
theorem eventsTo_letters {rows : List Message} (addressed : ∀ row ∈ rows, row.topic = topic) :
    eventsTo topic (rows.map fun row => (row.topic, (Event.ofMessage row).encode)) =
      (rows.map Event.ofMessage).map Event.encode := by
  rw [eventsTo, List.filter_eq_self.mpr]
  · simp
  · intro letter member
    obtain ⟨row, there, rfl⟩ := List.mem_map.mp member
    simpa using addressed row there

/-- After the first task only the subscriber has something left to do. -/
theorem settle_summoned {history : List (String × Bytes)} {events : List Event} {next : World}
    (awake : world.ready ≠ []) (first : world.wakeFirst = next)
    (attended : next.Attended (station backend topic history (events.map Event.encode)))
    (ready : next.ready = summons backend (events.map Event.encode)) (yielding : next.yielding = [])
    (new : (next.log.saved.map Audit.Entry.id ++ events.map Event.id).Nodup)
    (few : events.length < stepsPerTurn) :
    ∃ steps, world.settle =
      { (next.recorded (heard backend events)).onBus (station backend topic history []) with
        ready := [], steps } := by
  obtain ⟨steps, served⟩ := wakeMany_summoned 59 attended ready new few
  refine ⟨steps, settle_of_round awake ?_ rfl yielding⟩
  rw [tasksPerRound, World.wakeMany, first, served]

/-- At a tick a batch is published and kept, and then nobody has anything left to do. -/
theorem settle_tick {batch : List Message}
    (attended : ∃ history, world.Attended (station backend topic history []))
    (waits : ∃ process, world.processes = [process] ∧ process.Waits settings ticker)
    (ready : world.ready = [.process 0]) (yielding : world.yielding = [])
    (due : ticker.due = world.now * nanosecondsPerMoment) (orderly : world.main.Orderly)
    (claimed : (world.round settings).journal.batch = batch)
    (addressed : ∀ row ∈ batch, row.topic = topic)
    (new : (world.log.saved.map Audit.Entry.id ++ batch.map Message.id).Nodup)
    (few : batch.length < stepsPerTurn) :
    world.settle.Resting backend topic settings (nextTick ticker) ∧
      Ticked backend world world.settle batch ∧
      world.settle.main = (world.round settings).store := by
  obtain ⟨history, attended⟩ := attended
  obtain ⟨process, processes, waits⟩ := waits
  let woken := { world with ready := [] }.refresh
  have now : woken.now = world.now := rfl
  have same : woken.round settings = world.round settings := rfl
  rw [← now] at due
  have here : woken.Attended (station backend topic history []) := { attended with }
  obtain ⟨next, other, wakes, other_waits, main, posted⟩ :=
    wakeProcess_tick here rfl yielding processes waits due rfl orderly
  have first : world.wakeFirst = next := by
    rw [World.wakeFirst, ready]
    exact wakes
  have sent := (world.round_completed settings orderly).sent
  rw [claimed] at sent
  rw [same] at main posted
  rw [sent] at posted
  obtain ⟨next_attended, next_ready, next_yielding, sink, moment, clock, next_processes, log, _⟩ :=
    posted
  rw [eventsTo_letters addressed] at next_attended next_ready
  have ids : (batch.map Event.ofMessage).map Event.id = batch.map Message.id := by
    simp [Event.ofMessage]
  -- The round has made the subscriber ready, which finds the whole batch on the bus.
  obtain ⟨steps, settled⟩ := settle_summoned (by simp [ready]) first next_attended next_ready
    next_yielding (by rw [log, ids]; exact new) (by simpa using few)
  rw [settled, heard_map]
  refine ⟨⟨⟨_, { next_attended with channels := rfl }⟩, ⟨other, next_processes, other_waits⟩, rfl,
    next_yielding⟩, ⟨?_, ?_, moment, clock⟩, main⟩
  · have kept : next.log.saved = world.log.saved := congrArg Audit.Log.saved log
    simp [World.recorded, World.onBus, kept]
  · rw [List.length_map] at sink
    simp only [World.recorded, World.onBus, sink, List.length_map]
    rfl

/-! ## Between the ticks -/

theorem Process.Waits.due? {process : Process} (waits : process.Waits settings ticker)
    {moment : Nat} (due : ticker.due = moment * nanosecondsPerMoment) :
    process.due? = some moment := by
  have rounded : (moment * nanosecondsPerMoment + (nanosecondsPerMoment - 1)) /
      nanosecondsPerMoment = moment := by
    simp only [nanosecondsPerMoment]
    omega
  simp only [Process.due?, waits.idle, waits.ticker, due, rounded]

theorem alarms_resting (resting : world.Resting backend topic settings ticker) {moment : Nat}
    (due : ticker.due = moment * nanosecondsPerMoment) :
    ∃ turn, world.alarms = [⟨moment, turn, .process 0⟩] := by
  obtain ⟨history, attended⟩ := resting.attended
  obtain ⟨process, processes, waits⟩ := resting.waits
  refine ⟨process.turn, ?_⟩
  simp [World.alarms, processes, attended.runs, attended.handlerCalls, World.processAlarm?,
    waits.due? due]

theorem nextMoment?_resting (resting : world.Resting backend topic settings ticker) {moment : Nat}
    (due : ticker.due = moment * nanosecondsPerMoment) : world.nextMoment? = some moment := by
  obtain ⟨turn, alarms⟩ := alarms_resting resting due
  rw [World.nextMoment?, alarms]
  rfl

theorem passTo_resting (resting : world.Resting backend topic settings ticker) {moment : Nat}
    (due : ticker.due = moment * nanosecondsPerMoment) (later : world.now ≤ moment) :
    world.passTo moment = { world with now := moment, ready := [.process 0] } := by
  obtain ⟨turn, alarms⟩ := alarms_resting resting due
  simp [World.passTo, alarms, resting.ready, Nat.max_eq_right later]

end Tick

/-! ## Tick after tick -/

/-- The rounds of an undisturbed worker, which are all alike. -/
def steadily (settings : Publisher.Settings) (clock : Time.Instant) (_ : Nat) : Round :=
  ⟨settings.batchSize, clock, fun _ => .ok ()⟩

theorem admitted_steadily (settings : Publisher.Settings) (clock : Time.Instant) (count : Nat) :
    Publisher.admitted (steadily settings clock) count = count * settings.batchSize := by
  induction count with
  | zero => simp [Publisher.admitted]
  | succ count ih =>
      rw [Publisher.admitted, ih, Nat.succ_mul]
      rfl

/-- A ticker whose tick is due after some moments, and then every `period` moments. -/
def Ticker.Due (ticker : Ticker) (first period : Nat) : Prop :=
  ticker.due = first * nanosecondsPerMoment ∧ ticker.period = period * nanosecondsPerMoment

/-- What a world starts from in which a worker has an easy time. -/
structure Backlog (topic : String) (origin : World) : Prop where
  distinct : (origin.main.rows.map Message.id).Nodup
  unlocked : origin.main.locks = []
  addressed : ∀ row ∈ origin.main.pendingRows, row.topic = topic
  few : origin.main.pendingRows.length < stepsPerTurn

/-- What is counted when so many rows are published, and so many of them heard of. -/
def countedFor (published recorded : Nat) : List Increment :=
  List.replicate published .published ++ List.replicate recorded .recorded

theorem countedFor_append (published recorded more others : Nat) :
    (countedFor published recorded ++ countedFor more others).Perm
      (countedFor (published + more) (recorded + others)) := by
  simp only [countedFor, List.replicate_add, List.append_assoc]
  exact (List.perm_append_comm_assoc _ _ _).append_left _

/-- The subscriber has kept an entry of each of these rows, which were published, and nothing else
was counted. -/
structure Kept (backend : Config.Backend) (origin : World) (rows : List Message) (world : World) :
    Prop where
  log : world.log.saved = (heard backend rows).map (Audit.Entry.ofEvent ∘ Event.ofMessage)
  sink : ∃ increments, world.sink = origin.sink.recordAll increments ∧
    increments.Perm (countedFor rows.length (heard backend rows).length)

/-- After so many ticks the rows of as many batches have been published. -/
structure Progressed (backend : Config.Backend) (topic : String) (settings : Publisher.Settings)
    (first period : Nat) (origin : World) (count : Nat) (world : World) : Prop where
  resting : ∃ ticker, world.Resting backend topic settings ticker ∧
    Ticker.Due ticker (first + count * period) period
  now : world.now ≤ first + count * period
  main : world.main = Publisher.storeAfter (steadily settings origin.clock) origin.main count
  clock : world.clock = origin.clock
  kept : Kept backend origin (origin.main.pendingRows.take (count * settings.batchSize)) world

section Run
variable {backend : Config.Backend} {topic : String} {settings : Publisher.Settings}
variable {first period count : Nat} {origin world : World}

theorem heard_sublist {α : Type} (backend : Config.Backend) (sent : List α) :
    (heard backend sent).Sublist sent := by
  cases backend
  · exact List.Sublist.refl sent
  · exact List.nil_sublist sent

theorem heard_append {α : Type} (backend : Config.Backend) (first second : List α) :
    heard backend (first ++ second) = heard backend first ++ heard backend second := by
  cases backend <;> rfl

theorem Ticker.Due.next {ticker : Ticker} {first period : Nat}
    (due : Ticker.Due ticker first period) :
    Ticker.Due (nextTick ticker) (first + period) period := by
  refine ⟨?_, due.2⟩
  rw [Nat.add_mul, ← due.1, ← due.2]
  rfl

/-- The rows of the next batch are new to the log. -/
theorem Backlog.new (backlog : Backlog topic origin) (backend : Config.Backend)
    (before size : Nat) :
    ((heard backend (origin.main.pendingRows.take before)).map Message.id ++
      ((origin.main.pendingRows.drop before).take size).map Message.id).Nodup := by
  have part : (heard backend (origin.main.pendingRows.take before) ++
      (origin.main.pendingRows.drop before).take size).Sublist origin.main.rows := by
    refine ((heard_sublist backend _).append (List.Sublist.refl _)).trans ?_
    rw [← List.take_add]
    exact (List.take_sublist _ _).trans List.filter_sublist
  rw [← List.map_append]
  exact backlog.distinct.sublist (part.map Message.id)

/-- The next tick is another one. -/
theorem Progressed.tick (backlog : Backlog topic origin)
    (progressed : Progressed backend topic settings first period origin count world) :
    Progressed backend topic settings first period origin (count + 1)
      (world.passTo (first + count * period)).settle := by
  obtain ⟨ticker, resting, due⟩ := progressed.resting
  obtain ⟨history, attended⟩ := resting.attended
  obtain ⟨log, increments, sink, counted⟩ := progressed.kept
  have healthy : ∀ index, (steadily settings origin.clock index).Healthy := fun _ _ => rfl
  have advanced := Publisher.advanced healthy backlog.distinct backlog.unlocked count
  rw [passTo_resting resting due.1 progressed.now]
  let woken := { world with now := first + count * period, ready := [.process 0] }
  let rows := origin.main.pendingRows
  let batch := (rows.drop (count * settings.batchSize)).take settings.batchSize
  have main : woken.main =
      Publisher.storeAfter (steadily settings origin.clock) origin.main count := progressed.main
  have clock : woken.clock = origin.clock := progressed.clock
  have round : woken.round settings =
      Publisher.turn (steadily settings origin.clock) origin.main count := by
    rw [World.round, main, clock]
    rfl
  have claimed : (woken.round settings).journal.batch = batch := by
    rw [round, advanced.batch, admitted_steadily]
    rfl
  have part : batch.Sublist rows := (List.take_sublist _ _).trans (List.drop_sublist _ _)
  have taken : rows.take ((count + 1) * settings.batchSize) =
      rows.take (count * settings.batchSize) ++ batch := by
    rw [Nat.succ_mul, List.take_add]
  have kept : woken.log.saved = (heard backend (rows.take (count * settings.batchSize))).map
      (Audit.Entry.ofEvent ∘ Event.ofMessage) := log
  have new : (woken.log.saved.map Audit.Entry.id ++ batch.map Message.id).Nodup := by
    rw [kept, List.map_map]
    exact backlog.new backend _ _
  have orderly : woken.main.Orderly := by
    rw [main]
    exact ⟨advanced.distinct, by simp [advanced.unlocked]⟩
  have here : woken.Attended (station backend topic history []) := { attended with }
  obtain ⟨after, ticked, store⟩ := settle_tick ⟨history, here⟩
    resting.waits rfl resting.yielding due.1 orderly claimed
    (fun row member => backlog.addressed row (part.subset member)) new
    (part.length_le.trans_lt backlog.few)
  constructor
  · have next := due.next
    rw [Nat.add_assoc, ← Nat.succ_mul] at next
    exact ⟨_, after, next⟩
  · have here : woken.now ≤ first + (count + 1) * period :=
      Nat.add_le_add_left (Nat.mul_le_mul_right _ (Nat.le_succ count)) _
    exact ticked.now.le.trans here
  · rw [store, round]
    rfl
  · exact ticked.clock.trans progressed.clock
  · rw [taken]
    constructor
    · rw [ticked.log, kept, heard_append, List.map_append]
    · refine ⟨increments ++ countedFor batch.length (heard backend batch).length, ?_, ?_⟩
      · have before : woken.sink = origin.sink.recordAll increments := sink
        rw [ticked.sink, before, countedFor, Sink.recordAll_append, Sink.recordAll_append]
      · rw [heard_append, List.length_append, List.length_append]
        exact (counted.append_right _).trans (countedFor_append _ _ _ _)

/-- Time passes up to a later tick. -/
theorem Progressed.passBefore (backlog : Backlog topic origin) (positive : 0 < period)
    {more fuel : Nat} (enough : more < fuel)
    (progressed : Progressed backend topic settings first period origin count world.settle) :
    Progressed backend topic settings first period origin (count + more)
      (World.passBefore (first + (count + more) * period) fuel world) := by
  induction more generalizing world count fuel with
  | zero =>
      cases fuel with
      | zero => cases enough
      | succ fuel =>
          obtain ⟨ticker, resting, due, every⟩ := progressed.resting
          rw [World.passBefore, nextMoment?_resting resting due]
          dsimp only
          rw [Nat.add_zero, if_neg (Nat.lt_irrefl _)]
          exact progressed
  | succ more ih =>
      cases fuel with
      | zero => cases enough
      | succ fuel =>
          obtain ⟨ticker, resting, due, every⟩ := progressed.resting
          have earlier : first + count * period < first + (count + (more + 1)) * period := by
            have farther : count * period < (count + (more + 1)) * period :=
              Nat.mul_lt_mul_of_pos_right (by omega) positive
            omega
          have same : count + (more + 1) = count + 1 + more := by omega
          rw [World.passBefore, nextMoment?_resting resting due]
          dsimp only
          rw [if_pos earlier, same]
          exact ih (Nat.lt_of_succ_lt_succ enough) (progressed.tick backlog)

end Run

/-! ## From the start to the stop -/

/-- A world before its worker starts: the subscriber, if there is one, has still to look at the
bus. -/
structure Fresh (backend : Config.Backend) (topic : String) (origin : World) : Prop where
  attended : origin.Attended (station backend topic [] [])
  processes : origin.processes = []
  ready : origin.ready = heard backend [.subscriber 0 0]
  yielding : origin.yielding = []
  log : origin.log.saved = []

section Course
variable {backend : Config.Backend} {topic : String} {settings : Publisher.Settings}
variable {period : Nat} {origin world : World}

/-- A ticker whose interval is a whole number of milliseconds. -/
theorem due_start {interval : Time.Span}
    (whole : interval.nanoseconds = period * nanosecondsPerMoment)
    (positive : 0 < period) (short : period ≤ Time.longestPause) (now : Nat) :
    Ticker.Due (Ticker.start interval (now * nanosecondsPerMoment)) (now + period) period := by
  have wait : Ticker.firstWait interval = period * nanosecondsPerMoment := by
    rw [Ticker.firstWait, whole, Ticker.leastPeriod, nanosecondsPerMoment]
    omega
  have longest : period * nanosecondsPerMoment ≤ Ticker.longestPeriod :=
    Nat.mul_le_mul_right _ short
  constructor
  · change now * nanosecondsPerMoment + Ticker.firstWait interval = _
    rw [wait, Nat.add_mul]
  · change min (Ticker.firstWait interval) Ticker.longestPeriod = _
    rw [wait, Nat.min_eq_left longest]

/-- At first the subscriber finds nothing. -/
theorem settle_fresh (attended : world.Attended (station backend topic [] []))
    (ready : world.ready = heard backend [.subscriber 0 0]) (yielding : world.yielding = [])
    (log : world.log.saved = []) : ∃ steps, world.settle = { world with ready := [], steps } := by
  cases backend with
  | noop =>
      have unready : world.ready = [] := ready
      exact ⟨world.steps, by rw [World.settle_of_unready unready, ← unready]⟩
  | memory =>
      have same : world.onBus (station .memory topic [] []) = world := onBus_same attended.channels
      have woken : World.wakeMany tasksPerRound world = { world with ready := [] }.refresh := by
        rw [tasksPerRound, @wakeMany_subscriber topic [] world [] 60 attended ready (by simp [log])
          (by decide), World.recorded_nil]
        conv_rhs => rw [← same]
        rfl
      exact ⟨stepsPerTurn, settle_of_round (by simp [ready, heard]) woken rfl yielding⟩

/-- The world after its worker was started. -/
def World.working (origin : World) (settings : Publisher.Settings) : World :=
  (origin.startWorker settings).2

theorem progressed_start (fresh : Fresh backend topic origin)
    (whole : settings.interval.nanoseconds = period * nanosecondsPerMoment)
    (positive : 0 < period) (short : period ≤ Time.longestPause) :
    Progressed backend topic settings (origin.now + period) period origin 0
      (origin.working settings).settle := by
  have attended : (origin.working settings).Attended (station backend topic [] []) :=
    { fresh.attended with }
  obtain ⟨steps, settled⟩ := settle_fresh attended fresh.ready fresh.yielding fresh.log
  let process : Process :=
    { settings, channel := origin.current, turn := origin.turns
      worker := Publisher.Worker.start settings.interval (origin.now * nanosecondsPerMoment) }
  have processes : (origin.working settings).processes = [process] := by
    simp [World.working, World.startWorker, fresh.processes, process]
  have waits : process.Waits settings process.worker.ticker :=
    ⟨rfl, fresh.attended.current, rfl, rfl, rfl⟩
  have nothing : origin.main.pendingRows.take (0 * settings.batchSize) = [] := by simp
  have unheard : heard backend ([] : List Message) = [] := by cases backend <;> rfl
  rw [settled]
  constructor
  · refine ⟨_, ⟨⟨[], { attended with }⟩, ⟨process, processes, waits⟩, rfl, fresh.yielding⟩, ?_⟩
    rw [Nat.zero_mul]
    exact due_start whole positive short origin.now
  · have here : origin.now ≤ origin.now + period + 0 * period := by omega
    exact here
  · rfl
  · rfl
  · rw [nothing]
    exact ⟨by rw [unheard]; exact fresh.log, [], rfl, by rw [unheard]; exact List.Perm.refl _⟩

/-- A worker that is cancelled when its tick has made it ready stops instead. -/
theorem stopWorker_resting {ticker : Ticker} {process : Process}
    (processes : world.processes = [process]) (waits : process.Waits settings ticker)
    (ready : world.ready = [.process 0]) (yielding : world.yielding = []) :
    ∃ processes turns, world.stopWorker 0 =
      { world with processes, turns, ready := [], steps := stepsPerTurn } := by
  let stopped : Process := { process with
    turn := world.turns
    worker := { process.worker with activity := .stopped, isCancelled := true } }
  let after : World := { world with
    processes := [stopped], turns := world.turns + 1, ready := [], steps := stepsPerTurn }
  let told : Process := { process with worker := process.worker.cancel }
  have cancelled : world.cancelWorker 0 = { world with processes := [told] } := by
    simp [World.cancelWorker, World.isResting, World.isRoused, processes, ready, told]
  have looked : told.worker.look =
      { process.worker with activity := .stopped, isCancelled := true } := by
    simp [told, Publisher.Worker.look, Publisher.Worker.cancel, waits.idle]
  have unready (now : Nat) : told.worker.look.isDue now = false := by
    rw [looked]
    rfl
  have woken : (world.cancelWorker 0).wakeFirst = after := by
    have idle : told.worker.activity = .idle := waits.idle
    rw [cancelled, World.wakeFirst]
    simp only [ready, World.wake, World.wakeProcess, World.refresh, List.getElem?_cons_zero, idle]
    rw [lateTicks, beginIterations_early (unready _), looked]
    rfl
  have settled : (world.cancelWorker 0).settle = after := by
    refine settle_of_round ?_ ?_ rfl yielding
    · simp [cancelled, ready]
    · rw [tasksPerRound, World.wakeMany, woken]
      exact World.wakeMany_of_unready 60 rfl
  have ended : after.processDue? 0 = none := rfl
  rw [World.stopWorker, World.awaitWorker, settled, ended]
  exact ⟨_, _, rfl⟩

/-- The bus of the audit subscriber while it is shut down. -/
def closingBus (topic : String) (history : List (String × Bytes)) (listed ended : Bool)
    (tasks : List Nat) : Bus.Memory Handler where
  history := history
  subscriptions := [{ topic, handler := .audit, listed, ended }]
  tasks := tasks
  isShutDown := true

theorem bus?_onBus (bus : Bus.Memory Handler) : (world.onBus (.memory bus)).bus? 0 = some bus :=
  rfl

theorem putChannel_onBus (state other : Channel) :
    (world.onBus state).putChannel 0 other = world.onBus other :=
  rfl

/-- A subscriber with nothing in hand leaves a bus that was shut down. -/
theorem settle_closing {topic : String} {history : List (String × Bytes)}
    (calls : world.handlerCalls = []) (ready : world.ready = [.subscriber 0 0])
    (yielding : world.yielding = []) :
    (world.onBus (.memory (closingBus topic history false false []))).settle =
      { world with ready := [], steps := stepsPerTurn }.onBus
        (.memory (closingBus topic history false true [])) := by
  let left : World := { world with ready := [], steps := stepsPerTurn }
  let roused := left.onBus (.memory (closingBus topic history false false []))
  let after := left.onBus (.memory (closingBus topic history false true []))
  have unasked : roused.callOf? 0 0 = none := callOf?_none calls
  have unheld : roused.inHand? 0 0 = none := rfl
  have unbusy : roused.finishEvent 0 0 = roused := by
    rw [World.finishEvent, unheld]
    split <;> simp_all
  have leaves : roused.modifyBus 0 (fun bus => bus.next 0) = after := rfl
  have woken : (world.onBus (.memory (closingBus topic history false false []))).wakeFirst =
      after := by
    have steps : roused.steps = 127 + 1 := rfl
    have same : (world.onBus (.memory (closingBus topic history false false []))).ready =
        [.subscriber 0 0] := ready
    rw [World.wakeFirst, same]
    change roused.wakeSubscriber 0 0 = after
    rw [World.wakeSubscriber, unasked]
    dsimp only
    rw [World.serve, unbusy, unasked]
    dsimp only
    rw [steps, World.serveEvents, leaves]
    rfl
  refine settle_of_round ?_ ?_ rfl yielding
  · change world.ready ≠ []
    simp [ready]
  · rw [tasksPerRound, World.wakeMany, woken]
    exact World.wakeMany_of_unready 60 rfl

/-- The stages of the shutdown: the lists are cleared, the tasks are taken, the subscriber leaves at
once, and the shutdown goes past it and returns. -/
theorem finishShutdown_closing {topic : String} {history : List (String × Bytes)}
    (calls : world.handlerCalls = []) (ready : world.ready = [.subscriber 0 0])
    (yielding : world.yielding = []) (more : Nat) :
    World.finishShutdown 0 (more + 5) .called
        (world.onBus (.memory (closingBus topic history true false [0]))) =
      (.returned [0], { world with ready := [], steps := stepsPerTurn }.onBus
        (.memory (closingBus topic history false true []))) := by
  let bus := closingBus topic history
  have cleared : Bus.Shutdown.called.proceed (bus true false [0]) =
      (.cleared, bus false false [0]) := rfl
  have taken : Bus.Shutdown.cleared.proceed (bus false false [0]) =
      (.awaiting [0] 0, bus false false []) := rfl
  have waits : (Bus.Shutdown.awaiting [0] 0).proceed (bus false false []) =
      (.awaiting [0] 0, bus false false []) := rfl
  have passed : (Bus.Shutdown.awaiting [0] 0).proceed (bus false true []) =
      (.awaiting [0] 1, bus false true []) := rfl
  have returned : (Bus.Shutdown.awaiting [0] 1).proceed (bus false true []) =
      (.returned [0], bus false true []) := rfl
  have leaves := @settle_closing world topic history calls ready yielding
  have uncalled : (world.onBus (.memory (bus false false []))).settle.callOf? 0 0 = none := by
    rw [leaves]
    exact callOf?_none calls
  rw [World.finishShutdown_next (bus?_onBus _) cleared (by decide), putChannel_onBus,
    World.finishShutdown_next (bus?_onBus _) taken (by decide), putChannel_onBus,
    World.finishShutdown_waits (bus?_onBus _) waits rfl uncalled, leaves,
    World.finishShutdown_next (bus?_onBus _) passed (by decide), putChannel_onBus,
    World.finishShutdown_next (bus?_onBus _) returned (by decide), putChannel_onBus,
    World.finishShutdown_returned (bus?_onBus _)]

/-- The shutdown of a bus whose subscriber waits returns at the same moment. -/
theorem shutDown_attended {backend : Config.Backend} {topic : String}
    {history : List (String × Bytes)} (attended : world.Attended (station backend topic history []))
    (ready : world.ready = []) (yielding : world.yielding = []) :
    ∃ channels steps, world.shutDown =
      (match backend with
        | .memory => some (.returned [0])
        | .noop => none, { world with channels, ready := [], steps }) := by
  have channels := attended.channels
  have current := attended.current
  cases backend with
  | noop =>
      have missing : world.bus? world.current = none := by
        simp [World.bus?, channels, current, station]
      refine ⟨world.channels, world.steps, ?_⟩
      simp only [World.shutDown, missing, ← ready]
  | memory =>
      let roused : World := { world with ready := [.subscriber 0 0] }
      have there : world.bus? world.current = some
          { history, subscriptions := [{ topic, handler := .audit }], tasks := [0] } := by
        simp [World.bus?, channels, current, station]
      let shut := world.putChannel 0 (.memory (closingBus topic history true false [0]))
      have called : world.shutDown =
          let outcome := World.finishShutdown 0 (5 + 5) .called
            (shut.rouseSubscribers 0 (fun _ => true) [{ topic, handler := .audit }])
          (some outcome.1, outcome.2) := by
        have called := World.shutDown_of_bus there
        rw [current] at called
        exact called
      have rouses : shut.rouseSubscribers 0 (fun _ => true) [{ topic, handler := .audit }] =
          roused.onBus (.memory (closingBus topic history true false [0])) := by
        simp [World.rouseSubscribers, World.isIdle, World.isRoused, World.rouse, World.putChannel,
          World.onBus, shut, roused, channels, ready, yielding]
      have returned := @finishShutdown_closing roused topic history attended.handlerCalls rfl
        yielding 5
      rw [rouses, returned] at called
      exact ⟨_, _, called⟩

/-- The world after its worker was at work up to a moment and everything was stopped. -/
def World.worked (origin : World) (settings : Publisher.Settings) (stop : Nat) : World :=
  (((origin.working settings).waitUntil stop).stopWorker 0).shutDown.2

/-- A worker that is stopped at a tick has made a round at each tick before. -/
theorem kept_before_stop (fresh : Fresh backend topic origin) (backlog : Backlog topic origin)
    (whole : settings.interval.nanoseconds = period * nanosecondsPerMoment)
    (positive : 0 < period) (short : period ≤ Time.longestPause) (count : Nat) :
    Kept backend origin (origin.main.pendingRows.take (count * settings.batchSize))
      (origin.worked settings (origin.now + (count + 1) * period)) := by
  let stop := origin.now + (count + 1) * period
  have enough : count < (count + 1) * period :=
    Nat.lt_of_lt_of_le (Nat.lt_succ_self count) (Nat.le_mul_of_pos_right _ positive)
  have progressed :=
    (progressed_start fresh whole positive short).passBefore backlog positive enough
  have last : origin.now + period + (0 + count) * period = stop := by
    simp only [stop, Nat.zero_add, Nat.succ_mul]
    omega
  rw [last, Nat.zero_add] at progressed
  obtain ⟨ticker, resting, due, _⟩ := progressed.resting
  obtain ⟨history, attended⟩ := resting.attended
  obtain ⟨process, processes, waits⟩ := resting.waits
  have here : (origin.working settings).now = origin.now := rfl
  have waited : (origin.working settings).waitUntil stop =
      (World.passBefore stop ((count + 1) * period) (origin.working settings)).passTo stop := by
    rw [World.waitUntil, here, if_neg (by omega), Nat.add_sub_cancel_left]
  have same : origin.now + period + count * period = stop := by rw [← last, Nat.zero_add]
  rw [same] at due
  rw [World.worked, waited, passTo_resting resting due (same ▸ progressed.now)]
  -- At the stop the last tick has made the worker ready, but it is cancelled before it goes on.
  generalize World.passBefore stop ((count + 1) * period) (origin.working settings) = world at *
  let woken := { world with now := stop, ready := [.process 0] }
  have alone : woken.processes = [process] := processes
  obtain ⟨left, turns, stopped⟩ := stopWorker_resting alone waits rfl resting.yielding
  let after : World :=
    { woken with processes := left, turns, ready := [], steps := stepsPerTurn }
  have still : after.Attended (station backend topic history []) := { attended with }
  obtain ⟨channels, steps, shut⟩ := shutDown_attended still rfl resting.yielding
  rw [stopped, shut]
  exact ⟨progressed.kept.log, progressed.kept.sink⟩

end Course

end Outbox.Simulation
