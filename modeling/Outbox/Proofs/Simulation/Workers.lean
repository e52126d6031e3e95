import Mathlib.Logic.Relation
import Outbox.Proofs.Publisher.Cancellation
import Outbox.Proofs.Publisher.Counting
import Outbox.Proofs.Simulation.Turns

/-!
# Workers of a world are loops

What a worker of a world does is what a loop does for some replies: those that the faults, the clock
and the buses of the world give to its calls.  All that the others do is, for the loop, a change of
the store.  So whatever holds of every history of a loop holds of the workers of a world.  A worker
of a world also counts what its loop counts.
-/

set_option autoImplicit false

namespace Outbox.Simulation

open Publisher (Iteration Lap Loop Worker)
open Relation (ReflTransGen)

/-! ## Iterations -/

/-- The process has sent an event and waits for the result. -/
def Publication.IsSent (publication : Publication) : Prop :=
  ∃ tx attempts message waiting,
    publication.iteration = .publishing tx attempts message waiting

/-- What a worker counts when its iteration has come so far. -/
def Progress.closing : Progress → List Increment
  | .waiting _ => []
  | .ended result => Worker.increments result

/-- Where a loop is when its iteration has come so far. -/
inductive Reached (loop after : Loop) : Progress → Prop where
  | waiting {publication : Publication} (worker : after.worker = loop.worker)
      (current : after.current.map Lap.iteration = some publication.iteration)
      (sent : publication.IsSent) : Reached loop after (.waiting publication)
  | ended {result : Except Error Publisher.Report} (worker : after.worker = loop.worker.finish)
      (left : after.current = none) : Reached loop after (.ended result)

theorem Reached.congr {loop other after : Loop} {progress : Progress}
    (reached : Reached loop after progress) (same : loop.worker = other.worker) :
    Reached other after progress := by
  cases reached with
  | waiting worker current sent => exact .waiting (worker.trans same) current sent
  | ended worker left => exact .ended (same ▸ worker) left

/-- A loop has come so far as the iteration of a world, and has counted the same. -/
structure Proceeded (loop : Loop) (sink : Sink) (after : Loop) (counted : List Increment)
    (outcome : Progress × World) : Prop where
  now : after.now = loop.now
  store : after.store = outcome.2.main
  reached : Reached loop after outcome.1
  sink : (outcome.2.count outcome.1.closing).sink = sink.recordAll counted

/-- Some replies bring a loop as far as the iteration of a world. -/
def Follows (batchSize : Nat) (loop : Loop) (sink : Sink) (outcome : Progress × World) : Prop :=
  ∃ replies : List Publisher.Reply, Proceeded loop sink
    ((replies.map Loop.Move.reply).foldl (Loop.step batchSize) loop)
    (loop.counted batchSize (replies.map .reply)) outcome

section Iterations
variable {settings : Publisher.Settings} {channel : Nat} {world : World} {loop : Loop} {lap : Lap}

/-- One exchange, and what follows it. -/
theorem follows_of_exchange {sink : Sink} {reply : Publisher.Reply} {next : Iteration}
    (current : loop.current = some lap)
    (exchanged : lap.iteration.exchange settings.batchSize reply loop.store = (next, world.main))
    (counted : world.sink = sink.recordAll (lap.iteration.answer reply.result).2)
    (more : (lap.advance next).iteration.isEnded = false →
      Follows settings.batchSize
        { loop with store := world.main, current := some (lap.advance next) } world.sink
        (World.proceed settings channel world (lap.advance next).iteration)) :
    Follows settings.batchSize loop sink (World.proceed settings channel world next) := by
  have stepped : loop.step settings.batchSize (.reply reply) =
      Loop.put { loop with store := world.main } (lap.advance next) := by
    simp only [Loop.step, current, exchanged]
  have increments := Loop.increments_reply current exchanged
  cases complete : next.isEnded with
  | true =>
      obtain ⟨result, rfl⟩ : ∃ result, next = .ended result := by
        cases next with
        | ended result => exact ⟨result, rfl⟩
        | _ => cases complete
      refine ⟨[reply], ?_⟩
      have ended : World.proceed settings channel world (.ended result) =
          (.ended result, world) := proceed_stop rfl
      simp only [List.map_cons, List.map_nil, List.foldl_cons, List.foldl_nil, stepped, ended,
        Loop.counted, increments, List.append_nil]
      refine ⟨rfl, rfl, .ended rfl rfl, ?_⟩
      rw [Sink.recordAll_append, ← counted]
      rfl
  | false =>
      obtain ⟨replies, proceeded⟩ := more complete
      refine ⟨reply :: replies, ?_⟩
      have goes_on : ¬(lap.advance next).iteration.isEnded = true := by simp [Lap.advance, complete]
      have unclosed : next.closing = [] := by
        cases next with
        | ended result => cases complete
        | _ => rfl
      rw [Loop.put, if_neg goes_on] at stepped
      rw [List.map_cons, List.foldl_cons, Loop.counted, stepped, increments, unclosed,
        List.append_nil]
      refine ⟨proceeded.now, proceeded.store, proceeded.reached.congr rfl, ?_⟩
      rw [Sink.recordAll_append, ← counted]
      exact proceeded.sink

end Iterations

/-- A loop follows an iteration of a world with a reply to each of its calls. -/
theorem follows_proceed (settings : Publisher.Settings) (channel : Nat) {world : World}
    (home : world.main.id = World.mainStore) {loop : Loop} {lap : Lap}
    (current : loop.current = some lap) (store : loop.store = world.main)
    (under_way : lap.iteration.isEnded = false) :
    Follows settings.batchSize loop world.sink
      (World.proceed settings channel world lap.iteration) := by
  cases action : lap.iteration.action settings.batchSize with
  | stop result =>
      cases iteration : lap.iteration with
      | ended result => simp [iteration, Iteration.isEnded] at under_way
      | _ => simp [iteration, Iteration.action] at action
  | call call =>
      have nearer := Iteration.perform_nearer action world.clock (world.trace call).1 world.main
      have own := (lap.iteration.id_perform settings.batchSize world.clock (world.trace call).1
        world.main).trans home
      have main := (world.trace call).2.main_putStore own
      have exchanged : lap.iteration.exchange settings.batchSize
          { clock := world.clock, injected := (world.trace call).1 } world.main =
          lap.iteration.perform settings.batchSize world.clock (world.trace call).1 world.main := by
        simp only [Iteration.exchange, action]
      have uncounted := Iteration.increments_of_call action (.ok ())
      rw [← main] at own
      rw [World.proceed_traced action]
      refine follows_of_exchange current (by rw [main, store, exchanged]) ?_ ?_
      · rw [uncounted]
        rfl
      · intro still_under_way
        exact follows_proceed settings channel own rfl rfl still_under_way
  | publish topic event =>
      rcases World.proceed_sent action with
        ⟨ending, waits⟩ | ⟨result, after, served, counted, goes_on⟩
      · have main := (world.served_send channel topic event).main
        rw [waits]
        refine ⟨[], rfl, store.trans main.symm, .waiting rfl ?_ ?_, ?_⟩
        · rw [List.map_nil, List.foldl_nil, current]
          rfl
        · cases iteration : lap.iteration with
          | publishing tx attempts message waiting => exact ⟨tx, attempts, message, waiting, rfl⟩
          | _ => simp [iteration, Iteration.action] at action
        · exact world.sink_send channel topic event
      · have nearer := Iteration.answer_nearer action result
        have exchanged : lap.iteration.exchange settings.batchSize { result } loop.store =
            ((lap.iteration.answer result).1, after.main) := by
          simp only [Iteration.exchange, action, store, served.main]
        rw [goes_on]
        refine follows_of_exchange current exchanged counted ?_
        intro still_under_way
        exact follows_proceed settings channel (served.main ▸ home) rfl rfl still_under_way
termination_by lap.iteration.rank
decreasing_by
  · exact nearer
  · exact nearer

/-! ## Processes -/

/-- A loop is at what a process of a world is at. -/
structure Plays (loop : Loop) (world : World) (process : Process) : Prop where
  home : world.main.id = World.mainStore
  worker : loop.worker = process.worker
  running : process.publication.isSome = true ↔ process.worker.activity = .running
  now : loop.now = world.now * nanosecondsPerMoment
  store : loop.store = world.main
  current : loop.current.map Lap.iteration = process.publication.map Publication.iteration
  sent : ∀ publication, process.publication = some publication → publication.IsSent
  /-- Nothing comes between the two looks of a worker of a world. -/
  unlooking : process.worker.activity ≠ .looking

/-- The process of an index is at what a loop comes to by some moves, and has counted what the loop
counts at these moves. -/
def GoesOn (loop : Loop) (sink : Sink) (settings : Publisher.Settings) (world : World)
    (index : Nat) : Prop :=
  ∃ (moves : List Loop.Move) (process : Process), world.processes[index]? = some process ∧
    process.settings = settings ∧
    Plays (moves.foldl (Loop.step settings.batchSize) loop) world process ∧
    world.sink = sink.recordAll (loop.counted settings.batchSize moves)

section Processes
variable {loop next : Loop} {world later : World} {process : Process} {index : Nat}
variable {counted : List Increment}

theorem GoesOn.of_moves {sink : Sink} {settings : Publisher.Settings} (moves : List Loop.Move)
    (goes_on : GoesOn (moves.foldl (Loop.step settings.batchSize) loop)
      (sink.recordAll (loop.counted settings.batchSize moves)) settings world index) :
    GoesOn loop sink settings world index := by
  obtain ⟨more, process, there, own, plays, same⟩ := goes_on
  refine ⟨moves ++ more, process, there, own, ?_, ?_⟩
  · rw [List.foldl_append]
    exact plays
  · rw [Loop.counted_append, Sink.recordAll_append]
    exact same

theorem goesOn_putProcess (plays : Plays loop world process)
    (there : index < world.processes.length) :
    GoesOn loop world.sink process.settings (world.putProcess index process) index := by
  have placed : (world.putProcess index process).processes =
      world.processes.set index { process with turn := world.turns } := by
    unfold World.putProcess World.giveWay
    split <;> rfl
  have rest : (world.putProcess index process).now = world.now ∧
      (world.putProcess index process).main = world.main ∧
      (world.putProcess index process).sink = world.sink := by
    unfold World.putProcess World.giveWay
    split <;> exact ⟨rfl, rfl, rfl⟩
  refine ⟨[], { process with turn := world.turns }, ?_, rfl, ?_, rest.2.2⟩
  · rw [placed, List.getElem?_set_self there]
  · exact ⟨rest.2.1 ▸ plays.home, plays.worker, plays.running, rest.1 ▸ plays.now,
      rest.2.1 ▸ plays.store, plays.current, plays.sent, plays.unlooking⟩

theorem Proceeded.plays_waiting {sink : Sink} {publication : Publication}
    (proceeded : Proceeded loop sink next counted (.waiting publication, later))
    (apart : Apart index world later) (home : world.main.id = World.mainStore)
    (now : loop.now = world.now * nanosecondsPerMoment)
    (running : loop.worker.activity = .running) (process : Process) :
    Plays next later { process with worker := loop.worker, publication := some publication } := by
  cases proceeded.reached with
  | waiting worker current sent =>
      refine ⟨apart.home.trans home, worker, ⟨fun _ => running, fun _ => rfl⟩, ?_, proceeded.store,
        current, ?_, ?_⟩
      · rw [proceeded.now, now, apart.now]
      · rintro other ⟨⟩
        exact sent
      · simp [running]

theorem Proceeded.plays_ended {sink : Sink} {result : Except Error Publisher.Report}
    (proceeded : Proceeded loop sink next counted (.ended result, later))
    (apart : Apart index world later) (home : world.main.id = World.mainStore)
    (now : loop.now = world.now * nanosecondsPerMoment)
    (running : loop.worker.activity = .running) (process : Process) :
    Plays next (later.count (Worker.increments result))
      { process with worker := loop.worker.finish, publication := none } := by
  cases proceeded.reached with
  | ended worker left =>
      refine ⟨apart.home.trans home, worker, ?_, ?_, proceeded.store, ?_, ?_, ?_⟩
      · simp [Worker.activity_finish running]
      · rw [proceeded.now, now]
        exact congrArg (· * nanosecondsPerMoment) apart.now.symm
      · rw [left]
        rfl
      · intro other impossible
        cases impossible
      · simp [Worker.activity_finish running]

/-- A worker that neither begins nor ends an iteration. -/
theorem Plays.quieted (plays : Plays loop world process) {worker : Worker}
    (quiet : process.worker.Quiet worker) (unlooking : worker.activity ≠ .looking) :
    Plays { loop with worker } world { process with worker } :=
  { plays with
    worker := rfl
    running := plays.running.trans quiet.running.symm
    unlooking }

theorem Plays.cancel (plays : Plays loop world process) (batchSize : Nat) :
    Plays (loop.step batchSize .cancel) world
      { process with worker := process.worker.cancel } := by
  rw [Loop.step, plays.worker]
  exact plays.quieted (Worker.quiet_cancel _) plays.unlooking

/-- A worker that looks and takes no tick. -/
theorem Plays.rest (plays : Plays loop world process) (batchSize : Nat) :
    Plays ([.look, .rest].foldl (Loop.step batchSize) loop) world
      { process with worker := process.worker.look.rest } := by
  simp only [List.foldl_cons, List.foldl_nil, Loop.step, plays.worker]
  exact plays.quieted (Worker.quiet_look_rest _) (Worker.unlooking_rest _)

/-- A worker that looks and takes a tick. -/
theorem Plays.begin (plays : Plays loop world process)
    (due : process.worker.look.isDue (world.now * nanosecondsPerMoment) = true) (batchSize : Nat) :
    [.look, .tick].foldl (Loop.step batchSize) loop = { loop with
      worker := process.worker.look.begin (world.now * nanosecondsPerMoment)
      current := some { begun := loop.now } } := by
  rw [← plays.worker, ← plays.now] at due ⊢
  simp only [List.foldl_cons, List.foldl_nil, Loop.step, if_pos due]

theorem goesOn_beginIterations (ticks : Nat) (plays : Plays loop world process)
    (resting : process.publication = none) (there : index < world.processes.length) :
    GoesOn loop world.sink process.settings (World.beginIterations index ticks process world)
      index := by
  induction ticks generalizing loop world process with
  | zero => exact goesOn_putProcess plays there
  | succ ticks ih =>
      rw [World.beginIterations]
      dsimp only
      split
      · rename_i ready
        have begins := plays.begin ready.2 process.settings.batchSize
        have busy := Worker.activity_begin ready.2
        have home : world.spend.main.id = World.mainStore := plays.home
        have now : ([.look, .tick].foldl (Loop.step process.settings.batchSize) loop).now =
            world.spend.now * nanosecondsPerMoment := by
          rw [begins]
          exact plays.now
        have apart := World.apart_proceed index process.settings process.channel world.spend
          .starting
        obtain ⟨replies, proceeded⟩ := follows_proceed process.settings process.channel home
          (congrArg Loop.current begins) ((congrArg Loop.store begins).trans plays.store) rfl
        have worker := congrArg Loop.worker begins
        generalize process.worker.look.begin (world.now * nanosecondsPerMoment) = begun
          at worker busy ⊢
        dsimp only at worker
        apply GoesOn.of_moves ([.look, .tick] ++ replies.map Loop.Move.reply)
        rw [List.foldl_append, Loop.counted_append]
        generalize [.look, .tick].foldl (Loop.step process.settings.batchSize) loop = next
          at proceeded now worker ⊢
        subst worker
        cases outcome : World.proceed process.settings process.channel world.spend .starting with
        | mk progress later =>
            rw [outcome] at proceeded apart
            have still_there := apart.lt_length there
            have counted := proceeded.sink
            cases progress with
            | waiting publication =>
                have put := goesOn_putProcess
                  (proceeded.plays_waiting apart home now busy process) still_there
                rw [show later.sink = _ from counted] at put
                exact put
            | ended result =>
                have more := ih (proceeded.plays_ended apart home now busy process) rfl still_there
                rw [show (later.count (Worker.increments result)).sink = _ from counted] at more
                exact more
      · have rested := plays.rest process.settings.batchSize
        exact .of_moves [.look, .rest] (goesOn_putProcess rested there)

theorem follows_resume (plays : Plays loop world process) {publication : Publication}
    (waits : process.publication = some publication) :
    Follows process.settings.batchSize loop world.sink
      (World.resume process.settings process.channel world publication) := by
  have sent := plays.sent publication waits
  have current := plays.current
  rw [waits, Option.map_some] at current
  have unchanged : Proceeded loop world.sink loop [] (.waiting publication, world) :=
    ⟨rfl, plays.store, .waiting rfl current sent, rfl⟩
  unfold World.resume
  split
  · exact ⟨[], unchanged⟩
  · rename_i due result _
    split
    · exact ⟨[], unchanged⟩
    · obtain ⟨lap, there, same⟩ := Option.map_eq_some_iff.mp current
      obtain ⟨tx, attempts, message, waiting, publishing⟩ := sent
      have exchanged : lap.iteration.exchange process.settings.batchSize { result } loop.store =
          ((publication.iteration.answer result).1, world.main) := by
        rw [same, publishing, plays.store]
        rfl
      have answered : lap.iteration.answer result = publication.iteration.answer result := by
        rw [same]
      generalize publication.iteration.answer result = answer at exchanged answered
      have home : (world.spend.count answer.2).main.id = World.mainStore := plays.home
      refine follows_of_exchange there exchanged ?_
        (follows_proceed process.settings process.channel home rfl rfl)
      rw [answered]
      rfl

/-- A process that goes on makes moves of its loop, and counts what the loop counts. -/
theorem goesOn_wakeProcess (plays : Plays loop world process)
    (there : world.processes[index]? = some process) :
    GoesOn loop world.sink process.settings (world.wakeProcess index) index := by
  obtain ⟨placed, _⟩ := List.getElem?_eq_some_iff.mp there
  simp only [World.wakeProcess, there]
  split
  · rename_i idle
    have resting : process.publication = none := by
      rw [← Option.not_isSome_iff_eq_none, plays.running, idle]
      exact Publisher.Activity.noConfusion
    exact goesOn_beginIterations lateTicks plays resting placed
  · rename_i publication running waits
    have busy : loop.worker.activity = .running := plays.worker ▸ running
    have apart := World.apart_resume index process.settings process.channel world publication
    obtain ⟨replies, proceeded⟩ := follows_resume plays waits
    apply GoesOn.of_moves (replies.map Loop.Move.reply)
    cases outcome : World.resume process.settings process.channel world publication with
    | mk progress later =>
        rw [outcome] at proceeded apart
        have still_there := apart.lt_length placed
        have counted := proceeded.sink
        rw [← counted]
        cases progress with
        | waiting next =>
            have goes_on := proceeded.plays_waiting apart plays.home plays.now busy process
            rw [plays.worker] at goes_on
            exact goesOn_putProcess goes_on still_there
        | ended result =>
            have ended := proceeded.plays_ended apart plays.home plays.now busy process
            rw [plays.worker] at ended
            exact goesOn_beginIterations lateTicks ended rfl still_there
  · exact ⟨[], process, there, rfl, plays, rfl⟩

/-- A cancellation is a move of the loop; that the process may be ready now is nothing to it. -/
theorem Plays.cancelWorker (plays : Plays loop world process)
    (there : world.processes[index]? = some process) :
    (world.cancelWorker index).processes[index]? =
      some { process with worker := process.worker.cancel } ∧
    Plays (loop.step process.settings.batchSize .cancel) (world.cancelWorker index)
      { process with worker := process.worker.cancel } := by
  have told := plays.cancel process.settings.batchSize
  have placed : (world.processes.modify index fun process =>
      { process with worker := process.worker.cancel })[index]? =
      some { process with worker := process.worker.cancel } := by
    rw [List.getElem?_modify_eq, there]
    rfl
  unfold World.cancelWorker
  dsimp only
  split
  · exact ⟨placed, { told with }⟩
  · exact ⟨placed, { told with }⟩

/-- What the others do is nothing but a change of the store, while time may pass. -/
theorem goesOn_elsewhere (plays : Plays loop world process)
    (there : world.processes[index]? = some process) (now : world.now ≤ later.now)
    (home : later.main.id = world.main.id)
    (same : later.processes[index]? = world.processes[index]?) :
    GoesOn loop later.sink process.settings later index := by
  refine ⟨[.pass ((later.now - world.now) * nanosecondsPerMoment), .disturb later.main], process,
    same.trans there, rfl, ?_, rfl⟩
  have moved : loop.now + (later.now - world.now) * nanosecondsPerMoment =
      later.now * nanosecondsPerMoment := by
    rw [plays.now, ← Nat.add_mul, Nat.add_sub_cancel' now]
  simp only [List.foldl_cons, List.foldl_nil, Loop.step, moved]
  exact ⟨home.trans plays.home, plays.worker, plays.running, rfl, rfl, plays.current, plays.sent,
    plays.unlooking⟩

end Processes

/-! ## Worlds -/

/-- What can happen in a world, as far as it concerns the process with this index. -/
inductive Happens (index : Nat) (world : World) : World → Prop where
  | goesOn : Happens index world (world.wakeProcess index)
  | cancelled : Happens index world (world.cancelWorker index)
  /-- Others do something, or time passes. -/
  | elsewhere {after : World} (now : world.now ≤ after.now)
      (home : after.main.id = world.main.id)
      (same : after.processes[index]? = world.processes[index]?) : Happens index world after

section Worlds
variable {index : Nat} {world after : World}

theorem Apart.happens (apart : Apart index world after) : Happens index world after :=
  .elsewhere (Nat.le_of_eq apart.now.symm) apart.home apart.process

/-- All that happens while a world waits is made of such steps. -/
theorem spans_happens (index : Nat) : Spans (ReflTransGen (Happens index)) where
  refl _ := .refl
  trans := .trans
  wake world task others _ := by
    have called : Happens index world ({ world with ready := others } : World).refresh :=
      .elsewhere (Nat.le_refl _) rfl rfl
    apply (ReflTransGen.single called).tail
    by_cases own : task = .process index
    · subst own
      exact .goesOn
    · exact (World.apart_wake own _).happens
  callBack _ := .single (.elsewhere (Nat.le_refl _) rfl rfl)
  passTo _ _ := .single (.elsewhere (Nat.le_max_left _ _) rfl rfl)

/-- Whatever happens in a world, a worker of it makes moves of its loop. -/
theorem Plays.exists_moves {loop : Loop} {process : Process} (plays : Plays loop world process)
    (there : world.processes[index]? = some process)
    (happened : ReflTransGen (Happens index) world after) :
    ∃ (moves : List Loop.Move) (later : Process), after.processes[index]? = some later ∧
      later.settings = process.settings ∧
      Plays (moves.foldl (Loop.step process.settings.batchSize) loop) after later := by
  induction happened with
  | refl => exact ⟨[], process, there, rfl, plays⟩
  | @tail before after _ last ih =>
      obtain ⟨moves, present, there, same, plays⟩ := ih
      rw [← same] at plays ⊢
      obtain ⟨more, later, there, own, plays⟩ :
          ∃ (more : List Loop.Move) (later : Process), after.processes[index]? = some later ∧
            later.settings = present.settings ∧
            Plays (more.foldl (Loop.step present.settings.batchSize) _) after later := by
        cases last with
        | goesOn =>
            obtain ⟨more, later, there, own, plays, _⟩ := goesOn_wakeProcess plays there
            exact ⟨more, later, there, own, plays⟩
        | cancelled =>
            obtain ⟨there, plays⟩ := plays.cancelWorker there
            exact ⟨[.cancel], _, there, rfl, plays⟩
        | elsewhere now home same =>
            obtain ⟨more, later, there, own, plays, _⟩ :=
              goesOn_elsewhere plays there now home same
            exact ⟨more, later, there, own, plays⟩
      refine ⟨moves ++ more, later, there, own, ?_⟩
      rw [List.foldl_append]
      exact plays

end Worlds

/-! ## Workers in time -/

/-- The worker that was started in a world is where a history has brought its loop. -/
def Tracks (settings : Publisher.Settings) (origin : World) (history : List Loop.Move)
    (world : World) : Prop :=
  ∃ process, world.processes[(origin.startWorker settings).1]? = some process ∧
    process.settings = settings ∧
    Plays (Loop.run settings (origin.now * nanosecondsPerMoment) origin.main history) world process

section Tracks
variable {settings : Publisher.Settings} {origin world after : World} {history : List Loop.Move}

theorem tracks_startWorker (settings : Publisher.Settings)
    (home : origin.main.id = World.mainStore) :
    Tracks settings origin [] (origin.startWorker settings).2 := by
  have idle : (Worker.start settings.interval (origin.now * nanosecondsPerMoment)).activity =
      .idle := rfl
  unfold Tracks World.startWorker
  refine ⟨_, List.getElem?_concat_length, rfl, home, rfl, ?_, rfl, rfl, rfl, ?_, ?_⟩
  · simp [idle]
  · intro publication impossible
    cases impossible
  · simp [idle]

theorem Tracks.happens (tracks : Tracks settings origin history world)
    (happened : ReflTransGen (Happens (origin.startWorker settings).1) world after) :
    ∃ more, Tracks settings origin (history ++ more) after := by
  obtain ⟨process, there, rfl, plays⟩ := tracks
  obtain ⟨more, later, still_there, same, plays⟩ := plays.exists_moves there happened
  refine ⟨more, later, still_there, same, ?_⟩
  rw [Loop.run_append]
  exact plays

theorem Tracks.cancelWorker (tracks : Tracks settings origin history world) :
    Tracks settings origin (history ++ [.cancel])
      (world.cancelWorker (origin.startWorker settings).1) := by
  obtain ⟨process, there, rfl, plays⟩ := tracks
  obtain ⟨still_there, plays⟩ := plays.cancelWorker there
  refine ⟨_, still_there, rfl, ?_⟩
  rw [Loop.run_concat]
  exact plays

/-- Whatever happens in a world, the iterations of a worker of it come one after the other, each not
before its time.  None begins after the worker was cancelled. -/
theorem worker_comes_in_turn (settings : Publisher.Settings)
    (home : origin.main.id = World.mainStore)
    (happened : ReflTransGen (Happens (origin.startWorker settings).1)
      (origin.startWorker settings).2 world) :
    ∃ history, Tracks settings origin history world ∧
      let loop := Loop.run settings (origin.now * nanosecondsPerMoment) origin.main
      (loop history).laps.Pairwise Lap.Precedes ∧
      (∀ index lap, (loop history).laps[index]? = some lap →
        origin.now * nanosecondsPerMoment + Publisher.Ticker.firstWait settings.interval +
          index * Publisher.Ticker.pace settings.interval ≤ lap.begun) ∧
      ∀ later, ReflTransGen (Happens (origin.startWorker settings).1)
          (world.cancelWorker (origin.startWorker settings).1) later →
        ∃ more, Tracks settings origin (history ++ .cancel :: more) later ∧
          (loop (history ++ .cancel :: more)).laps.length = (loop history).laps.length := by
  obtain ⟨history, tracks⟩ := (tracks_startWorker settings home).happens happened
  rw [List.nil_append] at tracks
  have sound := Loop.sound_run settings (origin.now * nanosecondsPerMoment) origin.main history
  refine ⟨history, tracks, sound.pairwise_laps, sound.begun, ?_⟩
  intro later happened_since
  obtain ⟨more, still⟩ := tracks.cancelWorker.happens happened_since
  rw [List.append_assoc, List.singleton_append] at still
  refine ⟨more, still, ?_⟩
  -- In a world nothing comes between the two looks, so no iteration is about to begin.
  obtain ⟨process, _, _, plays⟩ := tracks
  rcases Loop.laps_of_cancelled settings _ _ history more with same | ⟨looking, _⟩
  · exact same
  · rw [plays.worker] at looking
    exact absurd looking plays.unlooking

/-- After a worker was stopped it begins no iteration, for as long as one waits. -/
theorem nothing_begins_after_stop (settings : Publisher.Settings)
    (home : origin.main.id = World.mainStore)
    (happened : ReflTransGen (Happens (origin.startWorker settings).1)
      (origin.startWorker settings).2 world) (milliseconds : Nat) :
    ∃ history more, Tracks settings origin history world ∧
      Tracks settings origin (history ++ .cancel :: more)
        ((world.stopWorker (origin.startWorker settings).1).advance milliseconds) ∧
      (Loop.run settings (origin.now * nanosecondsPerMoment) origin.main
        (history ++ .cancel :: more)).laps.length =
      (Loop.run settings (origin.now * nanosecondsPerMoment) origin.main history).laps.length := by
  obtain ⟨history, tracks, _, _, cancelled⟩ := worker_comes_in_turn settings home happened
  obtain ⟨more, still, same⟩ := cancelled _ (((spans_happens _).awaitWorker _ _ _).trans
    ((spans_happens _).advance milliseconds _))
  exact ⟨history, more, tracks, still, same⟩

end Tracks

end Outbox.Simulation
