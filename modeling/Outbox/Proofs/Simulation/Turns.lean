import Outbox.Proofs.Simulation.Buses
import Outbox.Proofs.Simulation.Spans

/-!
# Who goes on leaves the others alone

A subscriber that goes on changes no store and no process.  A run or a process changes the main
store, but no process beside itself.  So all that a process notices of the others at one moment is a
store that has changed.  And all that they do to a bus is a history of the bus.
-/

set_option autoImplicit false

namespace Outbox.Simulation

open Publisher (Iteration)

/-! ## Subscribers -/

/-- What subscribers leave as it is. -/
structure Served (world after : World) : Prop where
  now : after.now = world.now
  stores : after.stores = world.stores
  processes : after.processes = world.processes
  rides : ∀ channel, Rides channel world after

namespace Served

theorem refl (world : World) : Served world world :=
  ⟨rfl, rfl, rfl, fun channel => .refl channel world⟩

/-- What changes neither time nor the stores, the processes and the buses. -/
theorem of_same {world after : World} (now : after.now = world.now)
    (stores : after.stores = world.stores) (processes : after.processes = world.processes)
    (channels : after.channels = world.channels) : Served world after :=
  ⟨now, stores, processes, fun _ => .of_channels channels⟩

theorem trans {world next after : World} (first : Served world next)
    (second : Served next after) : Served world after :=
  ⟨second.now.trans first.now, second.stores.trans first.stores,
    second.processes.trans first.processes,
    fun channel => (first.rides channel).trans (second.rides channel)⟩

theorem main {world after : World} (served : Served world after) : after.main = world.main := by
  rw [World.main, served.stores, World.main]

end Served

namespace World

theorem served_modifyBus {world : World} {channel : Nat}
    {change : Bus.Memory Handler → Bus.Memory Handler}
    (rides : ∀ other, Rides other world (world.modifyBus channel change)) :
    Served world (world.modifyBus channel change) := by
  have same : (world.modifyBus channel change).now = world.now ∧
      (world.modifyBus channel change).stores = world.stores ∧
      (world.modifyBus channel change).processes = world.processes := by
    unfold modifyBus
    split <;> exact ⟨rfl, rfl, rfl⟩
  exact ⟨same.1, same.2.1, same.2.2, rides⟩

theorem served_next (world : World) (channel subscription : Nat) :
    Served world (world.modifyBus channel fun bus => bus.next subscription) :=
  served_modifyBus fun other => world.rides_next other channel subscription

theorem served_answerHandler (world : World) (channel subscription : Nat)
    (result : Except String Unit) :
    Served world (world.answerHandler channel subscription result) :=
  served_modifyBus fun other => world.rides_answer other channel subscription result.isOk

theorem served_finishRecorder (world : World) (index number : Nat) (event : Bytes) :
    Served world (world.finishRecorder index number event).2 := by
  unfold finishRecorder
  split
  · exact .of_same rfl rfl rfl rfl
  · exact .refl world

theorem served_audit (world : World) (event : Bytes) : Served world (world.audit event).2 := by
  unfold audit
  dsimp only
  split <;> exact .of_same rfl rfl rfl rfl

theorem served_callHandler (world : World) (channel subscription : Nat) (handler : Handler)
    (event : Bytes) :
    Served world (world.callHandler channel subscription handler event).2 := by
  cases handler with
  | audit => exact world.served_audit event
  | recorder index =>
      unfold callHandler
      dsimp only
      split
      · exact .refl world
      · rename_i recorder _
        have begun : Served world (world.putRecorder index recorder.begin.2) :=
          .of_same rfl rfl rfl rfl
        split
        · exact begun.trans (served_finishRecorder _ index recorder.begin.1 event)
        · exact .of_same rfl rfl rfl rfl

theorem served_handOver (channel subscription calls : Nat) (world : World) :
    Served world (handOver channel subscription calls world) := by
  induction calls generalizing world with
  | zero => exact .refl world
  | succ calls ih =>
      unfold handOver
      split
      · exact .refl world
      · rename_i delivery handler _
        have called := world.served_callHandler channel subscription handler delivery.event
        split
        · rename_i after outcome
          rw [outcome] at called
          exact called
        · rename_i result after outcome
          rw [outcome] at called
          exact (called.trans (after.served_answerHandler channel subscription result)).trans (ih _)

theorem served_finishEvent (world : World) (channel subscription : Nat) :
    Served world (world.finishEvent channel subscription) := by
  unfold finishEvent
  split
  · exact served_handOver channel subscription _ world
  · exact .refl world

theorem served_serveEvents (channel subscription events : Nat) (world : World) :
    Served world (serveEvents channel subscription events world) := by
  induction events generalizing world with
  | zero => exact .of_same rfl rfl rfl rfl
  | succ events ih =>
      unfold serveEvents
      have taken := world.served_next channel subscription
      generalize world.modifyBus channel (fun bus => bus.next subscription) = next at taken
      dsimp only
      split
      · exact taken
      · have handled := taken.trans (next.served_finishEvent channel subscription)
        split
        · exact handled
        · exact handled.trans (ih _)

theorem served_serve (world : World) (channel subscription : Nat) :
    Served world (world.serve channel subscription) := by
  have handled := world.served_finishEvent channel subscription
  unfold serve
  dsimp only
  split
  · exact handled
  · exact handled.trans (served_serveEvents channel subscription _ _)

theorem served_finishCall (world : World) (call : HandlerCall) :
    Served world (world.finishCall call) := by
  unfold finishCall
  dsimp only
  generalize List.filter _ world.handlerCalls = others
  have left : Served world { world with handlerCalls := others } := .of_same rfl rfl rfl rfl
  have finished := served_finishRecorder { world with handlerCalls := others } call.recorder
    call.number call.event
  exact (left.trans finished).trans (served_answerHandler _ call.channel call.subscription _)

theorem served_wakeSubscriber (world : World) (channel subscription : Nat) :
    Served world (world.wakeSubscriber channel subscription) := by
  unfold wakeSubscriber
  split
  · rename_i call _
    split
    · have finished := world.served_finishCall call
      have spent : Served (world.finishCall call) (world.finishCall call).spend :=
        .of_same rfl rfl rfl rfl
      exact (finished.trans spent).trans (served_serve _ channel subscription)
    · exact .refl world
  · exact world.served_serve channel subscription

/-! ## Publications -/

theorem served_send (world : World) (channel : Nat) (topic : String) (event : Bytes) :
    Served world (world.send channel topic event).2 := by
  have same : (world.send channel topic event).2.now = world.now ∧
      (world.send channel topic event).2.stores = world.stores ∧
      (world.send channel topic event).2.processes = world.processes := by
    unfold send
    split
    · split
      · rename_i bus _ _ changed _
        obtain ⟨ready, same⟩ := (world.putChannel channel (.memory changed)).rouseSubscribers_eq
          channel (fun subscription => subscription.topic == topic) bus.subscriptions
        rw [same]
        exact ⟨rfl, rfl, rfl⟩
      · exact ⟨rfl, rfl, rfl⟩
    · exact ⟨rfl, rfl, rfl⟩
    · exact ⟨rfl, rfl, rfl⟩
  exact ⟨same.1, same.2.1, same.2.2, fun other => world.rides_send other channel topic event⟩

/-- The bus counts nothing. -/
theorem sink_send (world : World) (channel : Nat) (topic : String) (event : Bytes) :
    (world.send channel topic event).2.sink = world.sink := by
  unfold send
  split
  · split
    · rename_i bus _ _ changed _
      obtain ⟨ready, same⟩ := (world.putChannel channel (.memory changed)).rouseSubscribers_eq
        channel (fun subscription => subscription.topic == topic) bus.subscriptions
      rw [same]
      rfl
    · rfl
  · rfl
  · rfl

theorem sink_spendOn? {world after : World} {response : Publisher.Response}
    (spent : world.spendOn? response = some after) : after.sink = world.sink := by
  unfold spendOn? at spent
  split at spent
  · cases spent
    rfl
  · split at spent
    · cases spent
    · cases spent
      rfl

theorem served_spendOn? {world after : World} {response : Publisher.Response}
    (spent : world.spendOn? response = some after) : Served world after := by
  unfold spendOn? at spent
  split at spent
  · cases spent
    exact .refl world
  · split at spent
    · cases spent
    · cases spent
      exact .of_same rfl rfl rfl rfl

end World

/-! ## Iterations -/

/-- What a process with this index notices of what the others do at one moment. -/
structure Apart (index : Nat) (world after : World) : Prop where
  now : after.now = world.now
  home : after.main.id = world.main.id
  process : after.processes[index]? = world.processes[index]?
  rides : ∀ channel, Rides channel world after

namespace Apart

theorem refl (index : Nat) (world : World) : Apart index world world :=
  ⟨rfl, rfl, rfl, fun channel => .refl channel world⟩

/-- What changes neither time nor the channels, and leaves the name of the main store. -/
theorem of_same {index : Nat} {world after : World} (now : after.now = world.now)
    (home : after.main.id = world.main.id)
    (process : after.processes[index]? = world.processes[index]?)
    (channels : after.channels = world.channels) : Apart index world after :=
  ⟨now, home, process, fun _ => .of_channels channels⟩

theorem trans {index : Nat} {world next after : World} (first : Apart index world next)
    (second : Apart index next after) : Apart index world after :=
  ⟨second.now.trans first.now, second.home.trans first.home,
    second.process.trans first.process,
    fun channel => (first.rides channel).trans (second.rides channel)⟩

theorem lt_length {index : Nat} {world after : World} (apart : Apart index world after)
    (there : index < world.processes.length) : index < after.processes.length := by
  obtain ⟨placed, _⟩ := List.getElem?_eq_some_iff.mp
    (apart.process.trans (List.getElem?_eq_getElem there))
  exact placed

end Apart

theorem Served.apart {world after : World} (served : Served world after) (index : Nat) :
    Apart index world after :=
  ⟨served.now, congrArg Store.id served.main, congrArg (·[index]?) served.processes, served.rides⟩

namespace World

variable {settings : Publisher.Settings} {channel : Nat} {world : World}

theorem id_main_putStore {store : Store} (same : store.id = world.main.id) :
    (world.putStore store).main.id = world.main.id := by
  simp only [main, putStore, Stores.put]
  split
  · exact same
  · rfl

theorem proceed_traced {iteration : Iteration} {call : Call}
    (calls : iteration.action settings.batchSize = .call call) :
    proceed settings channel world iteration = proceed settings channel
      ((world.trace call).2.putStore (iteration.perform settings.batchSize world.clock
        (world.trace call).1 world.main).2)
      (iteration.perform settings.batchSize world.clock (world.trace call).1 world.main).1 := by
  rw [proceed]
  split <;> simp_all
  rfl

/-- A publication has its result at once and is counted for it, or the iteration waits for it. -/
theorem proceed_sent {iteration : Iteration} {topic : String} {event : Bytes}
    (publishes : iteration.action settings.batchSize = .publish topic event) :
    (∃ ending, proceed settings channel world iteration =
      (.waiting ⟨iteration, ending⟩, (world.send channel topic event).2)) ∨
    ∃ result after, Served world after ∧
      after.sink = world.sink.recordAll (iteration.answer result).2 ∧
      proceed settings channel world iteration =
        proceed settings channel after (iteration.answer result).1 := by
  have sent := world.served_send channel topic event
  rw [proceed]
  split
  · simp_all
  · simp_all
  · rename_i publishes'
    obtain ⟨rfl, rfl⟩ := Publisher.Action.publish.inj (publishes.symm.trans publishes')
    simp only
    split
    · rename_i result after _ spent
      have paid := served_spendOn? spent
      have counted : Served after (after.count (iteration.answer result).2) :=
        .of_same rfl rfl rfl rfl
      refine Or.inr ⟨result, _, (sent.trans paid).trans counted, ?_, rfl⟩
      rw [count, sink_spendOn? spent, sink_send]
    · exact Or.inl ⟨_, rfl⟩

theorem apart_proceed (index : Nat) (settings : Publisher.Settings) (channel : Nat)
    (world : World) (iteration : Iteration) :
    Apart index world (proceed settings channel world iteration).2 := by
  cases action : iteration.action settings.batchSize with
  | stop result =>
      rw [proceed_stop action]
      exact .refl index world
  | call call =>
      have nearer := Iteration.perform_nearer action world.clock (world.trace call).1 world.main
      rw [proceed_traced action]
      have called : Apart index world ((world.trace call).2.putStore (iteration.perform
          settings.batchSize world.clock (world.trace call).1 world.main).2) :=
        .of_same rfl (id_main_putStore (iteration.id_perform _ _ _ _)) rfl rfl
      exact called.trans (apart_proceed index settings channel _ _)
  | publish topic event =>
      rcases proceed_sent action with ⟨ending, waits⟩ | ⟨result, after, served, _, goes_on⟩
      · rw [waits]
        exact (world.served_send channel topic event).apart index
      · have nearer := Iteration.answer_nearer action result
        rw [goes_on]
        exact (served.apart index).trans (apart_proceed index settings channel _ _)
termination_by iteration.rank
decreasing_by
  · exact nearer
  · exact nearer

theorem apart_resume (index : Nat) (settings : Publisher.Settings) (channel : Nat)
    (world : World) (publication : Publication) :
    Apart index world (resume settings channel world publication).2 := by
  unfold resume
  split
  · exact .refl index world
  · rename_i due result _
    split
    · exact .refl index world
    · have answered : Apart index world
          (world.spend.count (publication.iteration.answer result).2) := .of_same rfl rfl rfl rfl
      exact answered.trans (apart_proceed index settings channel _ _)

/-! ## Runs and processes -/

theorem apart_putRun (index : Nat) (world : World) (own : Nat) (run : Run) :
    Apart index world (world.putRun own run) := by
  unfold putRun
  dsimp only
  split
  · exact .of_same rfl rfl rfl rfl
  · unfold giveWay
    split <;> exact .of_same rfl rfl rfl rfl

theorem apart_wakeRun (index : Nat) (world : World) (own : Nat) :
    Apart index world (world.wakeRun own) := by
  unfold wakeRun
  split
  · exact .refl index world
  · rename_i run _
    split
    · split
      · exact (apart_proceed index run.settings run.channel world .starting).trans
          (apart_putRun index _ own _)
      · exact apart_putRun index world own run
    · rename_i publication _
      exact (apart_resume index run.settings run.channel world publication).trans
        (apart_putRun index _ own _)
    · exact .refl index world

theorem apart_putProcess {index other : Nat} (different : other ≠ index) (world : World)
    (process : Process) : Apart index world (world.putProcess other process) := by
  have placed (process : Process) : (world.processes.set other process)[index]? =
      world.processes[index]? := List.getElem?_set_ne different
  unfold putProcess giveWay
  split <;> exact .of_same rfl rfl (placed _) rfl

theorem apart_beginIterations {index other : Nat} (different : other ≠ index) (ticks : Nat)
    (process : Process) (world : World) :
    Apart index world (beginIterations other ticks process world) := by
  induction ticks generalizing process world with
  | zero => exact apart_putProcess different world process
  | succ ticks ih =>
      rw [beginIterations]
      split
      · have began : Apart index world world.spend := .of_same rfl rfl rfl rfl
        have went_on := began.trans
          (apart_proceed index process.settings process.channel world.spend .starting)
        cases outcome : proceed process.settings process.channel world.spend .starting with
        | mk progress after =>
            rw [outcome] at went_on
            cases progress with
            | waiting publication => exact went_on.trans (apart_putProcess different after _)
            | ended result =>
                have counted : Apart index after
                    (after.count (Publisher.Worker.increments result)) := .of_same rfl rfl rfl rfl
                exact (went_on.trans counted).trans (ih _ _)
      · exact apart_putProcess different world _

/-- A process that goes on leaves the other processes alone. -/
theorem apart_wakeProcess {index other : Nat} (different : other ≠ index) (world : World) :
    Apart index world (world.wakeProcess other) := by
  unfold wakeProcess
  split
  · exact .refl index world
  · rename_i process _
    split
    · exact apart_beginIterations different lateTicks process world
    · rename_i publication _ _
      have went_on := apart_resume index process.settings process.channel world publication
      cases outcome : resume process.settings process.channel world publication with
      | mk progress after =>
          rw [outcome] at went_on
          cases progress with
          | waiting publication => exact went_on.trans (apart_putProcess different after _)
          | ended result =>
              have counted : Apart index after
                  (after.count (Publisher.Worker.increments result)) := .of_same rfl rfl rfl rfl
              exact (went_on.trans counted).trans (apart_beginIterations different _ _ _)
    · exact .refl index world

/-- Whoever else goes on, a process notices nothing but changes of the store. -/
theorem apart_wake {index : Nat} {task : Task} (other : task ≠ .process index) (world : World) :
    Apart index world (world.wake task) := by
  cases task with
  | process own =>
      have different : own ≠ index := by
        intro same
        exact other (congrArg Task.process same)
      exact apart_wakeProcess different world
  | run own => exact apart_wakeRun index world own
  | subscriber channel subscription =>
      exact (world.served_wakeSubscriber channel subscription).apart index

/-! ## Buses -/

/-- Some process stands aside whoever goes on, so the bus is left to what was said. -/
theorem rides_wake (channel : Nat) (world : World) (task : Task) :
    Rides channel world (world.wake task) := by
  obtain ⟨index, other⟩ : ∃ index, task ≠ .process index := by
    cases task with
    | process own => exact ⟨own + 1, by simp⟩
    | run own => exact ⟨0, by simp⟩
    | subscriber own subscription => exact ⟨0, by simp⟩
  exact (apart_wake other world).rides channel

/-- All that happens while a world waits leaves a bus to what was said. -/
theorem spans_rides (channel : Nat) : Spans (Rides channel) where
  refl := .refl channel
  trans := .trans
  wake world task others _ := by
    have called : Rides channel world ({ world with ready := others } : World).refresh :=
      .of_channels rfl
    exact called.trans (rides_wake channel _ task)
  callBack _ := .of_channels rfl
  passTo _ _ := .of_channels rfl

end World

end Outbox.Simulation
