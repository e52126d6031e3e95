import Outbox.Bus.Shutdown
import Outbox.Enqueue
import Outbox.Simulation.Clock

/-!
# Actions

What one can do in a world: begin and end transactions through the traced store, enqueue, publish,
run iterations, start and stop workers, subscribe and shut down.  An action that has to wait lets
time pass.  Where an action and a task are due at one moment the action goes on first.
-/

set_option autoImplicit false

namespace Outbox.Simulation

open Publisher (Report)

/-! ## The traced store -/

namespace World

def beginTraced (world : World) : Except Error Transaction × World :=
  match world.trace ⟨.begin, none⟩ with
  | (some error, world) => (.error error, world)
  | (none, world) =>
    let (tx, stores) := world.stores.begin mainStore
    (.ok tx, { world with stores := stores })

/-- Commits a transaction through the traced store.  Its handle is gone afterwards in any case. -/
def commitTraced (world : World) (tx : Transaction) : Except Error Unit × World :=
  match world.trace ⟨.commit, none⟩ with
  | (some error, world) => (.error error, { world with stores := world.stores.drop tx })
  | (none, world) =>
    let (result, stores) := world.stores.commit mainStore tx
    (result, { world with stores := stores })

def enqueue (world : World) (tx : Transaction) (id : Uuid) (topic : String)
    (submission : Submission) : Except Error (Uuid × Transaction) × World :=
  match submission.accept id world.clock topic with
  | .error error => (.error error, world)
  | .ok message =>
    match world.trace ⟨.create, none⟩ with
    | (some error, world) => (.error error, world)
    | (none, world) => ((world.main.create tx message).map fun tx => (message.id, tx), world)

end World

/-! ## Iterations -/

def Progress.result? : Progress → Option (Except Error Report)
  | .waiting _ => none
  | .ended result => some result

def Run.result? (run : Run) : Option (Except Error Report) :=
  match run.state with
  | .delayed _ => none
  | .begun progress => progress.result?

namespace World

/-- Goes on with an iteration, which waits for at most `waits` publications. -/
def awaitIteration (settings : Publisher.Settings) : Nat → Progress → World →
    Option (Except Error Report) × World
  | 0, progress, world => (progress.result?, world)
  | waits + 1, progress, world =>
    match progress with
    | .ended result => (some result, world)
    | .waiting publication =>
      match publication.ending with
      | none => (none, world)
      | some (due, _) =>
        let world := if due ≤ world.now then world.playRound else world.waitUntil due
        let (progress, world) := resume settings world.current world.refresh publication
        awaitIteration settings waits progress world

/-- Runs an iteration for its result.  One that never ends has none. -/
def runOnce (world : World) (settings : Publisher.Settings) :
    Option (Except Error Report) × World :=
  let (progress, world) := proceed settings world.current world.refresh .starting
  awaitIteration settings (world.main.size + 1) progress world

/-- Waits for the runs, at most `waits` times for the next of them that is due. -/
def awaitRuns : Nat → World → World
  | 0, world => world
  | waits + 1, world =>
    let world := world.settle
    match earliest (world.runs.map Run.due?) with
    | none => world
    | some due => awaitRuns waits (world.waitUntil due)

/-- The most waits of a run: for its begin and for one publication of each row. -/
def waitsPerRun (world : World) : Nat :=
  world.main.size + 1

/-- Puts runs at work, each after its delay in milliseconds. -/
def startRuns (world : World) (runs : List (Publisher.Settings × Nat)) : World :=
  { world with
    runs := runs.map fun entry =>
      { settings := entry.1, channel := world.current
        state := .delayed (world.now + Time.pauseOf entry.2), turn := world.turns }
    ready := world.ready ++ (List.range runs.length).map .run }

/-- Runs iterations at the same time, each after its delay in milliseconds.  A run that never ends
has no result. -/
def runAll (world : World) (runs : List (Publisher.Settings × Nat)) :
    List (Option (Except Error Report)) × World :=
  let world := awaitRuns (runs.length * world.waitsPerRun + 1) (world.startRuns runs)
  (world.runs.map Run.result?, { world with runs := [] })

/-! ## Workers -/

def startWorker (world : World) (settings : Publisher.Settings) : Nat × World :=
  let worker := Publisher.Worker.start settings.interval (world.now * nanosecondsPerMoment)
  let process : Process := { settings, channel := world.current, worker, turn := world.turns }
  (world.processes.length,
    { world with processes := world.processes ++ [process], turns := world.turns + 1 })

/-- A worker of this index waits for its next tick, and nothing has made it ready. -/
def isResting (world : World) (index : Nat) : Bool :=
  match world.processes[index]? with
  | some process => process.worker.activity == .idle && !world.isRoused (.process index)
  | none => false

/-- Says to a worker that it is cancelled.  One that waits for its tick becomes ready to learn of
it. -/
def cancelWorker (world : World) (index : Nat) : World :=
  let cancelled := { world with
    processes := world.processes.modify index fun process =>
      { process with worker := process.worker.cancel } }
  if world.isResting index then cancelled.rouse (.process index) else cancelled

def processDue? (world : World) (index : Nat) : Option Nat :=
  world.processes[index]?.bind Process.due?

/-- Waits for the end of a cancelled worker, at most `rounds` times for the end of a publication. -/
def awaitWorker (index : Nat) : Nat → World → World
  | 0, world => world
  | rounds + 1, world =>
    let world := world.settle
    match world.processDue? index with
    | none => world
    | some due => awaitWorker index rounds (world.waitUntil due)

def stopWorker (world : World) (index : Nat) : World :=
  (world.cancelWorker index).awaitWorker index (world.main.size + 2)

/-! ## The bus -/

/-- Publishes an event over the bus in use and waits for the result.  There is none if the bus never
responds. -/
def publish (world : World) (topic : String) (event : Bytes) :
    Option (Except Error Unit) × World :=
  let (response, world) := world.send world.current topic event
  match response with
  | .never => (none, world)
  | .after delay result => (some result, world.waitUntil (world.now + delay))

/-- Subscribes a handler to a topic of the bus in use. -/
def subscribe (world : World) (topic : String) (handler : Handler) : Except Error Unit × World :=
  match world.bus? world.current with
  | none => (.ok (), world)
  | some bus =>
    match bus.subscribe topic handler with
    | .error error => (.error error, world)
    | .ok changed =>
      let world := world.putChannel world.current (.memory changed)
      (.ok (), world.rouse (.subscriber world.current bus.subscriptions.length))

/-- Goes on with the shutdown of a bus, in at most `stages` stages.  While it waits for a task,
those go on that are ready, and then time passes to the end of the call that the task waits for. -/
def finishShutdown (channel : Nat) : Nat → Bus.Shutdown → World → Bus.Shutdown × World
  | 0, shutdown, world => (shutdown, world)
  | stages + 1, shutdown, world =>
    match world.bus? channel with
    | none => (shutdown, world)
    | some bus =>
      let (next, changed) := shutdown.proceed bus
      let world := world.putChannel channel (.memory changed)
      if next ≠ shutdown then finishShutdown channel stages next world
      else
        match shutdown.awaited? with
        | none => (shutdown, world)
        | some task =>
          let world := world.settle
          match world.callOf? channel task with
          | none => finishShutdown channel stages shutdown world
          | some call => finishShutdown channel stages shutdown (world.waitUntil call.due)

/-- The most stages of the shutdown of a bus: for each task one to wait until it can go on, one for
each call that its event in hand may need, and one to go on to the next task. -/
def shutdownStages (bus : Bus.Memory Handler) : Nat :=
  bus.tasks.length * (bus.settings.maxRedeliveries + 3) + 4

/-- Shuts the bus in use down and waits for its subscribers.  Says how far it has come. -/
def shutDown (world : World) : Option Bus.Shutdown × World :=
  match world.bus? world.current with
  | none => (none, world)
  | some bus =>
    let world := (world.putChannel world.current (.memory bus.shutDown)).rouseSubscribers
      world.current (fun _ => true) bus.subscriptions
    let (shutdown, world) := finishShutdown world.current (shutdownStages bus) .called world
    (some shutdown, world)

/-- Puts a bus that forgets everything in the place of the bus in use. -/
def replaceBus (world : World) : World :=
  { world with channels := world.channels ++ [.discard], current := world.channels.length }

/-! ## Handlers -/

def addRecorder (world : World) (recorder : Recorder) : Nat × World :=
  (world.recorders.length, { world with recorders := world.recorders ++ [recorder] })

def handle (world : World) (handler : Handler) (event : Bytes) : Except String Unit × World :=
  match handler with
  | .audit => world.audit event
  | .recorder index =>
    match world.recorders[index]? with
    | none => (.ok (), world)
    | some recorder =>
      let (number, changed) := recorder.begin
      let world := (world.putRecorder index changed).waitUntil
        (world.now + Time.pauseOf recorder.delay)
      world.finishRecorder index number event

end World

end Outbox.Simulation
