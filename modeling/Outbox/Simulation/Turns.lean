import Outbox.Simulation.Publishing

/-!
# Turns

Tasks that are ready go on, one after the other, each until it has to wait.  What they make ready
goes on after them, and a task that lets others go first comes back at the end of a round, behind
those that are ready then.  Nothing here lets time pass: `settle` ends when nobody is left who waits
for nothing.
-/

set_option autoImplicit false

namespace Outbox.Simulation

open Publisher (Worker)

def nanosecondsPerMoment : Nat := 1000000

/-- The most ticks that a worker makes up for at one moment: as many of the shortest periods as the
tolerance holds, and the tick itself. -/
def lateTicks : Nat := 6

def tasksPerRound : Nat := 61

namespace World

/-! ## Workers and runs -/

/-- Puts a changed process in its place, which waits from now on. -/
def putProcess (world : World) (index : Nat) (process : Process) : World :=
  { world with
    processes := world.processes.set index { process with turn := world.turns }
    turns := world.turns + 1 }.giveWay (.process index)

/-- A process whose worker is idle begins the iterations that are due, at most `ticks` of them,
until one of them has to wait.  Before each of them the worker looks whether it is cancelled. -/
def beginIterations (index : Nat) : Nat → Process → World → World
  | 0, process, world => world.putProcess index process
  | ticks + 1, process, world =>
    let now := world.now * nanosecondsPerMoment
    let looked := process.worker.look
    if world.steps ≠ 0 ∧ looked.isDue now then
      let worker := looked.begin now
      match proceed process.settings process.channel world.spend .starting with
      | (.waiting publication, world) =>
        world.putProcess index { process with worker, publication := some publication }
      | (.ended result, world) =>
        beginIterations index ticks { process with worker := worker.finish, publication := none }
          (world.count (Worker.increments result))
    else world.putProcess index { process with worker := looked.rest }

/-- A process goes on: it begins an iteration, or its publication has ended. -/
def wakeProcess (world : World) (index : Nat) : World :=
  match world.processes[index]? with
  | none => world
  | some process =>
    match process.worker.activity, process.publication with
    | .idle, _ => beginIterations index lateTicks process world
    | .running, some publication =>
      match resume process.settings process.channel world publication with
      | (.waiting publication, world) =>
        world.putProcess index { process with publication := some publication }
      | (.ended result, world) =>
        beginIterations index lateTicks
          { process with worker := process.worker.finish, publication := none }
          (world.count (Worker.increments result))
    | _, _ => world

/-- Puts a changed run in its place, which waits from now on unless it has ended. -/
def putRun (world : World) (index : Nat) (run : Run) : World :=
  let world := { world with
    runs := world.runs.set index { run with turn := world.turns }
    turns := world.turns + 1 }
  match run.state with
  | .begun (.ended _) => world
  | _ => world.giveWay (.run index)

/-- A run goes on: it begins, or its publication has ended. -/
def wakeRun (world : World) (index : Nat) : World :=
  match world.runs[index]? with
  | none => world
  | some run =>
    match run.state with
    | .delayed start =>
      if start ≤ world.now then
        let (progress, world) := proceed run.settings run.channel world .starting
        world.putRun index { run with state := .begun progress }
      else world.putRun index run
    | .begun (.waiting publication) =>
      let (progress, world) := resume run.settings run.channel world publication
      world.putRun index { run with state := .begun progress }
    | .begun (.ended _) => world

/-! ## Everybody -/

def wake (world : World) : Task → World
  | .process index => world.wakeProcess index
  | .run index => world.wakeRun index
  | .subscriber channel subscription => world.wakeSubscriber channel subscription

/-- The first of the ready tasks goes on. -/
def wakeFirst (world : World) : World :=
  match world.ready with
  | [] => world
  | task :: others => { world with ready := others }.refresh.wake task

/-- At most so many of the ready tasks go on, one after the other. -/
def wakeMany : Nat → World → World
  | 0, world => world
  | count + 1, world => wakeMany count world.wakeFirst

/-- Those become ready who let others go first, the last of them first. -/
def callBack (world : World) : World :=
  { world with ready := world.ready ++ world.yielding, yielding := [] }

def playRound (world : World) : World :=
  (wakeMany tasksPerRound world).callBack

/-- Ready tasks go on in rounds, at most `rounds` of them, until none is ready. -/
def playRounds : Nat → World → World
  | 0, world => world
  | rounds + 1, world =>
    if world.ready.isEmpty then world else playRounds rounds world.playRound

def waitingEvents : Channel → Nat
  | .memory bus =>
    bus.subscriptions.foldl (fun count subscription => count + subscription.queue.length) 0
  | _ => 0

/-- The most rounds of a task that has no event to take: it comes back for the publication of a row,
and for a tick. -/
def roundsPerTask (world : World) : Nat :=
  lateTicks * (world.main.size + 2)

/-- The most rounds until nobody is ready, once everybody has gone on once. -/
def roundsLeft (world : World) : Nat :=
  world.ready.length * world.roundsPerTask +
    world.channels.foldl (fun count channel => count + waitingEvents channel) 0

/-- Nobody is left who waits for nothing.  First those go on that are ready; they may make
subscribers ready.  From then on a task makes none but itself ready, when no step is left to it. -/
def settle (world : World) : World :=
  let world := playRounds world.ready.length world
  playRounds world.roundsLeft world

end World

end Outbox.Simulation
