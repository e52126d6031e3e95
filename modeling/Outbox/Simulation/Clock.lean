import Outbox.Simulation.Turns

/-!
# The clock

Time passes from one due moment to the next.  At each of them the tasks become ready that have
waited for it, in the order of their turns: the ticks of workers, the begins of runs, the ends of
publications, the ends of recorders' calls.  They take place before time passes on.
-/

set_option autoImplicit false

namespace Outbox.Simulation

/-- When a process goes on, unless it has stopped or waits forever. -/
def Process.due? (process : Process) : Option Nat :=
  match process.worker.activity with
  | .stopped => none
  | .idle | .looking =>
    some ((process.worker.ticker.due + (nanosecondsPerMoment - 1)) / nanosecondsPerMoment)
  | .running =>
    match process.publication with
    | some publication => publication.ending.map Prod.fst
    | none => none

/-- When a run goes on, unless it has ended or waits forever. -/
def Run.due? (run : Run) : Option Nat :=
  match run.state with
  | .delayed start => some start
  | .begun progress => progress.due?

structure Alarm where
  due : Nat
  turn : Nat
  task : Task

def earlier : Option Nat → Option Nat → Option Nat
  | none, b => b
  | a, none => a
  | some a, some b => some (min a b)

/-- The first of several moments. -/
def earliest (moments : List (Option Nat)) : Option Nat :=
  moments.foldl earlier none

namespace World

def processAlarm? (entry : Process × Nat) : Option Alarm :=
  entry.1.due?.map fun due => ⟨due, entry.1.turn, .process entry.2⟩

def runAlarm? (entry : Run × Nat) : Option Alarm :=
  entry.1.due?.map fun due => ⟨due, entry.1.turn, .run entry.2⟩

def callAlarm (call : HandlerCall) : Alarm :=
  ⟨call.due, call.turn, .subscriber call.channel call.subscription⟩

def alarms (world : World) : List Alarm :=
  world.processes.zipIdx.filterMap processAlarm? ++ world.runs.zipIdx.filterMap runAlarm? ++
    world.handlerCalls.map callAlarm

def nextMoment? (world : World) : Option Nat :=
  earliest (world.alarms.map fun alarm => some alarm.due)

/-- It is that moment, unless it is later already, and the tasks that are due by then become ready
in the order of their turns. -/
def passTo (world : World) (moment : Nat) : World :=
  let due := (world.alarms.filter fun alarm => decide (alarm.due ≤ moment)).mergeSort
    fun a b => decide (a.turn ≤ b.turn)
  { world with now := max world.now moment, ready := world.ready ++ due.map Alarm.task }

/-- Everything takes place that is due before `limit`, at no more than `moments` moments. -/
def passBefore (limit : Nat) : Nat → World → World
  | 0, world => world
  | moments + 1, world =>
    let world := world.settle
    match world.nextMoment? with
    | none => world
    | some due => if due < limit then passBefore limit moments (world.passTo due) else world

/-- Everything that is due before a moment takes place; then it is that moment. -/
def waitUntil (world : World) (moment : Nat) : World :=
  if moment ≤ world.now then world
  else (passBefore moment (moment - world.now) world).passTo moment

/-- Time passes, and everything takes place that is due by the end. -/
def advance (world : World) (milliseconds : Nat) : World :=
  (world.waitUntil (world.now + Time.pauseOf milliseconds)).settle

end World

end Outbox.Simulation
