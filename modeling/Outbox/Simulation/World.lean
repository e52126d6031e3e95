import Outbox.Audit.Subscriber
import Outbox.Bus.Memory
import Outbox.Metrics.Sink
import Outbox.Publisher.Iteration
import Outbox.Publisher.Settings
import Outbox.Publisher.Worker
import Outbox.Simulation.Recorder
import Outbox.Simulation.Script
import Outbox.Store.Stores

/-!
# Worlds

Everything that workers, subscribers and producers share, at one moment of virtual time.  Time
stands still while there is work that waits for nothing; it then passes to the next moment at which
something is due.  Moments are milliseconds since the start of the world.

Whoever works in the background is a task.  A task that waits for a moment has a turn, a number that
it got when it began to wait; at that moment it becomes ready, behind the tasks with lower turns.
Ready tasks go on one after the other, each until it has to wait again or has taken so many steps
that it lets the others go first.  A step is the end of a wait, or an event that a subscriber takes.
-/

set_option autoImplicit false

namespace Outbox.Simulation

open Publisher (Iteration Report)
open Time (Instant)

inductive Handler where
  | audit
  | recorder (index : Nat)
  deriving DecidableEq, Repr

/-- The most steps that a task takes before it lets the others go first. -/
def stepsPerTurn : Nat := 128

inductive Channel where
  | discard
  | memory (bus : Bus.Memory Handler)
  | scripted (script : Script)

/-- The next calls of an operation fail. -/
structure Fault where
  operation : Operation
  error : Error
  /-- So many calls fail. -/
  times : Nat

/-- A call of the main store that took place, or failed because of a fault. -/
structure Traced where
  moment : Nat
  call : Call
  isFault : Bool

structure Sent where
  moment : Nat
  topic : String
  event : Bytes

/-- A publication under way: the iteration that waits for it, and when it ends and how unless it
never does. -/
structure Publication where
  iteration : Iteration
  ending : Option (Nat × Except Error Unit)

inductive Progress where
  | waiting (publication : Publication)
  | ended (result : Except Error Report)

structure Process where
  settings : Publisher.Settings
  channel : Nat
  worker : Publisher.Worker
  publication : Option Publication := none
  turn : Nat

inductive RunState where
  | delayed (start : Nat)
  | begun (progress : Progress)

structure Run where
  settings : Publisher.Settings
  channel : Nat
  state : RunState
  turn : Nat

/-- A recorder at work on the event in the hand of a subscriber. -/
structure HandlerCall where
  channel : Nat
  subscription : Nat
  recorder : Nat
  number : Nat
  event : Bytes
  due : Nat
  turn : Nat

inductive Task where
  | process (index : Nat)
  | run (index : Nat)
  | subscriber (channel subscription : Nat)
  deriving DecidableEq

structure World where
  now : Nat := 0
  clock : Instant
  stores : Stores := .empty
  channels : List Channel
  current : Nat := 0
  sink : Sink
  log : Audit.Log := {}
  /-- The entries of these aggregates cannot be saved. -/
  unsavable : List Int64 := []
  recorders : List Recorder := []
  processes : List Process := []
  runs : List Run := []
  handlerCalls : List HandlerCall := []
  turns : Nat := 0
  /-- The tasks that wait for nothing, in the order in which they go on. -/
  ready : List Task := []
  /-- The tasks that would go on but let all others go first, the last of them in front. -/
  yielding : List Task := []
  /-- The steps that are left to whoever is at work. -/
  steps : Nat := stepsPerTurn
  faults : List Fault := []
  /-- The traced calls, in reverse order. -/
  traced : List Traced := []
  /-- The publications to scripted buses, in reverse order. -/
  sent : List Sent := []

namespace World

def mainStore : StoreId := 0

def main (world : World) : Store :=
  world.stores.store mainStore

def putStore (world : World) (store : Store) : World :=
  { world with stores := world.stores.put store }

def count (world : World) (increments : List Increment) : World :=
  { world with sink := world.sink.recordAll increments }

def putChannel (world : World) (channel : Nat) (state : Channel) : World :=
  { world with channels := world.channels.set channel state }

def rouse (world : World) (task : Task) : World :=
  { world with ready := world.ready ++ [task] }

/-- The task goes on as soon as it is its turn. -/
def isRoused (world : World) (task : Task) : Bool :=
  world.ready.contains task || world.yielding.contains task

/-- Somebody goes to work, with all steps left. -/
def refresh (world : World) : World :=
  { world with steps := stepsPerTurn }

def spend (world : World) : World :=
  { world with steps := world.steps - 1 }

/-- A task that has something left to do, but no step, lets the others go first. -/
def giveWay (world : World) (task : Task) : World :=
  if world.steps = 0 then { world with yielding := task :: world.yielding } else world

/-- Adds a fault behind the others. -/
def inject (world : World) (fault : Fault) : World :=
  { world with faults := world.faults ++ [fault] }

/-- The error of the first fault of an operation, and the faults that are left after it. -/
def takeFault (operation : Operation) : List Fault → Option Error × List Fault
  | [] => (none, [])
  | fault :: faults =>
    if fault.operation = operation ∧ 0 < fault.times then
      (some fault.error, { fault with times := fault.times - 1 } :: faults)
    else
      let (error, faults) := takeFault operation faults
      (error, fault :: faults)

/-- A call of the main store is traced, and fails with an error if there is a fault for it. -/
def trace (world : World) (call : Call) : Option Error × World :=
  let (error, faults) := takeFault call.operation world.faults
  (error, { world with
    faults := faults
    traced := ⟨world.now, call, error.isSome⟩ :: world.traced })

/-- Takes away what was traced and sent, in order. -/
def drain (world : World) : (List Traced × List Sent) × World :=
  ((world.traced.reverse, world.sent.reverse), { world with traced := [], sent := [] })

def saveFault (unsavable : List Int64) (entry : Audit.Entry) : Option ProgramError :=
  if entry.aggregateId ∈ unsavable then some (.outbox (.database "event log is down")) else none

def audit (world : World) (event : Bytes) : Except String Unit × World :=
  let handling := Audit.handle (saveFault world.unsavable) world.log event
  let world := { world with log := handling.log }.count handling.increments
  match handling.refusal with
  | some refusal => (.error refusal.message, world)
  | none => (.ok (), world)

def putRecorder (world : World) (index : Nat) (recorder : Recorder) : World :=
  { world with recorders := world.recorders.set index recorder }

end World

end Outbox.Simulation
