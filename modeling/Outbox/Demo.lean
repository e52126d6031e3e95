import Outbox.Config.Source
import Outbox.Json.Text
import Outbox.Simulation.Actions

/-!
# A demonstration

Three fruits are enqueued in one transaction.  A worker publishes them, an audit subscriber records
them, and after three intervals everything is stopped.  In the end the recorded entries and the
counters are shown.
-/

set_option autoImplicit false

namespace Outbox.Demo

open Simulation (Channel World)
open Time (Instant)

/-! ## What is said -/

inductive Notice where
  | configured (settings : Config.Settings)
  | databaseIgnored
  | running
  | recorded (entry : Audit.Entry)
  | counted (metrics : String)

inductive Field where
  | number (value : Int)
  | text (value : String)
  deriving DecidableEq, Repr

structure Line where
  isWarning : Bool := false
  message : String
  fields : List (String × Field) := []
  deriving DecidableEq, Repr

/-- The words for a limit that may be missing. -/
def limitText : Option Time.Span → String
  | none => "None"
  | some limit => "Some(" ++ limit.toText ++ ")"

def dataText (bytes : Bytes) : String :=
  String.ofList ((Utf8.decode? bytes).getD [])

def Notice.line : Notice → Line
  | .configured settings =>
    { message := "configuration loaded"
      fields :=
        [ ("interval", .text settings.workerInterval.toText),
          ("batch_size", .number settings.workerBatchSize),
          ("publish_timeout", .text (limitText settings.publishTimeout)),
          ("backend", .text settings.backend.name) ] }
  | .databaseIgnored =>
    { isWarning := true
      message :=
        "DATABASE_URL is set but postgres support is not enabled; using in-memory store" }
  | .running => { message := "outbox demo running, press ctrl-c to stop" }
  | .recorded entry =>
    { message := "audit log entry"
      fields :=
        [ ("id", .text entry.id.toText),
          ("aggregate_id", .number entry.aggregateId.toInt),
          ("event_type", .text entry.eventType),
          ("data", .text (dataText entry.data)) ] }
  | .counted metrics => { message := "metrics:\n" ++ metrics }

structure Account where
  opening : List Notice := []
  /-- How long the worker is left at work, in milliseconds. -/
  duration : Nat := 0
  closing : List Notice := []
  failure : Option ProgramError := none

/-- What comes of a demonstration. -/
inductive Outcome where
  | ended (account : Account)
  /-- It panics after it has said something. -/
  | panicked (opening : List Notice) (reason : String)

/-! ## What is done -/

def topic : String := "fruit.events"

def fruits : List (Int64 × String) :=
  [(1, "apple"), (2, "pear"), (3, "plum")]

def payload (id : Int64) (name : String) : Bytes :=
  Utf8.encode <|
    '\x7b' :: Json.quote ['i', 'd'] ++ ':' :: (toString id.toInt).toList ++
      ',' :: Json.quote ['n', 'a', 'm', 'e'] ++ ':' :: Json.quote name.toList ++ ['\x7d']

def submission (fruit : Int64 × String) : Submission where
  aggregateId := fruit.1
  aggregateType := "fruit"
  payload := payload fruit.1 fruit.2
  metadata := "fruit.created"

def enqueueAll (clock : Instant) (store : Store) (tx : Transaction) :
    List (Uuid × Submission) → Except Error Transaction
  | [] => .ok tx
  | (id, submission) :: rest =>
    match store.enqueue tx id clock topic submission with
    | .error error => .error error
    | .ok (_, tx) => enqueueAll clock store tx rest

def stock (clock : Instant) (ids : Nat → Uuid) (store : Store) : Except Error Store :=
  let (tx, store) := store.begin
  let submissions := fruits.zipIdx.map fun entry => (ids entry.2, submission entry.1)
  match enqueueAll clock store tx submissions with
  | .error error => .error error
  | .ok tx => store.commit tx

def channel : Config.Backend → Channel
  | .memory => .memory {}
  | .noop => .discard

/-- The world before the worker starts. -/
def prepare (settings : Config.Settings) (clock : Instant) (ids : Nat → Uuid) :
    Except Error World :=
  let world : World :=
    { clock, channels := [channel settings.backend], sink := .registry .forPublisherAndAudit }
  match world.subscribe topic .audit with
  | (.error error, _) => .error error
  | (.ok (), world) =>
    match stock clock ids world.main with
    | .error error => .error error
    | .ok store => .ok (world.putStore store)

/-- The world after a worker was at work for some milliseconds. -/
def operate (settings : Config.Settings) (duration : Nat) (world : World) : World :=
  let (worker, world) := world.startWorker settings.publisher
  ((world.waitUntil (world.now + duration)).stopWorker worker).shutDown.2

def export? : Sink → Option String
  | .registry counters => some counters.text
  | _ => none

def opening (settings : Config.Settings) : List Notice :=
  let ignored := settings.databaseUrl.map fun _ => Notice.databaseIgnored
  .configured settings :: (ignored.toList ++ [.running])

def closing (world : World) : List Notice :=
  world.log.entries.map .recorded ++ ((export? world.sink).map .counted).toList

/-- Why a demonstration panics whose three intervals are longer than a span can be. -/
def overflow : String := "overflow when multiplying duration by scalar"

/-- The demonstration with some settings.  The ids are those of the fruits, in order. -/
def run (settings : Config.Settings) (clock : Instant) (ids : Nat → Uuid) : Outcome :=
  match prepare settings clock ids with
  | .error error => .ended { failure := some (.outbox error) }
  | .ok world =>
    match settings.workerInterval.times? 3 with
    | none => .panicked (opening settings) overflow
    | some stop => .ended {
        opening := opening settings
        duration := stop.pause
        closing := closing (operate settings stop.pause world) }

/-- The demonstration in an environment, to which an environment file may add. -/
def start (environment : Config.Environment) (file : Bytes) (clock : Instant) (ids : Nat → Uuid) :
    Outcome :=
  match Config.Settings.ofEnvironment environment file with
  | .error error => .ended { failure := some error }
  | .ok settings => run settings clock ids

end Outbox.Demo
