import Outbox.Bytes.Fingerprint
import Outbox.Bytes.Utf8
import Outbox.Metrics.Tally

/-!
# Registries

Counters that must be registered by name, with a sentence of help and the names of their labels,
before they count.  A counter tells its samples apart by the fingerprint of their label values, in
which one value follows the other without a mark between them.  An increment finds its counter by
name, in a list that the registry keeps beside the counters that it exports.  A registry is exported
in the Prometheus text format: families by name, the samples of a family by their label values, and
labels by name.
-/

set_option autoImplicit false

namespace Outbox

structure Counter where
  name : String
  help : String
  /-- The names of the labels, in the order of registration. -/
  labelNames : List String
  /-- Counts by label values, which stand in the order of the names. -/
  samples : List (List String × Nat) := []

namespace Counter

/-- The values of a counter's labels in an increment.  A label without a value has the empty one,
the first of several values counts, and other labels are left out. -/
def project (counter : Counter) (labels : List (String × String)) : List String :=
  counter.labelNames.map fun name => ((labels.find? fun label => label.1 = name).map (·.2)).getD ""

/-- The fingerprint of texts that follow one another. -/
def fingerprint (texts : List String) : UInt64 :=
  Bytes.fingerprint (Utf8.encode (texts.flatMap String.toList))

/-- Adds one to the count of the sample with the fingerprint of some label values.  A sample that is
new has these values and starts at zero. -/
def bump (values : List String) : List (List String × Nat) → List (List String × Nat)
  | [] => [(values, 1)]
  | (other, count) :: rest =>
    if fingerprint values = fingerprint other then (other, count + 1) :: rest
    else (other, count) :: bump values rest

def count (counter : Counter) (labels : List (String × String)) : Counter :=
  { counter with samples := bump (counter.project labels) counter.samples }

/-! ## Export -/

/-- A backslash and a line break are escaped in a help text. -/
def escapeHelp (text : String) : String :=
  String.ofList <| text.toList.flatMap fun c =>
    if c = '\\' then ['\\', '\\'] else if c = '\n' then ['\\', 'n'] else [c]

def escapeValue (text : String) : String :=
  String.ofList <| text.toList.flatMap fun c =>
    if c = '\\' then ['\\', '\\'] else if c = '\n' then ['\\', 'n']
    else if c = '"' then ['\\', '"'] else [c]

/-- The labels of a sample in order of their names. -/
def labelsByName (counter : Counter) (values : List String) : List (String × String) :=
  (counter.labelNames.zip values).mergeSort fun a b => textInOrder a.1 b.1

/-- Lists of texts in order of their first difference. -/
def valuesInOrder : List String → List String → Bool
  | [], _ => true
  | _ :: _, [] => false
  | a :: as, b :: bs => if a = b then valuesInOrder as bs else textInOrder a b

/-- The samples with their labels by name, in order of the label values. -/
def sortedSamples (counter : Counter) : List (List (String × String) × Nat) :=
  (counter.samples.map fun sample => (counter.labelsByName sample.1, sample.2)).mergeSort
    fun a b => valuesInOrder (a.1.map (·.2)) (b.1.map (·.2))

def sampleText (counter : Counter) (sample : List (String × String) × Nat) : String :=
  let labels := sample.1.map fun label => label.1 ++ "=\"" ++ escapeValue label.2 ++ "\""
  let braced :=
    if labels.isEmpty then "" else "\x7b" ++ String.intercalate "," labels ++ "\x7d"
  counter.name ++ braced ++ " " ++ toString sample.2 ++ "\n"

def familyText (counter : Counter) : String :=
  "# HELP " ++ counter.name ++ " " ++ escapeHelp counter.help ++ "\n" ++
    "# TYPE " ++ counter.name ++ " counter\n" ++
    String.join (counter.sortedSamples.map counter.sampleText)

end Counter

/-- Why a counter was not registered. -/
inductive RegistrationError where
  /-- The name, the help or the labels are not allowed. -/
  | invalid
  /-- There is a counter of this name, or of a name with the same fingerprint. -/
  | taken
  deriving DecidableEq, Repr

/-- What is exported, and where increments find their counters. -/
structure Registry where
  /-- The exported counters, in the order of registration. -/
  counters : List Counter := []
  /-- Places among these, by name.  Of several entries for a name the first counts. -/
  places : List (String × Nat) := []

namespace Registry

/-- A name starts with a letter, an underscore or a further mark, and goes on with these and digits.
The letters are those of ASCII. -/
def isName (mark : Char → Bool) (name : String) : Bool :=
  let start (c : Char) := c.isAlpha || c == '_' || mark c
  match name.toList with
  | [] => false
  | first :: rest => start first && rest.all fun c => start c || c.isDigit

def isCounterName (name : String) : Bool :=
  isName (· == ':') name

/-- A label's name may not. -/
def isLabelName (name : String) : Bool :=
  isName (fun _ => false) name

/-- No text occurs twice. -/
def areDistinct : List String → Bool
  | [] => true
  | name :: names => !names.contains name && areDistinct names

/-- No further counter of this name can be registered. -/
def isTaken (registry : Registry) (name : String) : Bool :=
  let print := Counter.fingerprint [name]
  registry.counters.any fun counter => Counter.fingerprint [counter.name] == print

/-- A counter without samples. -/
def makeCounter (name help : String) (labelNames : List String) :
    Except RegistrationError Counter :=
  if !isCounterName name || help.isEmpty || !labelNames.all isLabelName ||
      !areDistinct labelNames then
    .error .invalid
  else .ok { name, help, labelNames }

def append (registry : Registry) (counter : Counter) : Registry :=
  { registry with counters := registry.counters ++ [counter] }

/-- Adds a counter to the exported ones. -/
def add (registry : Registry) (counter : Counter) : Except RegistrationError Unit × Registry :=
  if registry.isTaken counter.name then (.error .taken, registry)
  else (.ok (), registry.append counter)

/-- Lets increments find the counter that was added last. -/
def connect (registry : Registry) (name : String) : Registry :=
  { registry with places := (name, registry.counters.length - 1) :: registry.places }

/-- Registers a counter step by step.  What a step has changed stays when a later one fails. -/
def enrol (registry : Registry) (name help : String) (labelNames : List String) :
    Except RegistrationError Unit × Registry :=
  match makeCounter name help labelNames with
  | .error error => (.error error, registry)
  | .ok counter =>
    match registry.add counter with
    | (.error error, registry) => (.error error, registry)
    | (.ok _, registry) => (.ok (), registry.connect name)

def register (registry : Registry) (name help : String) (labelNames : List String) :
    Except RegistrationError Registry :=
  match registry.enrol name help labelNames with
  | (.error error, _) => .error error
  | (.ok _, registry) => .ok registry

def place? (registry : Registry) (name : String) : Option Nat :=
  (registry.places.find? fun entry => entry.1 = name).map (·.2)

/-- Counts an increment of a registered counter; others are left alone. -/
def record (registry : Registry) (increment : Increment) : Registry :=
  match registry.place? increment.name with
  | none => registry
  | some place =>
    { registry with
      counters := registry.counters.modify place fun counter => counter.count increment.labels }

/-- A registry with counters whose names have different fingerprints. -/
def holding (counters : List Counter) : Registry :=
  counters.foldl (fun registry counter => (registry.append counter).connect counter.name) {}

/-- The counters that have samples, in order of their names. -/
def families (registry : Registry) : List Counter :=
  (registry.counters.filter fun counter => !counter.samples.isEmpty).mergeSort
    fun a b => textInOrder a.name b.name

def text (registry : Registry) : String :=
  String.join (registry.families.map Counter.familyText)

def publisherCounters : List Counter :=
  [ { name := Increment.publishedName
      help := "Outbox messages published successfully"
      labelNames := [] },
    { name := Increment.failedName
      help := "Outbox publish attempts that failed"
      labelNames := [] },
    { name := Increment.errorsName
      help := "Application errors by type"
      labelNames := [Increment.sourceLabel] } ]

def auditCounter : Counter where
  name := Increment.recordedName
  help := "Events recorded by the audit history subscriber"
  labelNames := []

def forPublisher : Registry :=
  holding publisherCounters

/-- A registry with the counters of a publisher and an audit subscriber. -/
def forPublisherAndAudit : Registry :=
  holding (publisherCounters ++ [auditCounter])

end Registry

end Outbox
