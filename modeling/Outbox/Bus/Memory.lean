import Outbox.Bytes.Basic
import Outbox.Error

/-!
# A bus in memory

Events fan out to the subscribers of their topic.  Each subscriber has a queue and handles one
event after the other.  An event that its handler refuses is handed over again at once, up to a
limit, and then given up.  A persistent bus keeps all events and hands the earlier ones of a topic
to a new subscriber first.

After the bus was shut down it lets no request in.  A subscriber carries on with the event in its
hand and leaves the others in its queue: before it takes an event it looks whether the bus was shut
down.  A request that was let in before may still take effect.  To subscribe takes two steps: the
subscriber is set to work, and then the bus takes note of its task, so that a shutdown waits for it.
-/

set_option autoImplicit false

namespace Outbox.Bus

/-- How a bus in memory works. -/
structure Settings where
  persistent : Bool := true
  /-- How often a refused event is handed over again. -/
  maxRedeliveries : Nat := 3
  deriving DecidableEq, Repr

/-- An event in the hand of a subscriber. -/
structure Delivery where
  event : Bytes
  refusals : Nat := 0
  deriving DecidableEq

/-- A subscriber: who handles its events, what waits for it, and what it is at. -/
structure Subscription (Handler : Type) where
  topic : String
  handler : Handler
  queue : List Bytes := []
  inHand : Option Delivery := none
  /-- The subscriber is on the list of its topic. -/
  listed : Bool := true
  /-- The subscriber has seen that the bus is open, and has yet to take an event. -/
  looking : Bool := false
  /-- The subscriber has left. -/
  ended : Bool := false

/-- The bus with its subscribers in the order in which they came. -/
structure Memory (Handler : Type) where
  settings : Settings := {}
  history : List (String × Bytes) := []
  subscriptions : List (Subscription Handler) := []
  /-- The subscribers, by their numbers, whose tasks the bus has taken note of. -/
  tasks : List Nat := []
  isShutDown : Bool := false

namespace Subscription

variable {Handler : Type}

/-- The events of its topic still come to the subscriber. -/
def receives (subscription : Subscription Handler) : Bool :=
  subscription.listed && !subscription.ended

/-- Puts an event into the queue of a subscriber of its topic. -/
def offer (topic : String) (event : Bytes) (subscription : Subscription Handler) :
    Subscription Handler :=
  if subscription.topic = topic ∧ subscription.receives = true then
    { subscription with queue := subscription.queue ++ [event] }
  else subscription

/-- A subscriber with nothing in hand looks whether the bus was shut down, and leaves then. -/
def look (isShutDown : Bool) (subscription : Subscription Handler) : Subscription Handler :=
  match subscription.inHand with
  | some _ => subscription
  | none =>
    if isShutDown then { subscription with looking := false, ended := true }
    else { subscription with looking := true }

/-- A subscriber that has looked takes the next event in hand, or waits for one. -/
def take (subscription : Subscription Handler) : Subscription Handler :=
  match subscription.inHand, subscription.looking, subscription.queue with
  | none, true, event :: queue =>
    { subscription with looking := false, queue := queue, inHand := some { event := event } }
  | _, _, _ => { subscription with looking := false }

/-- Takes the next event in hand.  A subscriber of a bus that was shut down leaves instead. -/
def next (isShutDown : Bool) (subscription : Subscription Handler) : Subscription Handler :=
  (subscription.look isShutDown).take

/-- Takes what the handler says about the event in hand.  A refused event stays in hand until it was
handed over once and as often again as the limit allows. -/
def answer (maxRedeliveries : Nat) (accepted : Bool) (subscription : Subscription Handler) :
    Subscription Handler :=
  match subscription.inHand with
  | none => subscription
  | some delivery =>
    if accepted ∨ maxRedeliveries ≤ delivery.refusals then { subscription with inHand := none }
    else
      { subscription with inHand := some { delivery with refusals := delivery.refusals + 1 } }

/-- Takes the subscriber off the list of its topic. -/
def unlist (subscription : Subscription Handler) : Subscription Handler :=
  { subscription with listed := false }

end Subscription

namespace Memory

variable {Handler : Type}

def shutDownError : Error :=
  .eventBus "in-memory bus is shut down"

/-- Lets a request in, unless the bus was shut down. -/
def ensureOpen (bus : Memory Handler) : Except Error Unit :=
  if bus.isShutDown then .error shutDownError else .ok ()

def kept (bus : Memory Handler) (topic : String) : List Bytes :=
  (bus.history.filter fun entry => entry.1 = topic).map Prod.snd

/-- Takes an event for the subscribers of its topic. -/
def put (bus : Memory Handler) (topic : String) (event : Bytes) : Memory Handler :=
  { bus with
    history := if bus.settings.persistent then bus.history ++ [(topic, event)] else bus.history
    subscriptions := bus.subscriptions.map (Subscription.offer topic event) }

/-- Sets a subscriber to work, for whom the kept events of the topic wait. -/
def engage (bus : Memory Handler) (topic : String) (handler : Handler) : Memory Handler :=
  { bus with
    subscriptions := bus.subscriptions ++ [{ topic, handler, queue := bus.kept topic }] }

/-- Takes note of the task of a subscriber. -/
def register (bus : Memory Handler) (index : Nat) : Memory Handler :=
  { bus with tasks := bus.tasks ++ [index] }

def publish (bus : Memory Handler) (topic : String) (event : Bytes) :
    Except Error (Memory Handler) :=
  bus.ensureOpen.map fun _ => bus.put topic event

/-- Adds a subscriber. -/
def subscribe (bus : Memory Handler) (topic : String) (handler : Handler) :
    Except Error (Memory Handler) :=
  bus.ensureOpen.map fun _ => (bus.engage topic handler).register bus.subscriptions.length

/-- Lets nothing more in from now on. -/
def shutDown (bus : Memory Handler) : Memory Handler :=
  { bus with isShutDown := true }

/-- Takes all subscribers off the lists of their topics. -/
def clear (bus : Memory Handler) : Memory Handler :=
  { bus with subscriptions := bus.subscriptions.map Subscription.unlist }

/-- The task of a subscriber has come to its end. -/
def hasLeft (bus : Memory Handler) (index : Nat) : Bool :=
  bus.subscriptions[index]?.any Subscription.ended

def modify (bus : Memory Handler) (index : Nat)
    (change : Subscription Handler → Subscription Handler) : Memory Handler :=
  { bus with subscriptions := bus.subscriptions.modify index change }

def look (bus : Memory Handler) (index : Nat) : Memory Handler :=
  bus.modify index (Subscription.look bus.isShutDown)

def take (bus : Memory Handler) (index : Nat) : Memory Handler :=
  bus.modify index Subscription.take

def next (bus : Memory Handler) (index : Nat) : Memory Handler :=
  bus.modify index (Subscription.next bus.isShutDown)

def answer (bus : Memory Handler) (index : Nat) (accepted : Bool) : Memory Handler :=
  bus.modify index (Subscription.answer bus.settings.maxRedeliveries accepted)

end Memory

end Outbox.Bus
