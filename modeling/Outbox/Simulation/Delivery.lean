import Outbox.Simulation.World

/-!
# Delivery

Subscribers at work: each of them takes events in hand and calls its handler, one call after the
other, until its queue is empty or a recorder takes its time, or no step is left to it.  An event
that is sent to a bus makes the subscribers ready that waited for one.  So does the shutdown of a
bus.
-/

set_option autoImplicit false

namespace Outbox.Simulation

/-- The most calls of its handler that an event in hand still needs. -/
def callsLeft (maxRedeliveries : Nat) (delivery : Bus.Delivery) : Nat :=
  maxRedeliveries + 1 - delivery.refusals

namespace World

def bus? (world : World) (channel : Nat) : Option (Bus.Memory Handler) :=
  match world.channels[channel]? with
  | some (.memory bus) => some bus
  | _ => none

def modifyBus (world : World) (channel : Nat)
    (change : Bus.Memory Handler → Bus.Memory Handler) : World :=
  match world.bus? channel with
  | some bus => world.putChannel channel (.memory (change bus))
  | none => world

/-- The event in the hand of a subscriber, and its handler. -/
def inHand? (world : World) (channel subscription : Nat) : Option (Bus.Delivery × Handler) := do
  let bus ← world.bus? channel
  let subscription ← bus.subscriptions[subscription]?
  let delivery ← subscription.inHand
  some (delivery, subscription.handler)

def callOf? (world : World) (channel subscription : Nat) : Option HandlerCall :=
  world.handlerCalls.find? fun call =>
    call.channel == channel && call.subscription == subscription

def finishRecorder (world : World) (index number : Nat) (event : Bytes) :
    Except String Unit × World :=
  match world.recorders[index]? with
  | some recorder =>
    let (result, recorder) := recorder.finish number event
    (result, world.putRecorder index recorder)
  | none => (.ok (), world)

/-- Calls the handler of a subscriber.  The call of a recorder that takes its time has no result
yet. -/
def callHandler (world : World) (channel subscription : Nat) (handler : Handler) (event : Bytes) :
    Option (Except String Unit) × World :=
  match handler with
  | .audit =>
    let (result, world) := world.audit event
    (some result, world)
  | .recorder index =>
    match world.recorders[index]? with
    | none => (some (.ok ()), world)
    | some recorder =>
      let (number, changed) := recorder.begin
      let world := world.putRecorder index changed
      if recorder.delay = 0 then
        let (result, world) := world.finishRecorder index number event
        (some result, world)
      else
        let call : HandlerCall :=
          { channel, subscription, recorder := index, number, event
            due := world.now + Time.pauseOf recorder.delay, turn := world.turns }
        (none, { world with
          handlerCalls := world.handlerCalls ++ [call]
          turns := world.turns + 1 })

def answerHandler (world : World) (channel subscription : Nat) (result : Except String Unit) :
    World :=
  world.modifyBus channel fun bus => bus.answer subscription result.isOk

/-- A subscriber makes at most `calls` calls of its handler for the event in its hand. -/
def handOver (channel subscription : Nat) : Nat → World → World
  | 0, world => world
  | calls + 1, world =>
    match world.inHand? channel subscription with
    | none => world
    | some (delivery, handler) =>
      match world.callHandler channel subscription handler delivery.event with
      | (none, world) => world
      | (some result, world) =>
        handOver channel subscription calls (world.answerHandler channel subscription result)

/-- A subscriber makes the calls of its handler that the event in its hand needs. -/
def finishEvent (world : World) (channel subscription : Nat) : World :=
  match world.bus? channel, world.inHand? channel subscription with
  | some bus, some (delivery, _) =>
    handOver channel subscription (callsLeft bus.settings.maxRedeliveries delivery) world
  | _, _ => world

/-- A subscriber that has no event in its hand takes and handles at most `events` events, and then
lets all others go first. -/
def serveEvents (channel subscription : Nat) : Nat → World → World
  | 0, world => { world with yielding := .subscriber channel subscription :: world.yielding }
  | events + 1, world =>
    let world := world.modifyBus channel fun bus => bus.next subscription
    match world.inHand? channel subscription with
    | none => world
    | some _ =>
      let world := world.finishEvent channel subscription
      match world.callOf? channel subscription with
      | some _ => world
      | none => serveEvents channel subscription events world

/-- A subscriber works until it must wait. -/
def serve (world : World) (channel subscription : Nat) : World :=
  let world := world.finishEvent channel subscription
  match world.callOf? channel subscription with
  | some _ => world
  | none => serveEvents channel subscription world.steps world

def finishCall (world : World) (call : HandlerCall) : World :=
  let others := world.handlerCalls.filter fun other =>
    !(other.channel == call.channel && other.subscription == call.subscription)
  let (result, world) :=
    { world with handlerCalls := others }.finishRecorder call.recorder call.number call.event
  world.answerHandler call.channel call.subscription result

/-- A subscriber goes on: the call that it waits for has ended, or there are events for it. -/
def wakeSubscriber (world : World) (channel subscription : Nat) : World :=
  match world.callOf? channel subscription with
  | some call =>
    if call.due ≤ world.now then (world.finishCall call).spend.serve channel subscription else world
  | none => world.serve channel subscription

/-- A subscriber waits for events and for nothing else. -/
def isIdle (world : World) (channel index : Nat) (subscription : Bus.Subscription Handler) : Bool :=
  !subscription.ended && subscription.inHand.isNone &&
    !world.isRoused (.subscriber channel index)

/-- The subscribers that wait for events become ready, as far as they are concerned. -/
def rouseSubscribers (world : World) (channel : Nat)
    (concerns : Bus.Subscription Handler → Bool)
    (subscriptions : List (Bus.Subscription Handler)) : World :=
  subscriptions.zipIdx.foldl (fun world entry =>
    if concerns entry.1 = true ∧ world.isIdle channel entry.2 entry.1 then
      world.rouse (.subscriber channel entry.2)
    else world) world

def send (world : World) (channel : Nat) (topic : String) (event : Bytes) :
    Publisher.Response × World :=
  match world.channels[channel]? with
  | some (.memory bus) =>
    match bus.publish topic event with
    | .ok changed =>
      (.immediate (.ok ()),
        (world.putChannel channel (.memory changed)).rouseSubscribers channel
          (fun subscription => subscription.topic == topic) bus.subscriptions)
    | .error error => (.immediate (.error error), world)
  | some (.scripted script) =>
    let (response, script) := script.respond topic event
    let world := { world with sent := ⟨world.now, topic, event⟩ :: world.sent }
    (response, world.putChannel channel (.scripted script))
  | _ => (.immediate (.ok ()), world)

end World

end Outbox.Simulation
