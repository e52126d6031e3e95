import Outbox.Config.Settings
import Outbox.Proofs.Envelope
import Outbox.Proofs.Metrics.Tally
import Outbox.Proofs.Simulation.Waiting

/-!
# An audit beside an iteration

In a world with one bus, on which an audit subscriber waits unless the bus forgets everything, an
iteration that nothing disturbs publishes its batch and ends.  What it has published waits for the
subscriber, which is ready then, takes the events one after the other and keeps an entry of each.
-/

set_option autoImplicit false

namespace Outbox.Simulation

open Publisher (Iteration Solo)

/-- A bus in memory with an audit subscriber, for which events wait, or a bus that forgets. -/
def station (backend : Config.Backend) (topic : String) (history : List (String × Bytes))
    (queue : List Bytes) : Channel :=
  match backend with
  | .memory =>
    .memory { history, subscriptions := [{ topic, handler := .audit, queue }], tasks := [0] }
  | .noop => .discard

/-- The subscriber goes on if an event waits for it. -/
def summons (backend : Config.Backend) (queue : List Bytes) : List Task :=
  match backend, queue with
  | .memory, _ :: _ => [.subscriber 0 0]
  | _, _ => []

/-- A world with nothing but one bus, which is in use, and whose calls do not fail. -/
structure World.Attended (world : World) (bus : Channel) : Prop where
  channels : world.channels = [bus]
  current : world.current = 0
  faults : world.faults = []
  unsavable : world.unsavable = []
  runs : world.runs = []
  handlerCalls : world.handlerCalls = []
  home : world.main.id = World.mainStore

/-- The events of the letters to a topic. -/
def eventsTo (topic : String) (letters : List (String × Bytes)) : List Bytes :=
  (letters.filter fun letter => letter.1 = topic).map Prod.snd

/-! ## Publishing -/

section Publishing
variable {backend : Config.Backend} {topic : String} {history : List (String × Bytes)}
variable {queue : List Bytes} {world : World}

/-- Letters have been published, and nothing else has happened. -/
structure Posted (backend : Config.Backend) (topic : String) (history : List (String × Bytes))
    (queue : List Bytes) (world after : World) (letters : List (String × Bytes)) : Prop where
  attended : after.Attended
    (station backend topic (history ++ letters) (queue ++ eventsTo topic letters))
  ready : after.ready = summons backend (queue ++ eventsTo topic letters)
  yielding : after.yielding = []
  sink : after.sink = world.sink.recordAll (List.replicate letters.length .published)
  now : after.now = world.now
  clock : after.clock = world.clock
  processes : after.processes = world.processes
  log : after.log = world.log
  steps : after.steps = world.steps

theorem World.with_same {channels : List Channel} {ready : List Task}
    (same : world.channels = channels) (idle : world.ready = ready) :
    { world with channels, ready } = world := by
  subst same idle
  rfl

/-- A publication puts an event behind the others, and makes the subscriber ready. -/
theorem send_attended (attended : world.Attended (station backend topic history queue))
    (ready : world.ready = summons backend queue) (yielding : world.yielding = [])
    (name : String) (event : Bytes) :
    world.send 0 name event = (.immediate (.ok ()), { world with
      channels := [station backend topic (history ++ [(name, event)])
        (queue ++ eventsTo topic [(name, event)])]
      ready := summons backend (queue ++ eventsTo topic [(name, event)]) }) := by
  have channels := attended.channels
  cases backend with
  | noop =>
      have forgotten : world.send 0 name event = (.immediate (.ok ()), world) := by
        simp [World.send, channels, station]
      rw [forgotten]
      exact congrArg _ (World.with_same channels ready).symm
  | memory =>
      by_cases addressed : topic = name
      · subst addressed
        have appended : eventsTo topic [(topic, event)] = [event] := by simp [eventsTo]
        -- A subscriber for which other events wait is ready already.
        cases queue <;>
          simp [World.send, channels, station, ready, yielding, summons, appended,
            Bus.Memory.publish, Bus.Memory.ensureOpen, Except.map, Bus.Memory.put,
            Bus.Subscription.offer, Bus.Subscription.receives, World.putChannel,
            World.rouseSubscribers, World.isIdle, World.isRoused, World.rouse]
      · have kept : eventsTo topic [(name, event)] = [] := by simp [eventsTo, Ne.symm addressed]
        simp [World.send, channels, station, ready, kept, Bus.Memory.publish,
          Bus.Memory.ensureOpen, Except.map, Bus.Memory.put, Bus.Subscription.offer,
          World.putChannel, World.rouseSubscribers, addressed]

theorem eventsTo_append (topic : String) (first second : List (String × Bytes)) :
    eventsTo topic (first ++ second) = eventsTo topic first ++ eventsTo topic second := by
  simp [eventsTo]

/-- Nothing is published by a call of the store. -/
theorem posted_of_call (attended : world.Attended (station backend topic history queue))
    (ready : world.ready = summons backend queue) (yielding : world.yielding = []) {store : Store}
    (home : store.id = World.mainStore) (traced : List Traced) :
    Posted backend topic history queue world
      ({ world with faults := [], traced := traced }.putStore store) [] := by
  have kept : ({ world with faults := [], traced := traced }.putStore store).main.id =
      World.mainStore := by rw [World.main_putStore _ home, home]
  constructor
  case attended =>
    rw [eventsTo, List.filter_nil, List.map_nil, List.append_nil, List.append_nil]
    exact { attended with faults := rfl, home := kept }
  all_goals simp [eventsTo, ready, yielding, World.putStore, Sink.recordAll]

theorem posted_of_publication (attended : world.Attended (station backend topic history queue))
    (yielding : world.yielding = []) (name : String) (event : Bytes) :
    Posted backend topic history queue world
      ({ world with
        channels := [station backend topic (history ++ [(name, event)])
          (queue ++ eventsTo topic [(name, event)])]
        ready := summons backend (queue ++ eventsTo topic [(name, event)]) }.count [.published])
      [(name, event)] := by
  constructor
  case attended => exact { attended with channels := rfl }
  all_goals simp [yielding, World.count]

theorem Posted.trans {next after : World} {first second : List (String × Bytes)}
    (earlier : Posted backend topic history queue world next first)
    (later : Posted backend topic (history ++ first) (queue ++ eventsTo topic first) next after
      second) : Posted backend topic history queue world after (first ++ second) where
  attended := by
    rw [eventsTo_append, ← List.append_assoc, ← List.append_assoc]
    exact later.attended
  ready := by
    rw [eventsTo_append, ← List.append_assoc]
    exact later.ready
  yielding := later.yielding
  sink := by
    rw [later.sink, earlier.sink, ← Sink.recordAll_append, List.length_append,
      List.replicate_append_replicate]
  now := later.now.trans earlier.now
  clock := later.clock.trans earlier.clock
  processes := later.processes.trans earlier.processes
  log := later.log.trans earlier.log
  steps := later.steps.trans earlier.steps

/-- What publishes has its answer counted as a publication. -/
theorem increments_answer {iteration : Iteration} {batchSize : Nat} {name : String} {event : Bytes}
    (publishes : iteration.action batchSize = .publish name event) :
    (iteration.answer (.ok ())).2 = [.published] := by
  cases iteration with
  | publishing tx attempts message waiting => rfl
  | _ => simp [Iteration.action] at publishes

/-- An iteration of a world has ended as one on its own does that is always answered well, and what
it has sent is posted. -/
structure Finished (backend : Config.Backend) (topic : String) (history : List (String × Bytes))
    (queue : List Bytes) (world : World) (earlier : List (String × Bytes))
    (outcome : Progress × World) (solo : Solo) : Prop where
  ended : ∃ result, outcome.1 = .ended result ∧ solo.iteration = .ended result
  main : outcome.2.main = solo.store
  posted : ∃ letters, solo.sent = earlier ++ letters ∧
    Posted backend topic history queue world outcome.2 letters

theorem Finished.after {next : World} {outcome : Progress × World} {solo : Solo}
    {first earlier : List (String × Bytes)}
    (step : Posted backend topic history queue world next first)
    (finished : Finished backend topic (history ++ first) (queue ++ eventsTo topic first) next
      (earlier ++ first) outcome solo) :
    Finished backend topic history queue world earlier outcome solo where
  ended := finished.ended
  main := finished.main
  posted := by
    obtain ⟨letters, sent, posted⟩ := finished.posted
    exact ⟨first ++ letters, by rw [sent, List.append_assoc], step.trans posted⟩

/-- An iteration that nothing disturbs goes on to its end. -/
theorem proceed_attended (settings : Publisher.Settings) {now : Time.Instant}
    {history : List (String × Bytes)} {queue : List Bytes} (world : World) (solo : Solo)
    (attended : world.Attended (station backend topic history queue))
    (ready : world.ready = summons backend queue) (yielding : world.yielding = [])
    (clock : world.clock = now) (main : world.main = solo.store) :
    Finished backend topic history queue world solo.sent
      (World.proceed settings 0 world solo.iteration)
      (solo.finish ⟨settings.batchSize, now, fun _ => .ok ()⟩) := by
  subst clock
  cases action : solo.iteration.action settings.batchSize with
  | stop result =>
      rw [proceed_stop action, Solo.finish_stop action]
      refine ⟨⟨result, rfl, Iteration.ended_of_stop action⟩, main, [], by simp, ?_⟩
      constructor <;> simp_all [eventsTo, Sink.recordAll]
  | call call =>
      have own : (solo.iteration.perform settings.batchSize world.clock none solo.store).2.id =
          World.mainStore := by
        rw [Iteration.id_perform, ← main]
        exact attended.home
      have step := posted_of_call attended ready yielding own
        (⟨world.now, call, false⟩ :: world.traced)
      have next := proceed_attended settings _
        (solo.afterCall ⟨settings.batchSize, world.clock, fun _ => .ok ()⟩)
        step.attended step.ready step.yielding step.clock (World.main_putStore _ own)
      have sent : (solo.afterCall ⟨settings.batchSize, world.clock, fun _ => .ok ()⟩).sent =
          solo.sent ++ [] := by simp [Solo.afterCall]
      rw [proceed_call action (World.trace_of_faultless attended.faults call),
        Solo.finish_call action]
      rw [sent] at next
      have same : World.main { world with
          faults := [], traced := ⟨world.now, call, false⟩ :: world.traced } = solo.store := main
      rw [same]
      exact next.after step
  | publish name event =>
      have step := posted_of_publication attended yielding name event
      have next := proceed_attended settings _
        (solo.afterAnswer ⟨settings.batchSize, world.clock, fun _ => .ok ()⟩ name event)
        step.attended step.ready step.yielding step.clock main
      rw [proceed_publish action (send_attended attended ready yielding name event),
        Solo.finish_publish action, increments_answer action]
      exact next.after step
termination_by solo.iteration.rank
decreasing_by
  · exact Iteration.perform_nearer action _ none solo.store
  · exact Iteration.answer_nearer action _

end Publishing

/-! ## Serving -/

/-- The world with another bus. -/
def World.onBus (world : World) (bus : Channel) : World :=
  { world with channels := [bus] }

/-- The world after entries of these events were kept. -/
def World.recorded (world : World) (events : List Event) : World :=
  { world with
    log := { saved := world.log.saved ++ events.map Audit.Entry.ofEvent }
    sink := world.sink.recordAll (List.replicate events.length .recorded) }

theorem onBus_same {world : World} {bus : Channel} (same : world.channels = [bus]) :
    world.onBus bus = world := by
  rw [World.onBus, ← same]

theorem World.recorded_nil (world : World) : world.recorded [] = world := by
  simp [World.recorded, Sink.recordAll]

theorem World.recorded_cons (world : World) (event : Event) (rest : List Event) :
    (world.recorded [event]).recorded rest = world.recorded (event :: rest) := by
  simp [World.recorded, Sink.recordAll, List.replicate_succ]

section Serving
variable {topic : String} {history : List (String × Bytes)} {world : World}

/-- The subscriber has an event in its hand, and others wait. -/
def busyStation (topic : String) (history : List (String × Bytes)) (event : Bytes)
    (queue : List Bytes) : Channel :=
  .memory
    { history, tasks := [0]
      subscriptions := [{ topic, handler := .audit, queue, inHand := some { event } }] }

theorem modifyBus_next_idle (channels : world.channels = [station .memory topic history []]) :
    world.modifyBus 0 (fun bus => bus.next 0) = world := by
  rw [← onBus_same channels]
  rfl

theorem modifyBus_next {event : Bytes} {queue : List Bytes}
    (channels : world.channels = [station .memory topic history (event :: queue)]) :
    world.modifyBus 0 (fun bus => bus.next 0) =
      world.onBus (busyStation topic history event queue) := by
  simp [World.modifyBus, World.bus?, channels, station, busyStation, World.putChannel,
    Bus.Memory.next, Bus.Memory.modify, Bus.Subscription.next, Bus.Subscription.look,
    Bus.Subscription.take, World.onBus]

theorem inHand?_idle {queue : List Bytes}
    (channels : world.channels = [station .memory topic history queue]) :
    world.inHand? 0 0 = none := by
  simp [World.inHand?, World.bus?, channels, station]

theorem inHand?_busy {event : Bytes} {queue : List Bytes}
    (channels : world.channels = [busyStation topic history event queue]) :
    world.inHand? 0 0 = some ({ event }, .audit) := by
  simp [World.inHand?, World.bus?, channels, busyStation]

theorem answerHandler_ok {event : Bytes} {queue : List Bytes}
    (channels : world.channels = [busyStation topic history event queue]) :
    world.answerHandler 0 0 (.ok ()) = world.onBus (station .memory topic history queue) := by
  simp [World.answerHandler, World.modifyBus, World.bus?, channels, busyStation, station,
    World.putChannel, Bus.Memory.answer, Bus.Memory.modify, Bus.Subscription.answer, Except.isOk,
    Except.toBool, World.onBus]

/-- The audit keeps an entry of an event that is new to it. -/
theorem audit_new {event : Event} (savable : world.unsavable = [])
    (new : event.id ∉ world.log.saved.map Audit.Entry.id) :
    world.audit event.encode = (.ok (), world.recorded [event]) := by
  have unknown : world.log.get? (Audit.Entry.ofEvent event).id = none := by
    rw [Audit.Log.get?, List.find?_eq_none]
    intro entry member same
    have known : entry.id = event.id := of_decide_eq_true same
    exact new (known ▸ List.mem_map_of_mem member)
  have saved : world.log.save (Audit.Entry.ofEvent event) =
      (true, { saved := world.log.saved ++ [Audit.Entry.ofEvent event] }) := by
    rw [Audit.Log.save, unknown]
  simp [World.audit, Audit.handle, Event.decode_encode, World.saveFault, savable, saved,
    World.count, World.recorded]

/-- The subscriber has kept an entry of the event in its hand, and has nothing in its hand. -/
theorem finishEvent_new {event : Event} {queue : List Bytes}
    (channels : world.channels = [busyStation topic history event.encode queue])
    (savable : world.unsavable = [])
    (new : event.id ∉ world.log.saved.map Audit.Entry.id) :
    world.finishEvent 0 0 =
      (world.recorded [event]).onBus (station .memory topic history queue) := by
  have bus : world.bus? 0 = some { history, tasks := [0], subscriptions :=
      [{ topic, handler := .audit, queue, inHand := some { event := event.encode } }] } := by
    simp [World.bus?, channels, busyStation]
  have calls : callsLeft 3 { event := event.encode } = 3 + 1 := rfl
  have recorded : (world.recorded [event]).channels =
      [busyStation topic history event.encode queue] := channels
  rw [World.finishEvent, bus, inHand?_busy channels]
  dsimp only
  rw [calls, World.handOver, inHand?_busy channels]
  dsimp only [World.callHandler]
  rw [audit_new savable new]
  dsimp only
  rw [answerHandler_ok recorded, World.handOver, inHand?_idle rfl]

theorem callOf?_none (calls : world.handlerCalls = []) : world.callOf? 0 0 = none := by
  rw [World.callOf?, calls]
  rfl

/-- The subscriber keeps an entry of each event that waits, if all of them are new to it. -/
theorem serveEvents_new {events : List Event} {world : World}
    (channels : world.channels = [station .memory topic history (events.map Event.encode)])
    (savable : world.unsavable = []) (calls : world.handlerCalls = [])
    (distinct : (world.log.saved.map Audit.Entry.id ++ events.map Event.id).Nodup) {steps : Nat}
    (few : events.length < steps) :
    World.serveEvents 0 0 steps world =
      (world.recorded events).onBus (station .memory topic history []) := by
  induction events generalizing world steps with
  | nil =>
      cases steps with
      | zero => cases few
      | succ steps =>
          have same : world.onBus (station .memory topic history []) = world := onBus_same channels
          rw [World.serveEvents]
          dsimp only
          rw [modifyBus_next_idle channels, inHand?_idle channels, World.recorded_nil, same]
  | cons event rest ih =>
      cases steps with
      | zero => cases few
      | succ steps =>
          have new : event.id ∉ world.log.saved.map Audit.Entry.id := by
            intro known
            exact (List.nodup_append.mp distinct).2.2 _ known _ List.mem_cons_self rfl
          let busy := world.onBus (busyStation topic history event.encode (rest.map Event.encode))
          let next := (world.recorded [event]).onBus
            (station .memory topic history (rest.map Event.encode))
          have finished : busy.finishEvent 0 0 = next := finishEvent_new rfl savable new
          have arrived : next.channels =
              [station .memory topic history (rest.map Event.encode)] := rfl
          have unasked : next.handlerCalls = [] := calls
          have others : (next.log.saved.map Audit.Entry.id ++ rest.map Event.id).Nodup := by
            simpa [next, World.recorded, World.onBus, Audit.Entry.ofEvent] using distinct
          rw [World.serveEvents]
          dsimp only
          rw [modifyBus_next channels, inHand?_busy rfl]
          dsimp only
          rw [finished, callOf?_none unasked]
          dsimp only
          rw [ih arrived savable unasked others (Nat.lt_of_succ_lt_succ few),
            ← World.recorded_cons]
          rfl

/-- A subscriber that goes on handles all that waits for it. -/
theorem wakeSubscriber_new {events : List Event}
    (channels : world.channels = [station .memory topic history (events.map Event.encode)])
    (savable : world.unsavable = []) (calls : world.handlerCalls = [])
    (distinct : (world.log.saved.map Audit.Entry.id ++ events.map Event.id).Nodup)
    (few : events.length < world.steps) :
    world.wakeSubscriber 0 0 =
      (world.recorded events).onBus (station .memory topic history []) := by
  have bus : world.finishEvent 0 0 = world := by
    rw [World.finishEvent, inHand?_idle channels]
    split <;> simp_all
  rw [World.wakeSubscriber, callOf?_none calls]
  dsimp only
  rw [World.serve, bus, callOf?_none calls]
  exact serveEvents_new channels savable calls distinct few

end Serving

end Outbox.Simulation
