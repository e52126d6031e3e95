import Outbox.Proofs.Audit.Log
import Outbox.Proofs.Bus.Memory
import Outbox.Proofs.Publisher.Letters

/-!
# From the store to the event log

A fleet publishes to a persistent bus in memory, and an audit subscriber comes to the bus at some
moment.  Every interleaving of producers, iterations, publications, errors, and events that the
subscriber takes and handles is a list of moves.  A publication may fail before it reaches the bus,
and an iteration may be told an error although the bus has its event; both make an iteration publish
an event again.

Once the subscriber has handled what the bus has for it, its log is exact: one entry for each event
that the bus has taken on the topic, and each of them tells of a committed row.
-/

set_option autoImplicit false

namespace Outbox

open Publisher (Fleet Iteration Produced Trial)
open Time (Instant)

/-! ## The parties -/

/-- What an iteration sends to the bus next, if it is at a publication. -/
def Publisher.Fleet.letter? (fleet : Fleet) (run : Nat) : Option (String × Bytes) :=
  (fleet.iterations run).bind fun iteration =>
    match iteration.action 0 with
    | .publish topic event => some (topic, event)
    | _ => none

structure Audit.Entry.Tells (entry : Audit.Entry) (row : Message) : Prop where
  id : entry.id = row.id
  occurredAt : entry.occurredAt = row.createdAt
  aggregateId : entry.aggregateId = row.aggregateId
  eventType : entry.eventType = row.aggregateType
  data : entry.data = row.payload
  metadata : entry.metadata = row.metadata

structure Pipeline where
  fleet : Fleet
  bus : Bus.Memory Unit
  log : Audit.Log

namespace Pipeline

inductive Move where
  /-- Somebody else asks the store or its service. -/
  | request (request : Request)
  | call (run batchSize : Nat) (now : Instant) (injected : Option Error)
  /-- A publication of an iteration reaches the bus.  The iteration may be told an error all the
  same, such as that of its time limit. -/
  | publish (run : Nat) (told : Except Error Unit)
  /-- A publication of an iteration fails before it reaches the bus. -/
  | miss (run : Nat) (error : Error)
  | abandon (run : Nat)
  /-- The subscriber comes, unless it is there already. -/
  | subscribe (topic : String)
  | take
  /-- The subscriber calls its handler for the event in its hand. -/
  | handle

def Move.work? : Move → Option Publisher.Move
  | .request asked => some (.request asked)
  | .call run batchSize now injected => some (.call run batchSize now injected)
  | .publish run told => some (.answer run told)
  | .miss run error => some (.answer run (.error error))
  | .abandon run => some (.abandon run)
  | _ => none

def work (moves : List Move) : List Publisher.Move :=
  moves.filterMap Move.work?

def empty (home : StoreId) (maxRedeliveries : Nat) : Pipeline where
  fleet := .empty home
  bus := { settings := { persistent := true, maxRedeliveries } }
  log := {}

def drive (pipeline : Pipeline) (move : Publisher.Move) : Pipeline :=
  { pipeline with fleet := pipeline.fleet.step move }

def subscriber? (pipeline : Pipeline) : Option (Bus.Subscription Unit) :=
  pipeline.bus.subscriptions[0]?

/-- Makes one move.  Nothing happens if it does not fit. -/
def step (pipeline : Pipeline) : Move → Pipeline
  | .request request => pipeline.drive (.request request)
  | .call run batchSize now injected => pipeline.drive (.call run batchSize now injected)
  | .publish run told =>
    match pipeline.fleet.letter? run with
    | none => pipeline
    | some (topic, event) =>
      match pipeline.bus.publish topic event with
      | .ok bus => { pipeline with bus }.drive (.answer run told)
      | .error error => pipeline.drive (.answer run (.error error))
  | .miss run error => pipeline.drive (.answer run (.error error))
  | .abandon run => pipeline.drive (.abandon run)
  | .subscribe topic =>
    match pipeline.subscriber? with
    | some _ => pipeline
    | none =>
      match pipeline.bus.subscribe topic () with
      | .ok bus => { pipeline with bus }
      | .error _ => pipeline
  | .take => { pipeline with bus := pipeline.bus.next 0 }
  | .handle =>
    match pipeline.subscriber?.bind Bus.Subscription.inHand with
    | none => pipeline
    | some delivery =>
      let handling := Audit.handle (fun _ => none) pipeline.log delivery.event
      { pipeline with
        bus := pipeline.bus.answer 0 handling.refusal.isNone
        log := handling.log }

def run (home : StoreId) (maxRedeliveries : Nat) (moves : List Move) : Pipeline :=
  moves.foldl step (empty home maxRedeliveries)

theorem run_concat (home : StoreId) (maxRedeliveries : Nat) (past : List Move) (move : Move) :
    run home maxRedeliveries (past ++ [move]) = (run home maxRedeliveries past).step move := by
  simp [run]

/-! ## Sound pipelines -/

/-- Nobody has come and the log is fresh, or there is one subscriber.  It has handled the events of
its topic in the order in which the bus took them, but for those that wait for it. -/
inductive Audience (bus : Bus.Memory Unit) (log : Audit.Log) : Prop where
  | absent (nobody : bus.subscriptions = []) (fresh : log = {}) : Audience bus log
  | present {subscription : Bus.Subscription Unit} {handled : List Event}
      (alone : bus.subscriptions = [subscription]) (staying : subscription.receives = true)
      (received : bus.kept subscription.topic =
        handled.map Event.encode ++ subscription.waiting)
      (recorded : log = Audit.Log.saveAll {} (handled.map Audit.Entry.ofEvent)) :
      Audience bus log

structure Sound (pipeline : Pipeline) : Prop where
  opened : pipeline.bus.isShutDown = false
  persistent : pipeline.bus.settings.persistent = true
  /-- What the bus has taken was sent about committed rows. -/
  sent : ∀ letter ∈ pipeline.bus.history, ∃ row ∈ pipeline.fleet.store.rows, row.letter = letter
  /-- The bus has taken what was published with success. -/
  heard : ∀ run, ∀ trial ∈ pipeline.fleet.trials run, trial.succeeded = true →
    trial.message.letter ∈ pipeline.bus.history
  audience : Audience pipeline.bus pipeline.log

theorem sound_empty (home : StoreId) (maxRedeliveries : Nat) :
    (empty home maxRedeliveries).Sound where
  opened := rfl
  persistent := rfl
  sent := by
    intro letter member
    cases member
  heard := by
    intro run trial member
    cases member
  audience := .absent rfl rfl

theorem letter?_of_publishing {fleet : Fleet} {run : Nat} {tx : Transaction}
    {attempts : Publisher.Attempts} {message : Message} {waiting : List Message}
    (running : fleet.iterations run = some (.publishing tx attempts message waiting)) :
    fleet.letter? run = some message.letter := by
  simp [Fleet.letter?, running, Iteration.action, Message.letter]

theorem publishing_of_letter? {fleet : Fleet} {run : Nat} {letter : String × Bytes}
    (sends : fleet.letter? run = some letter) : ∃ tx attempts message waiting,
      fleet.iterations run = some (.publishing tx attempts message waiting) ∧
      letter = message.letter := by
  obtain ⟨iteration, running, sends⟩ := Option.bind_eq_some_iff.mp sends
  cases iteration with
  | publishing tx attempts message waiting =>
      simp only [Iteration.action, Option.some.injEq] at sends
      exact ⟨tx, attempts, message, waiting, running, sends.symm⟩
  | _ => simp [Iteration.action] at sends

/-! ### The fleet works -/

theorem Sound.drive {pipeline : Pipeline} (sound : pipeline.Sound)
    (fleet_sound : pipeline.fleet.Sound) {issued : List Uuid}
    (books : Fleet.Books issued pipeline.fleet) (move : Publisher.Move)
    (told : ∀ run letter, move = .answer run (.ok ()) →
      pipeline.fleet.letter? run = some letter → letter ∈ pipeline.bus.history) :
    (pipeline.drive move).Sound where
  opened := sound.opened
  persistent := sound.persistent
  sent := by
    intro letter member
    obtain ⟨row, there, rfl⟩ := sound.sent letter member
    exact (Fleet.step_moved fleet_sound move).letter_kept fleet_sound books there
  heard := by
    intro run trial member succeeded
    rcases (Fleet.step_moved fleet_sound move).trial_origin member with
      earlier | ⟨answered, tx, attempts, waiting, running⟩
    · exact sound.heard run trial earlier succeeded
    · rcases trial with ⟨message, error | done⟩
      · cases succeeded
      · exact told run _ answered (letter?_of_publishing running)
  audience := sound.audience

/-! ### The bus takes an event -/

theorem Audience.publish {bus : Bus.Memory Unit} {log : Audit.Log} (audience : Audience bus log)
    (topic : String) (event : Bytes) :
    Audience { bus with
      history := bus.history ++ [(topic, event)]
      subscriptions := bus.subscriptions.map (Bus.Subscription.offer topic event) } log := by
  cases audience with
  | absent nobody fresh => exact .absent (by simp [nobody]) fresh
  | @present subscription handled alone staying received recorded =>
      refine @Audience.present _ _ (subscription.offer topic event) handled (by simp [alone])
        (by simp [staying]) ?_ recorded
      rw [Bus.Subscription.topic_offer, Bus.Subscription.waiting_offer topic event staying,
        ← List.append_assoc, ← received]
      by_cases own : topic = subscription.topic
      · simp [Bus.Memory.kept, own]
      · simp [Bus.Memory.kept, own, Ne.symm own]

theorem Sound.publish {pipeline : Pipeline} (sound : pipeline.Sound) {issued : List Uuid}
    (books : Fleet.Books issued pipeline.fleet) {run : Nat} {topic : String} {event : Bytes}
    (sends : pipeline.fleet.letter? run = some (topic, event)) :
    Sound { pipeline with bus := { pipeline.bus with
      history := pipeline.bus.history ++ [(topic, event)]
      subscriptions := pipeline.bus.subscriptions.map (Bus.Subscription.offer topic event) } } where
  opened := sound.opened
  persistent := sound.persistent
  sent := by
    intro letter member
    rcases List.mem_append.mp member with earlier | last
    · exact sound.sent letter earlier
    · obtain ⟨tx, attempts, message, waiting, running, same⟩ := publishing_of_letter? sends
      exact ⟨message, books.publishing running, (List.mem_singleton.mp last ▸ same).symm⟩
  heard := by
    intro run trial member succeeded
    exact List.mem_append_left _ (sound.heard run trial member succeeded)
  audience := sound.audience.publish topic event

/-! ### The subscriber -/

theorem Audience.subscribe {bus : Bus.Memory Unit} {log : Audit.Log} (audience : Audience bus log)
    (nobody : bus.subscriptions[0]? = none) (topic : String) :
    Audience { bus with
      subscriptions := bus.subscriptions ++ [{ topic, handler := (), queue := bus.kept topic }]
      tasks := bus.tasks ++ [bus.subscriptions.length] } log := by
  cases audience with
  | absent empty fresh =>
      exact @Audience.present _ _ { topic, handler := (), queue := bus.kept topic } []
        (by simp [empty]) rfl rfl fresh
  | present alone => simp [alone] at nobody

theorem Audience.take {bus : Bus.Memory Unit} {log : Audit.Log} (audience : Audience bus log)
    (opened : bus.isShutDown = false) : Audience (bus.next 0) log := by
  cases audience with
  | absent nobody fresh =>
      exact .absent (by simp [Bus.Memory.next, Bus.Memory.modify, nobody]) fresh
  | @present subscription handled alone staying received recorded =>
      obtain ⟨ended, waiting, _⟩ := subscription.next_open
      refine @Audience.present _ _ (subscription.next false) handled ?_ (ended.trans staying) ?_
        recorded
      · simp [Bus.Memory.next, Bus.Memory.modify, alone, opened]
      · rw [Bus.Subscription.topic_next, waiting]
        exact received

/-- The handler accepts the event in hand and saves its entry, unless there is one. -/
theorem Sound.step_handle {pipeline : Pipeline} (sound : pipeline.Sound)
    {subscription : Bus.Subscription Unit} (there : pipeline.subscriber? = some subscription)
    {delivery : Bus.Delivery} (held : subscription.inHand = some delivery) :
    ∃ event : Event, delivery.event = event.encode ∧
      pipeline.step .handle = { pipeline with
        bus := pipeline.bus.answer 0 true
        log := (pipeline.log.save (Audit.Entry.ofEvent event)).2 } := by
  -- What is in hand was kept by the bus, so it is the event of a committed row.
  have waits : delivery.event ∈ subscription.waiting := by
    simp [Bus.Subscription.waiting, held]
  have taken : delivery.event ∈ pipeline.bus.kept subscription.topic := by
    cases sound.audience with
    | absent nobody => simp [subscriber?, nobody] at there
    | present alone staying received =>
        simp only [subscriber?, alone, List.getElem?_cons_zero, Option.some.injEq] at there
        subst there
        rw [received]
        exact List.mem_append_right _ waits
  obtain ⟨row, _, letter⟩ := sound.sent _ (Bus.Memory.mem_kept.mp taken)
  obtain ⟨_, bytes⟩ := Prod.mk.inj letter
  obtain ⟨accepted, saved⟩ := Audit.handle_encode pipeline.log (Event.ofMessage row)
  refine ⟨Event.ofMessage row, bytes.symm, ?_⟩
  rw [bytes] at accepted saved
  simp only [step, there, Option.bind_some, held, accepted, saved]
  rfl

theorem Audience.handle {bus : Bus.Memory Unit} {log : Audit.Log} (audience : Audience bus log)
    {subscription : Bus.Subscription Unit} (there : bus.subscriptions[0]? = some subscription)
    {delivery : Bus.Delivery} (held : subscription.inHand = some delivery) {event : Event}
    (reads : delivery.event = event.encode) :
    Audience (bus.answer 0 true) (log.save (Audit.Entry.ofEvent event)).2 := by
  cases audience with
  | absent nobody => simp [nobody] at there
  | @present _ handled alone staying received recorded =>
      simp only [alone, List.getElem?_cons_zero, Option.some.injEq] at there
      subst there
      obtain ⟨topic, ended, waiting⟩ :=
        Bus.Subscription.answer_accepted bus.settings.maxRedeliveries held
      refine @Audience.present _ _ (Bus.Subscription.answer bus.settings.maxRedeliveries true _)
        (handled ++ [event]) ?_ (ended.trans staying) ?_ ?_
      · simp [Bus.Memory.answer, Bus.Memory.modify, alone]
      · rw [waiting, reads] at received
        rw [topic, List.map_append, List.map_singleton, List.append_assoc]
        exact received
      · rw [recorded, List.map_append, List.map_singleton, Audit.Log.saveAll_concat]

/-! ### Histories -/

theorem step_of_unpublishing {fleet : Fleet} {run : Nat} (silent : fleet.letter? run = none)
    (result : Except Error Unit) : fleet.step (.answer run result) = fleet := by
  cases running : fleet.iterations run with
  | none => simp only [Fleet.step, running]
  | some iteration =>
      cases iteration with
      | publishing tx attempts message waiting =>
          rw [letter?_of_publishing running] at silent
          cases silent
      | _ => simp only [Fleet.step, running]

theorem Sound.fleet_step {pipeline : Pipeline} (sound : pipeline.Sound) (move : Move) :
    (pipeline.step move).fleet = move.work?.toList.foldl Fleet.step pipeline.fleet := by
  cases move with
  | publish run told =>
      cases sends : pipeline.fleet.letter? run with
      | none =>
          simp only [step, sends]
          exact (step_of_unpublishing sends told).symm
      | some letter =>
          simp only [step, sends,
            Bus.Memory.publish_persistent sound.opened sound.persistent]
          rfl
  | subscribe topic =>
      simp only [step]
      split
      · rfl
      · split <;> rfl
  | handle =>
      simp only [step]
      split <;> rfl
  | _ => rfl

theorem Sound.step {pipeline : Pipeline} (sound : pipeline.Sound)
    (fleet_sound : pipeline.fleet.Sound) {issued : List Uuid}
    (books : Fleet.Books issued pipeline.fleet) (move : Move) : (pipeline.step move).Sound := by
  cases move with
  | request asked => exact sound.drive fleet_sound books _ (by simp)
  | call run batchSize now injected => exact sound.drive fleet_sound books _ (by simp)
  | publish run told =>
      cases sends : pipeline.fleet.letter? run with
      | none =>
          simp only [Pipeline.step, sends]
          exact sound
      | some letter =>
          simp only [Pipeline.step, sends,
            Bus.Memory.publish_persistent sound.opened sound.persistent]
          refine (sound.publish books sends).drive fleet_sound books _ ?_
          intro caller other answered other_sends
          cases answered
          obtain rfl : letter = other := Option.some.inj (sends.symm.trans other_sends)
          exact List.mem_append_right _ (List.mem_singleton_self _)
  | miss run error => exact sound.drive fleet_sound books _ (by simp)
  | abandon run => exact sound.drive fleet_sound books _ (by simp)
  | subscribe topic =>
      cases there : pipeline.subscriber? with
      | some subscription =>
          simp only [Pipeline.step, there]
          exact sound
      | none =>
          simp only [Pipeline.step, there, Bus.Memory.subscribe_open sound.opened]
          exact { sound with audience := sound.audience.subscribe there topic }
  | take => exact { sound with audience := sound.audience.take sound.opened }
  | handle =>
      cases there : pipeline.subscriber?.bind Bus.Subscription.inHand with
      | none =>
          simp only [Pipeline.step, there]
          exact sound
      | some delivery =>
          obtain ⟨subscription, here, held⟩ := Option.bind_eq_some_iff.mp there
          obtain ⟨event, reads, handled⟩ := sound.step_handle here held
          rw [handled]
          exact { sound with audience := sound.audience.handle here held reads }

theorem work_concat (past : List Move) (move : Move) :
    work (past ++ [move]) = work past ++ move.work?.toList := by
  rw [work, List.filterMap_append, List.filterMap_cons]
  cases move.work? <;> rfl

section Histories
variable {home : StoreId} {maxRedeliveries : Nat} {moves : List Move}

/-- A history leaves a sound pipeline behind, and does to the fleet what its moves do to it. -/
theorem sound_run (produced : Produced (work moves)) :
    (run home maxRedeliveries moves).Sound ∧
    (run home maxRedeliveries moves).fleet = Fleet.run home (work moves) := by
  induction moves using List.reverseRecOn with
  | nil => exact ⟨sound_empty home maxRedeliveries, rfl⟩
  | append_singleton past move ih =>
      rw [work_concat] at produced ⊢
      obtain ⟨sound, same⟩ := ih produced.before
      have fleet_sound := Fleet.sound_run home (work past)
      have books := Fleet.books_run home (work past) produced.before
      rw [← same] at fleet_sound books
      rw [run_concat]
      refine ⟨sound.step fleet_sound books move, ?_⟩
      rw [sound.fleet_step, same, Fleet.run, Fleet.run, List.foldl_append]

theorem rows_distinct (produced : Produced (work moves)) :
    ((run home maxRedeliveries moves).fleet.store.rows.map Message.id).Nodup := by
  rw [(sound_run produced).2]
  exact (Fleet.books_run home (work moves) produced).producing.distinct

theorem taken_of_processed (produced : Produced (work moves)) {row : Message}
    (member : row ∈ (run home maxRedeliveries moves).fleet.store.rows)
    (processed : row.status = .processed) :
    row.letter ∈ (run home maxRedeliveries moves).bus.history := by
  obtain ⟨sound, same⟩ := @sound_run home maxRedeliveries moves produced
  have succeeded := @Fleet.trial_of_processed home (work moves) produced row
  rw [← same] at succeeded
  obtain ⟨caller, trial, tried, own, succeeded⟩ := succeeded member processed
  have taken := sound.heard caller trial tried succeeded
  -- The letter of the attempt tells the row, whose status has changed since.
  obtain ⟨sent, there, letter⟩ := sound.sent _ taken
  have row_sent : sent = row :=
    List.inj_on_of_nodup_map (rows_distinct produced) there member
      ((Message.id_of_letter letter).trans own)
  rw [← letter, row_sent] at taken
  exact taken

end Histories

/-! ## Drained queues -/

/-- The subscriber of a topic has handled everything that the bus has for it. -/
def Drained (pipeline : Pipeline) (topic : String) : Prop :=
  ∃ subscription, pipeline.subscriber? = some subscription ∧ subscription.topic = topic ∧
    subscription.queue = [] ∧ subscription.inHand = none

def serving (events : Nat) : List Move :=
  (List.replicate events [Move.take, Move.handle]).flatten

theorem Sound.handled_of_drained {pipeline : Pipeline} (sound : pipeline.Sound) {topic : String}
    (drained : pipeline.Drained topic) : ∃ handled : List Event,
      pipeline.bus.kept topic = handled.map Event.encode ∧
      pipeline.log = Audit.Log.saveAll {} (handled.map Audit.Entry.ofEvent) := by
  obtain ⟨subscription, there, rfl, queue, inHand⟩ := drained
  cases sound.audience with
  | absent nobody => simp [subscriber?, nobody] at there
  | @present _ handled alone staying received recorded =>
      simp only [subscriber?, alone, List.getElem?_cons_zero, Option.some.injEq] at there
      subst there
      refine ⟨handled, ?_, recorded⟩
      simpa [Bus.Subscription.waiting, queue, inHand] using received

/-- To take an event and to handle it leaves the others waiting. -/
theorem Sound.serve {pipeline : Pipeline} (sound : pipeline.Sound)
    {subscription : Bus.Subscription Unit} (there : pipeline.subscriber? = some subscription) :
    ∃ later, ((pipeline.step .take).step .handle).subscriber? = some later ∧
      later.topic = subscription.topic ∧ later.waiting = subscription.waiting.tail := by
  obtain ⟨_, waiting, takes⟩ := subscription.next_open
  have ready : (pipeline.step .take).subscriber? = some (subscription.next false) := by
    simp only [subscriber?] at there
    simp [subscriber?, Pipeline.step, Bus.Memory.next, Bus.Memory.modify, there, sound.opened]
  have ready_sound : (pipeline.step .take).Sound :=
    { sound with audience := sound.audience.take sound.opened }
  generalize pipeline.step .take = taken at ready ready_sound ⊢
  cases held : (subscription.next false).inHand with
  | none =>
      -- A subscriber that has nothing in hand now had nothing to take.
      have nothing : subscription.waiting = [] := by
        by_contra something
        simpa [held] using takes something
      refine ⟨subscription.next false, ?_, by simp, by rw [waiting, nothing]; rfl⟩
      rw [Pipeline.step, ready, Option.bind_some, held]
      exact ready
  | some delivery =>
      obtain ⟨event, _, handled⟩ := ready_sound.step_handle ready held
      obtain ⟨topic, _, first⟩ :=
        Bus.Subscription.answer_accepted taken.bus.settings.maxRedeliveries held
      refine ⟨_, ?_, topic.trans (by simp), by rw [← waiting, first, List.tail_cons]⟩
      rw [handled]
      simp only [subscriber?] at ready
      simp only [subscriber?, Bus.Memory.answer, Bus.Memory.modify, List.getElem?_modify, ready]
      rfl

theorem drained_of_served {home : StoreId} {maxRedeliveries : Nat} {moves : List Move}
    (produced : Produced (work moves)) {subscription : Bus.Subscription Unit}
    (there : (run home maxRedeliveries moves).subscriber? = some subscription) :
    (run home maxRedeliveries (moves ++ serving subscription.waiting.length)).Drained
      subscription.topic := by
  generalize count : subscription.waiting.length = events
  induction events generalizing moves subscription with
  | zero =>
      have nothing := List.length_eq_zero_iff.mp count
      simp only [Bus.Subscription.waiting, List.append_eq_nil_iff] at nothing
      refine ⟨subscription, ?_, rfl, nothing.2, by simpa using nothing.1⟩
      simpa [serving] using there
  | succ events ih =>
      -- The first of the events that wait is gone after two moves, which are none of the fleet.
      obtain ⟨later, later_there, topic, waiting⟩ := (sound_run produced).1.serve there
      rw [← run_concat, ← run_concat, List.append_assoc] at later_there
      have unworked : work (moves ++ ([.take] ++ [.handle])) = work moves := by
        simp [work, Move.work?]
      have drained := @ih _ (unworked ▸ produced) later later_there (by simp [waiting, count])
      rw [topic, List.append_assoc] at drained
      exact drained

/-! ## What the log tells -/

/-- The log has one entry for each event that the bus has taken on a topic, and each of them tells
of a committed row. -/
structure Exact (pipeline : Pipeline) (topic : String) : Prop where
  distinct : (pipeline.log.saved.map Audit.Entry.id).Nodup
  taken : ∀ id, id ∈ pipeline.log.saved.map Audit.Entry.id ↔
    ∃ bytes ∈ pipeline.bus.kept topic, ∃ event, Event.decode bytes = .ok event ∧ event.id = id
  processed : ∀ row ∈ pipeline.fleet.store.rows, row.topic = topic → row.status = .processed →
    ∃ entry ∈ pipeline.log.saved, entry.Tells row
  origin : ∀ entry ∈ pipeline.log.saved, ∃ row ∈ pipeline.fleet.store.rows,
    row.topic = topic ∧ entry.Tells row

theorem tells_ofMessage (row : Message) :
    (Audit.Entry.ofEvent (Event.ofMessage row)).Tells row :=
  ⟨rfl, rfl, rfl, rfl, rfl, rfl⟩

theorem Sound.origin {pipeline : Pipeline} (sound : pipeline.Sound) {topic : String}
    {event : Event} (taken : event.encode ∈ pipeline.bus.kept topic) :
    ∃ row ∈ pipeline.fleet.store.rows, row.topic = topic ∧ event = Event.ofMessage row := by
  obtain ⟨row, there, letter⟩ := sound.sent _ (Bus.Memory.mem_kept.mp taken)
  exact ⟨row, there, Message.letter_eq_iff.mp letter.symm⟩

theorem exact_of_drained {home : StoreId} {maxRedeliveries : Nat} {moves : List Move}
    (produced : Produced (work moves)) {topic : String}
    (drained : (run home maxRedeliveries moves).Drained topic) :
    (run home maxRedeliveries moves).Exact topic := by
  have sound := (@sound_run home maxRedeliveries moves produced).1
  obtain ⟨handled, kept, recorded⟩ := sound.handled_of_drained drained
  have ids (id : Uuid) : id ∈ (run home maxRedeliveries moves).log.saved.map Audit.Entry.id ↔
      ∃ event ∈ handled, event.id = id := by
    rw [recorded, Audit.Log.mem_ids_saveAll]
    simp [Audit.Entry.ofEvent]
  have origin : ∀ entry ∈ (run home maxRedeliveries moves).log.saved,
      ∃ row ∈ (run home maxRedeliveries moves).fleet.store.rows,
        row.topic = topic ∧ entry.Tells row := by
    intro entry member
    rw [recorded] at member
    obtain ⟨event, was_handled, rfl⟩ := List.mem_map.mp (Audit.Log.mem_of_mem_saveAll member)
    have taken : event.encode ∈ (run home maxRedeliveries moves).bus.kept topic := by
      rw [kept]
      exact List.mem_map_of_mem was_handled
    obtain ⟨row, there, on_topic, rfl⟩ := sound.origin taken
    exact ⟨row, there, on_topic, tells_ofMessage row⟩
  refine ⟨?_, ?_, ?_, origin⟩
  · rw [recorded]
    have fresh : Audit.Log.Distinct {} := List.nodup_nil
    exact fresh.saveAll _
  · intro id
    rw [ids, kept]
    simp [Event.decode_encode]
  · intro row member on_topic processed
    have taken := taken_of_processed produced member processed
    rw [Message.letter, on_topic, ← Bus.Memory.mem_kept, kept] at taken
    obtain ⟨event, was_handled, same⟩ := List.mem_map.mp taken
    obtain rfl := Event.encode_injective same
    obtain ⟨entry, saved, own⟩ := List.mem_map.mp ((ids row.id).mpr ⟨_, was_handled, rfl⟩)
    obtain ⟨other, there, _, tells⟩ := origin entry saved
    have same_row : other = row :=
      List.inj_on_of_nodup_map (rows_distinct produced) there member (tells.id.symm.trans own)
    exact ⟨entry, saved, same_row ▸ tells⟩

/-- The subscriber comes to handle everything that the bus has for it, and whenever it has, the log
is exact. -/
theorem drained_log_is_exact (home : StoreId) (maxRedeliveries : Nat) (moves : List Move)
    (produced : Produced (work moves)) (subscription : Bus.Subscription Unit)
    (there : (run home maxRedeliveries moves).subscriber? = some subscription) :
    (run home maxRedeliveries (moves ++ serving subscription.waiting.length)).Drained
      subscription.topic ∧
    ∀ topic, (run home maxRedeliveries moves).Drained topic →
      (run home maxRedeliveries moves).Exact topic :=
  ⟨drained_of_served produced there, fun _ drained => exact_of_drained produced drained⟩

/-- The bus has the event of a row, but the iteration is told an error.  A subscriber comes, and the
next iteration publishes the event again. -/
def repeatedHistory : List Move :=
  [.request .begin,
    .request (.enqueue 1 default .epoch "fruit.events"
      { aggregateId := 1, aggregateType := "fruit", payload := [0x7B, 0x7D] }),
    .request (.commit 1),
    .call 0 10 .epoch none, .call 0 10 .epoch none, .publish 0 (.error (.eventBus "late")),
    .call 0 10 .epoch none, .call 0 10 .epoch none,
    .subscribe "fruit.events",
    .call 1 10 .epoch none, .call 1 10 .epoch none, .publish 1 (.ok ()),
    .call 1 10 .epoch none, .call 1 10 .epoch none]

/-- The bus has taken the event twice, and the log has one entry for it. -/
theorem repeatedHistory_is_logged_once :
    Produced (work (repeatedHistory ++ serving 2)) ∧
    ((run 0 3 repeatedHistory).bus.kept "fruit.events").length = 2 ∧
    (run 0 3 (repeatedHistory ++ serving 2)).Drained "fruit.events" ∧
    (run 0 3 (repeatedHistory ++ serving 2)).Exact "fruit.events" ∧
    ∃ row, (run 0 3 (repeatedHistory ++ serving 2)).fleet.store.rows = [row] ∧
      ∃ entry ∈ (run 0 3 (repeatedHistory ++ serving 2)).log.saved, entry.Tells row ∧
        ∀ other ∈ (run 0 3 (repeatedHistory ++ serving 2)).log.saved, other = entry := by
  have produced : Produced (work repeatedHistory) := by
    constructor
    · intro request member
      simp only [work, repeatedHistory, Move.work?, List.filterMap_cons, List.filterMap_nil,
        List.mem_cons, Publisher.Move.request.injEq, reduceCtorEq, List.not_mem_nil,
        or_false] at member
      rcases member with rfl | rfl | rfl <;> rfl
    · have given : Publisher.issued (work repeatedHistory) = [default] := by rfl
      rw [given]
      exact List.nodup_singleton _
  have served_produced : Produced (work (repeatedHistory ++ serving 2)) := produced
  obtain ⟨served, _⟩ := drained_log_is_exact 0 3 repeatedHistory produced _ rfl
  have drained : (run 0 3 (repeatedHistory ++ serving 2)).Drained "fruit.events" := served
  obtain ⟨subscription, there, _⟩ := served
  obtain ⟨_, exact_when⟩ := drained_log_is_exact 0 3 _ served_produced subscription there
  have tells_exactly := exact_when "fruit.events" drained
  have rows : (run 0 3 (repeatedHistory ++ serving 2)).fleet.store.rows =
      [(Message.fruit.refused (Error.eventBus "late").message).processed .epoch] := by
    rw [(sound_run served_produced).2]
    rfl
  have processed := tells_exactly.processed _ (rows ▸ List.mem_singleton_self _) rfl rfl
  obtain ⟨entry, saved, tells⟩ := processed
  refine ⟨served_produced, by rfl, drained, tells_exactly, _, rows, entry, saved, tells, ?_⟩
  intro other other_saved
  obtain ⟨row, member, _, other_tells⟩ := tells_exactly.origin other other_saved
  rw [rows, List.mem_singleton] at member
  rw [member] at other_tells
  exact List.inj_on_of_nodup_map tells_exactly.distinct other_saved saved
    (other_tells.id.trans tells.id.symm)

end Pipeline

end Outbox
