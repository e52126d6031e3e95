import Outbox.Bus.Shutdown
import Outbox.Proofs.Bus.Deliveries

/-!
# The traffic of a bus

A bus at work, down to the steps between which others can come.  A request is let in or turned away,
and takes effect some time after it was let in.  A subscriber is at work before the bus takes note
of its task.  It looks whether the bus was shut down, and then takes an event.  A shutdown goes on
stage by stage.  So every interleaving of requests, subscribers, handlers and one shutdown is a list
of moves.

What is meant for a subscriber is in part behind it and in part in its queue; the rest it has
missed.
-/

set_option autoImplicit false

namespace Outbox.Bus

variable {Handler : Type}

/-- What is asked of a bus from outside. -/
inductive Request (Handler : Type) where
  | publish (topic : String) (event : Bytes)
  | subscribe (topic : String) (handler : Handler)

/-- The request made and done in one move. -/
def Request.move : Request Handler → Move Handler
  | .publish topic event => .publish topic event
  | .subscribe topic handler => .subscribe topic handler

structure Traffic (Handler : Type) where
  bus : Memory Handler
  /-- The calls that the handlers have answered, in this order, and for which subscribers. -/
  answers : List (Nat × Handed) := []
  /-- The requests that were let in and have not taken effect. -/
  pending : List (Request Handler) := []
  /-- The subscribers at work of whose tasks the bus has not taken note. -/
  unregistered : List Nat := []
  shutdown : Option Shutdown := none
  /-- The requests that have taken effect, in this order. -/
  performed : List (Request Handler) := []
  /-- The requests that were turned away, in this order. -/
  refused : List (Request Handler) := []

namespace Traffic

inductive Move (Handler : Type) where
  | ask (request : Request Handler)
  /-- One of the requests that were let in takes effect. -/
  | perform (position : Nat)
  /-- The bus takes note of the task of a subscriber. -/
  | register (position : Nat)
  /-- A subscriber looks whether the bus was shut down. -/
  | look (index : Nat)
  /-- A subscriber that has looked takes its next event and calls its handler. -/
  | take (index : Nat)
  /-- The handler of a subscriber answers the call that it is in. -/
  | answer (index : Nat) (accepted : Bool)
  /-- The shutdown is called, unless it was. -/
  | shutDown
  /-- The shutdown goes on. -/
  | proceed

def start (settings : Settings) : Traffic Handler where
  bus := { settings }

def subscriber? (traffic : Traffic Handler) (index : Nat) : Option (Subscription Handler) :=
  traffic.bus.subscriptions[index]?

/-- The calls that were made for a subscriber. -/
def calls (traffic : Traffic Handler) (index : Nat) : List Handed :=
  (traffic.answers.filter fun answer => answer.1 = index).map Prod.snd

/-- The requests that have taken effect, as moves of a history. -/
def taken (traffic : Traffic Handler) : List (Bus.Move Handler) :=
  traffic.performed.map Request.move

/-- A request takes effect. -/
def perform (traffic : Traffic Handler) (request : Request Handler) : Traffic Handler :=
  match request with
  | .publish topic event =>
    { traffic with
      bus := traffic.bus.put topic event
      performed := traffic.performed ++ [request] }
  | .subscribe topic handler =>
    { traffic with
      bus := traffic.bus.engage topic handler
      unregistered := traffic.unregistered ++ [traffic.bus.subscriptions.length]
      performed := traffic.performed ++ [request] }

/-- Makes one move.  Nothing happens if it does not fit. -/
def step (traffic : Traffic Handler) : Move Handler → Traffic Handler
  | .ask request =>
    match traffic.bus.ensureOpen with
    | .ok () => { traffic with pending := traffic.pending ++ [request] }
    | .error _ => { traffic with refused := traffic.refused ++ [request] }
  | .perform position =>
    match traffic.pending[position]? with
    | none => traffic
    | some request => { traffic with pending := traffic.pending.eraseIdx position }.perform request
  | .register position =>
    match traffic.unregistered[position]? with
    | none => traffic
    | some index =>
      { traffic with
        bus := traffic.bus.register index
        unregistered := traffic.unregistered.eraseIdx position }
  | .look index => { traffic with bus := traffic.bus.look index }
  | .take index => { traffic with bus := traffic.bus.take index }
  | .answer index accepted =>
    match (traffic.subscriber? index).bind Subscription.inHand with
    | none => traffic
    | some delivery =>
      { traffic with
        bus := traffic.bus.answer index accepted
        answers := traffic.answers ++ [(index, ⟨delivery.event, accepted⟩)] }
  | .shutDown =>
    match traffic.shutdown with
    | none => { traffic with bus := traffic.bus.shutDown, shutdown := some .called }
    | some _ => traffic
  | .proceed =>
    match traffic.shutdown with
    | none => traffic
    | some shutdown =>
      let (shutdown, bus) := shutdown.proceed traffic.bus
      { traffic with bus, shutdown := some shutdown }

def run (settings : Settings) (history : List (Move Handler)) : Traffic Handler :=
  history.foldl step (start settings)

theorem run_append (settings : Settings) (past later : List (Move Handler)) :
    run settings (past ++ later) = later.foldl step (run settings past) := by
  simp [run]

theorem run_concat (settings : Settings) (past : List (Move Handler)) (move : Move Handler) :
    run settings (past ++ [move]) = (run settings past).step move := by
  simp [run]

end Traffic

/-! ## Where a subscriber stands -/

namespace Subscription

variable {subscription : Subscription Handler} {limit : Nat} {events : List Bytes}
  {calls : List Handed}

@[simp] theorem inHand_offer (topic : String) (event : Bytes)
    (subscription : Subscription Handler) :
    (subscription.offer topic event).inHand = subscription.inHand := by
  unfold offer
  split <;> rfl

/-- The subscriber has begun with some of the events that are meant for it; others are in its queue,
and the last ones it may have missed.  It has missed none as long as it receives events. -/
structure Attends (limit : Nat) (events : List Bytes) (subscription : Subscription Handler)
    (calls : List Handed) : Prop where
  stands : ∃ begun missed, subscription.Stands limit begun calls ∧
    events = begun ++ (subscription.queue ++ missed) ∧
    (subscription.receives = true → missed = [])
  /-- Nobody leaves with an event in hand. -/
  left : subscription.ended = true → subscription.inHand = none ∧ subscription.looking = false

namespace Attends

theorem newcomer (limit : Nat) (topic : String) (handler : Handler) (queue : List Bytes) :
    Attends limit queue { topic, handler, queue } [] where
  stands := ⟨[], [], .free rfl .nil, by simp, fun _ => rfl⟩
  left := by
    intro impossible
    cases impossible

theorem offer (attends : Attends limit events subscription calls) (topic : String)
    (event : Bytes) :
    Attends limit (events ++ if topic = subscription.topic then [event] else [])
      (subscription.offer topic event) calls := by
  obtain ⟨⟨begun, missed, stands, rfl, whole⟩, left⟩ := attends
  by_cases own : topic = subscription.topic
  · by_cases receiving : subscription.receives = true
    · have offered : subscription.offer topic event =
          { subscription with queue := subscription.queue ++ [event] } := by
        simp [Subscription.offer, own, receiving]
      rw [offered]
      exact ⟨⟨begun, [], stands.congr rfl, by simp [own, whole receiving], fun _ => rfl⟩, left⟩
    · have missing : subscription.offer topic event = subscription := by
        simp [Subscription.offer, receiving]
      rw [missing]
      exact ⟨⟨begun, missed ++ [event], stands, by simp [own],
        fun receives => absurd receives receiving⟩, left⟩
  · have unaddressed : subscription.offer topic event = subscription := by
      simp [Subscription.offer, Ne.symm own]
    rw [unaddressed, if_neg own, List.append_nil]
    exact ⟨⟨begun, missed, stands, rfl, whole⟩, left⟩

theorem look (attends : Attends limit events subscription calls) {isShutDown : Bool}
    (closed : subscription.ended = true → isShutDown = true) :
    Attends limit events (subscription.look isShutDown) calls where
  stands := by
    obtain ⟨begun, missed, stands, same, whole⟩ := attends.stands
    refine ⟨begun, missed, stands.congr (inHand_look ..), by rwa [queue_look], ?_⟩
    intro receives
    apply whole
    unfold Subscription.look at receives
    split at receives
    · exact receives
    · split at receives
      · simp [Subscription.receives] at receives
      · exact receives
  left := by
    intro ended
    refine ⟨?_, ?_⟩
    · rw [inHand_look]
      cases held : subscription.inHand with
      | none => rfl
      | some delivery =>
          have stays : subscription.look isShutDown = subscription := by
            simp [Subscription.look, held]
          rw [stays] at ended
          rw [(attends.left ended).1] at held
          cases held
    · unfold Subscription.look at ended ⊢
      split at ended
      · exact (attends.left ended).2
      · by_cases shut : isShutDown = true
        · rw [if_pos shut]
        · rw [if_neg shut] at ended
          exact absurd (closed ended) shut

theorem take (attends : Attends limit events subscription calls) :
    Attends limit events subscription.take calls where
  stands := by
    obtain ⟨begun, missed, stands, rfl, whole⟩ := attends.stands
    obtain ⟨more, taken, same⟩ := stands.take
    refine ⟨more, missed, taken, by rw [← List.append_assoc, ← List.append_assoc, same], ?_⟩
    intro receives
    apply whole
    unfold Subscription.take at receives
    split at receives <;> exact receives
  left := by
    unfold Subscription.take
    split
    · rename_i looking _
      intro ended
      rw [(attends.left ended).2] at looking
      cases looking
    · exact fun ended => ⟨(attends.left ended).1, rfl⟩

theorem answer (attends : Attends limit events subscription calls) {delivery : Delivery}
    (held : subscription.inHand = some delivery) (accepted : Bool) :
    Attends limit events (subscription.answer limit accepted)
      (calls ++ [⟨delivery.event, accepted⟩]) where
  stands := by
    obtain ⟨begun, missed, stands, rfl, whole⟩ := attends.stands
    refine ⟨begun, missed, stands.answer held accepted, by rw [queue_answer], ?_⟩
    rw [receives_answer]
    exact whole
  left := by
    intro ended
    rw [ended_answer] at ended
    rw [(attends.left ended).1] at held
    cases held

theorem unlist (attends : Attends limit events subscription calls) :
    Attends limit events subscription.unlist calls where
  stands := by
    obtain ⟨begun, missed, stands, same, _⟩ := attends.stands
    refine ⟨begun, missed, stands.congr rfl, same, ?_⟩
    intro impossible
    cases impossible
  left := attends.left

/-- Once a subscriber has left, what it has begun with is settled. -/
theorem trace (attends : Attends limit events subscription calls)
    (ended : subscription.ended = true) :
    ∃ begun rest, events = begun ++ rest ∧ Trace limit begun calls := by
  obtain ⟨begun, missed, stands, same, _⟩ := attends.stands
  exact ⟨begun, _, same, stands.trace (attends.left ended).1⟩

end Attends

/-! ### Leaving is for good -/

@[simp] theorem ended_offer (topic : String) (event : Bytes) (subscription : Subscription Handler) :
    (subscription.offer topic event).ended = subscription.ended := by
  unfold offer
  split <;> rfl

@[simp] theorem ended_take (subscription : Subscription Handler) :
    subscription.take.ended = subscription.ended := by
  unfold Subscription.take
  split <;> rfl

theorem ended_look (isShutDown : Bool) (left : subscription.ended = true) :
    (subscription.look isShutDown).ended = true := by
  unfold Subscription.look
  split
  · exact left
  · split
    · rfl
    · exact left

end Subscription

/-! ## Sound traffic -/

namespace Traffic

variable {settings : Settings} {traffic : Traffic Handler}

/-- What a history leaves behind. -/
structure Sound (settings : Settings) (traffic : Traffic Handler) : Prop where
  configured : traffic.bus.settings = settings
  closed : traffic.bus.isShutDown = traffic.shutdown.isSome
  opened : traffic.shutdown = none →
    ∀ subscription ∈ traffic.bus.subscriptions, subscription.receives = true
  kept : ∀ topic, traffic.bus.kept topic =
    if settings.persistent then published topic traffic.taken else []
  came : traffic.bus.roster = newcomers traffic.taken
  /-- Nobody calls the handler of a subscriber that has not come. -/
  silent : ∀ index, traffic.subscriber? index = none → traffic.calls index = []
  attended : ∀ index subscription, traffic.subscriber? index = some subscription →
    subscription.Attends settings.maxRedeliveries
      (meant settings traffic.taken subscription.topic index) (traffic.calls index)

theorem sound_start (settings : Settings) : (start settings : Traffic Handler).Sound settings where
  configured := rfl
  closed := rfl
  opened := by
    intro _ subscription member
    cases member
  kept := by
    intro topic
    exact (ite_self []).symm
  came := rfl
  silent := fun _ _ => rfl
  attended := by
    intro index subscription there
    cases there

namespace Sound

theorem came_of_subscriber (sound : traffic.Sound settings) {index : Nat}
    {subscription : Subscription Handler} (there : traffic.subscriber? index = some subscription) :
    (newcomers traffic.taken)[index]? = some (subscription.topic, subscription.handler) := by
  rw [subscriber?] at there
  rw [← sound.came, Memory.roster, List.getElem?_map, there]
  rfl

theorem index_lt (sound : traffic.Sound settings) {index : Nat}
    {subscription : Subscription Handler} (there : traffic.subscriber? index = some subscription) :
    index < (newcomers traffic.taken).length :=
  (List.getElem?_eq_some_iff.mp (sound.came_of_subscriber there)).1

/-- A subscriber leaves only after the shutdown was called. -/
theorem shut_of_ended (sound : traffic.Sound settings) {index : Nat}
    {subscription : Subscription Handler} (there : traffic.subscriber? index = some subscription)
    (ended : subscription.ended = true) : traffic.bus.isShutDown = true := by
  rw [sound.closed]
  cases uncalled : traffic.shutdown with
  | some shutdown => rfl
  | none =>
      have receives := sound.opened uncalled _ (List.mem_of_getElem? there)
      simp [Subscription.receives, ended] at receives

/-- A move that leaves the subscribers and the history of the bus alone. -/
theorem unmoved (sound : traffic.Sound settings) {after : Traffic Handler}
    (same_settings : after.bus.settings = traffic.bus.settings)
    (subscriptions : after.bus.subscriptions = traffic.bus.subscriptions)
    (history : after.bus.history = traffic.bus.history)
    (performed : after.performed = traffic.performed) (answers : after.answers = traffic.answers)
    (closed : after.bus.isShutDown = after.shutdown.isSome)
    (uncalled : after.shutdown = none → traffic.shutdown = none) : after.Sound settings := by
  have calls (index : Nat) : after.calls index = traffic.calls index := by
    rw [calls, answers, calls]
  have taken : after.taken = traffic.taken := by rw [taken, performed, taken]
  have subscriber (index : Nat) : after.subscriber? index = traffic.subscriber? index := by
    rw [subscriber?, subscriptions, subscriber?]
  refine ⟨same_settings.trans sound.configured, closed, ?_, ?_, ?_, ?_, ?_⟩
  · rw [subscriptions]
    exact fun not_yet => sound.opened (uncalled not_yet)
  · intro topic
    rw [taken, ← sound.kept, Memory.kept, history, Memory.kept]
  · rw [taken, ← sound.came, Memory.roster, subscriptions, Memory.roster]
  · intro index
    rw [subscriber, calls]
    exact sound.silent index
  · intro index
    rw [subscriber, calls, taken]
    exact sound.attended index

/-- A move of one subscriber changes nothing but where that stands. -/
theorem modified (sound : traffic.Sound settings) (index : Nat)
    {change : Subscription Handler → Subscription Handler}
    (same_topic : ∀ subscription, (change subscription).topic = subscription.topic)
    (same_handler : ∀ subscription, (change subscription).handler = subscription.handler)
    {answers : List (Nat × Handed)}
    (others : ∀ other, other ≠ index →
      calls { traffic with answers } other = traffic.calls other)
    (absent : traffic.subscriber? index = none → calls { traffic with answers } index = [])
    (receives : traffic.shutdown = none → ∀ subscription,
      traffic.subscriber? index = some subscription → (change subscription).receives = true)
    (attends : ∀ subscription, traffic.subscriber? index = some subscription →
      (change subscription).Attends settings.maxRedeliveries
        (meant settings traffic.taken subscription.topic index)
        (calls { traffic with answers } index)) :
    Sound settings { traffic with bus := traffic.bus.modify index change, answers } := by
  refine ⟨sound.configured, sound.closed, ?_, sound.kept, ?_, ?_, ?_⟩
  · intro uncalled later member
    obtain ⟨other, there⟩ := List.getElem?_of_mem member
    simp only [Memory.modify, List.getElem?_modify, Option.map_eq_map,
      Option.map_eq_some_iff] at there
    obtain ⟨earlier, there, rfl⟩ := there
    by_cases same : index = other
    · subst same
      rw [if_pos rfl]
      exact receives uncalled earlier there
    · rw [if_neg same]
      exact sound.opened uncalled earlier (List.mem_of_getElem? there)
  · exact (traffic.bus.roster_modify index same_topic same_handler).trans sound.came
  · intro other missing
    have missing_before : traffic.subscriber? other = none := by
      simpa [subscriber?, Memory.modify] using missing
    by_cases same : other = index
    · exact same ▸ absent (same ▸ missing_before)
    · exact (others other same).trans (sound.silent other missing_before)
  · intro other subscription there
    simp only [subscriber?, Memory.modify, List.getElem?_modify, Option.map_eq_map,
      Option.map_eq_some_iff] at there
    obtain ⟨earlier, there, rfl⟩ := there
    by_cases same : index = other
    · subst same
      rw [if_pos rfl, same_topic]
      exact attends earlier there
    · have attended := sound.attended other earlier there
      rw [← others other (Ne.symm same)] at attended
      rw [if_neg same]
      exact attended

theorem put (sound : traffic.Sound settings) (topic : String) (event : Bytes) :
    (traffic.perform (.publish topic event)).Sound settings := by
  have taken : (traffic.perform (.publish topic event)).taken =
      traffic.taken ++ [.publish topic event] := by
    simp [Traffic.taken, perform, Request.move]
  have later (other : String) : published other [(.publish topic event : Bus.Move Handler)] =
      if topic = other then [event] else [] := by
    by_cases own : topic = other <;> simp [published, Bus.Move.published?, own]
  refine ⟨sound.configured, sound.closed, ?_, ?_, ?_, ?_, ?_⟩
  · intro uncalled subscription member
    obtain ⟨earlier, there, rfl⟩ := List.mem_map.mp member
    rw [Subscription.receives_offer]
    exact sound.opened uncalled earlier there
  · intro other
    rw [taken, published_append, later]
    refine (traffic.bus.kept_put topic event other).trans ?_
    rw [sound.kept, sound.configured]
    by_cases persistent : settings.persistent = true <;> simp [persistent]
  · rw [taken, newcomers_concat, ← sound.came]
    exact (traffic.bus.roster_map (Subscription.topic_offer topic event)
      (Subscription.handler_offer topic event)).trans (List.append_nil _).symm
  · intro index absent
    exact sound.silent index (by simpa [subscriber?, perform, Memory.put] using absent)
  · intro index subscription there
    simp only [subscriber?, perform, Memory.put, List.getElem?_map, Option.map_eq_some_iff] at there
    obtain ⟨earlier, there, rfl⟩ := there
    have attends := (sound.attended index earlier there).offer topic event
    rw [taken, Subscription.topic_offer, meant_append settings (sound.index_lt there), later]
    exact attends

theorem engage (sound : traffic.Sound settings) (topic : String) (handler : Handler) :
    (traffic.perform (.subscribe topic handler)).Sound settings := by
  have taken : (traffic.perform (.subscribe topic handler)).taken =
      traffic.taken ++ [.subscribe topic handler] := by
    simp [Traffic.taken, perform, Request.move]
  have later (other : String) :
      published other [(.subscribe topic handler : Bus.Move Handler)] = [] := rfl
  have length : (newcomers traffic.taken).length = traffic.bus.subscriptions.length := by
    rw [← sound.came, Memory.roster, List.length_map]
  refine ⟨sound.configured, sound.closed, ?_, ?_, ?_, ?_, ?_⟩
  · intro uncalled subscription member
    rcases List.mem_append.mp member with earlier | newest
    · exact sound.opened uncalled subscription earlier
    · rw [List.mem_singleton.mp newest]
      rfl
  · intro other
    rw [taken, published_append, later, List.append_nil]
    exact sound.kept other
  · rw [taken, newcomers_concat, ← sound.came]
    exact List.map_append
  · intro index absent
    apply sound.silent index
    rw [subscriber?, perform, Memory.engage, List.getElem?_eq_none_iff,
      List.length_append] at absent
    exact List.getElem?_eq_none (by omega)
  · intro index subscription there
    rw [subscriber?, perform, Memory.engage, List.getElem?_append] at there
    split at there
    · rw [taken, meant_append settings (sound.index_lt there), later, List.append_nil]
      exact sound.attended index subscription there
    · rename_i newest
      obtain ⟨position, rfl⟩ := List.getElem?_eq_some_iff.mp there
      obtain same : index = traffic.bus.subscriptions.length := by
        rw [List.length_singleton] at position
        omega
      subst same
      have unheard := sound.silent _ (List.getElem?_eq_none (Nat.le_refl _))
      have addressed := meant_newcomer settings traffic.taken topic handler
      rw [length, ← sound.kept] at addressed
      have calls : (traffic.perform (.subscribe topic handler)).calls
          traffic.bus.subscriptions.length = [] := unheard
      simp only [Nat.sub_self, List.getElem_cons_zero, taken, addressed, calls]
      exact .newcomer _ topic handler _

theorem clear (sound : traffic.Sound settings) {shutdown : Shutdown}
    (called : traffic.shutdown.isSome = true) :
    Sound settings { traffic with bus := traffic.bus.clear, shutdown := some shutdown } := by
  refine ⟨sound.configured, sound.closed.trans called, ?_, sound.kept, ?_, ?_, ?_⟩
  · intro impossible
    cases impossible
  · have same := @Memory.roster_map _ traffic.bus Subscription.unlist (fun _ => rfl) (fun _ => rfl)
    exact same.trans sound.came
  · intro index absent
    exact sound.silent index (by simpa [subscriber?, Memory.clear] using absent)
  · intro index subscription there
    simp only [subscriber?, Memory.clear, List.getElem?_map, Option.map_eq_some_iff] at there
    obtain ⟨earlier, there, rfl⟩ := there
    exact (sound.attended index earlier there).unlist

theorem perform (sound : traffic.Sound settings) (request : Request Handler) :
    (traffic.perform request).Sound settings := by
  cases request with
  | publish topic event => exact sound.put topic event
  | subscribe topic handler => exact sound.engage topic handler

theorem proceed (sound : traffic.Sound settings) : (traffic.step .proceed).Sound settings := by
  cases stage : traffic.shutdown with
  | none =>
      simp only [step, stage]
      exact sound
  | some shutdown =>
      have called : traffic.shutdown.isSome = true := by rw [stage]; rfl
      have closed := sound.closed.trans called
      simp only [step, stage]
      cases shutdown with
      | called => exact sound.clear called
      | cleared => exact sound.unmoved rfl rfl rfl rfl rfl closed (by rintro ⟨⟩)
      | awaiting tasks past =>
          simp only [Shutdown.proceed]
          split <;> exact sound.unmoved rfl rfl rfl rfl rfl closed (by rintro ⟨⟩)
      | returned tasks => exact sound.unmoved rfl rfl rfl rfl rfl closed (by rintro ⟨⟩)

end Sound

theorem calls_answer (traffic : Traffic Handler) (index : Nat) (handed : Handed) (other : Nat) :
    calls { traffic with answers := traffic.answers ++ [(index, handed)] } other =
      traffic.calls other ++ if index = other then [handed] else [] := by
  by_cases same : index = other <;> simp [calls, same]

theorem step_answer {index : Nat} {subscription : Subscription Handler}
    (there : traffic.subscriber? index = some subscription) {delivery : Delivery}
    (held : subscription.inHand = some delivery) (accepted : Bool) :
    traffic.step (.answer index accepted) =
      { traffic with
        bus := traffic.bus.answer index accepted
        answers := traffic.answers ++ [(index, ⟨delivery.event, accepted⟩)] } := by
  simp only [step, there, Option.bind_some, held]

theorem calls_step_answer {index : Nat} {subscription : Subscription Handler}
    (there : traffic.subscriber? index = some subscription) {delivery : Delivery}
    (held : subscription.inHand = some delivery) (accepted : Bool) (other : Nat) :
    (traffic.step (.answer index accepted)).calls other =
      traffic.calls other ++ if index = other then [⟨delivery.event, accepted⟩] else [] := by
  rw [step_answer there held]
  exact calls_answer traffic index _ other

theorem step_answer_free {index : Nat}
    (free : (traffic.subscriber? index).bind Subscription.inHand = none) (accepted : Bool) :
    traffic.step (.answer index accepted) = traffic := by
  simp only [step, free]

theorem Sound.answer (sound : traffic.Sound settings) (index : Nat) (accepted : Bool) :
    (traffic.step (.answer index accepted)).Sound settings := by
  cases held : (traffic.subscriber? index).bind Subscription.inHand with
  | none =>
      rw [step_answer_free held]
      exact sound
  | some delivery =>
      obtain ⟨subscription, there, in_hand⟩ := Option.bind_eq_some_iff.mp held
      rw [step_answer there in_hand, Memory.answer, sound.configured]
      refine sound.modified index (by simp) (by simp) ?_ ?_ ?_ ?_
      · intro other different
        rw [calls_answer, if_neg (Ne.symm different), List.append_nil]
      · intro absent
        rw [absent] at there
        cases there
      · intro uncalled other other_there
        rw [Subscription.receives_answer]
        exact sound.opened uncalled other (List.mem_of_getElem? other_there)
      · intro other other_there
        obtain rfl := Option.some.inj (there.symm.trans other_there)
        rw [calls_answer, if_pos rfl]
        exact (sound.attended index subscription there).answer in_hand accepted

theorem Sound.step (sound : traffic.Sound settings) (move : Move Handler) :
    (traffic.step move).Sound settings := by
  cases move with
  | ask request =>
      simp only [Traffic.step]
      split <;> exact sound.unmoved rfl rfl rfl rfl rfl sound.closed id
  | perform position =>
      simp only [Traffic.step]
      split
      · exact sound
      · have let_in : Sound settings
            { traffic with pending := traffic.pending.eraseIdx position } :=
          sound.unmoved rfl rfl rfl rfl rfl sound.closed id
        exact let_in.perform _
  | register position =>
      simp only [Traffic.step]
      split
      · exact sound
      · exact sound.unmoved rfl rfl rfl rfl rfl sound.closed id
  | look index =>
      refine sound.modified index (by simp) (by simp) (fun _ _ => rfl) (sound.silent index) ?_ ?_
      · intro uncalled subscription there
        have receives := sound.opened uncalled subscription (List.mem_of_getElem? there)
        have opened : traffic.bus.isShutDown = false := by
          rw [sound.closed, uncalled]
          rfl
        rw [opened]
        unfold Subscription.look
        split <;> exact receives
      · intro subscription there
        exact (sound.attended index subscription there).look (sound.shut_of_ended there)
  | take index =>
      refine sound.modified index (by simp) (by simp) (fun _ _ => rfl) (sound.silent index) ?_ ?_
      · intro uncalled subscription there
        have receives := sound.opened uncalled subscription (List.mem_of_getElem? there)
        unfold Subscription.take
        split <;> exact receives
      · intro subscription there
        exact (sound.attended index subscription there).take
  | answer index accepted => exact sound.answer index accepted
  | shutDown =>
      simp only [Traffic.step]
      split
      · exact sound.unmoved rfl rfl rfl rfl rfl rfl (by rintro ⟨⟩)
      · exact sound
  | proceed => exact sound.proceed

theorem sound_run (settings : Settings) (history : List (Move Handler)) :
    (run settings history).Sound settings := by
  induction history using List.reverseRecOn with
  | nil => exact sound_start settings
  | append_singleton past move ih =>
      rw [run_concat]
      exact ih.step move

end Traffic

end Outbox.Bus
