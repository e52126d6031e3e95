import Mathlib.Data.List.Basic
import Outbox.Bus.Memory

/-!
# What waits for a subscriber

The event in the hand of a subscriber comes first, and those of its queue after it.  A publication
puts an event behind them, taking the next event in hand leaves them as they are, and an accepted
event is the first of them.
-/

set_option autoImplicit false

namespace Outbox.Bus

variable {Handler : Type}

namespace Subscription

/-- What a subscriber has still to handle. -/
def waiting (subscription : Subscription Handler) : List Bytes :=
  (subscription.inHand.map Delivery.event).toList ++ subscription.queue

@[simp] theorem topic_offer (topic : String) (event : Bytes) (subscription : Subscription Handler) :
    (subscription.offer topic event).topic = subscription.topic := by
  unfold offer
  split <;> rfl

@[simp] theorem handler_offer (topic : String) (event : Bytes)
    (subscription : Subscription Handler) :
    (subscription.offer topic event).handler = subscription.handler := by
  unfold offer
  split <;> rfl

@[simp] theorem receives_offer (topic : String) (event : Bytes)
    (subscription : Subscription Handler) :
    (subscription.offer topic event).receives = subscription.receives := by
  unfold offer
  split <;> rfl

theorem waiting_offer (topic : String) (event : Bytes) {subscription : Subscription Handler}
    (staying : subscription.receives = true) :
    (subscription.offer topic event).waiting =
      subscription.waiting ++ if subscription.topic = topic then [event] else [] := by
  unfold offer
  by_cases own : subscription.topic = topic
  · simp [own, staying, waiting]
  · simp [own]

@[simp] theorem topic_look (isShutDown : Bool) (subscription : Subscription Handler) :
    (subscription.look isShutDown).topic = subscription.topic := by
  unfold look
  split
  · rfl
  · split <;> rfl

@[simp] theorem handler_look (isShutDown : Bool) (subscription : Subscription Handler) :
    (subscription.look isShutDown).handler = subscription.handler := by
  unfold look
  split
  · rfl
  · split <;> rfl

@[simp] theorem topic_take (subscription : Subscription Handler) :
    subscription.take.topic = subscription.topic := by
  unfold take
  split <;> rfl

@[simp] theorem handler_take (subscription : Subscription Handler) :
    subscription.take.handler = subscription.handler := by
  unfold take
  split <;> rfl

@[simp] theorem topic_next (isShutDown : Bool) (subscription : Subscription Handler) :
    (subscription.next isShutDown).topic = subscription.topic := by
  rw [next, topic_take, topic_look]

@[simp] theorem handler_next (isShutDown : Bool) (subscription : Subscription Handler) :
    (subscription.next isShutDown).handler = subscription.handler := by
  rw [next, handler_take, handler_look]

/-- On a bus that is open, taking the next event in hand leaves what waits as it is. -/
theorem next_open (subscription : Subscription Handler) :
    (subscription.next false).receives = subscription.receives ∧
    (subscription.next false).waiting = subscription.waiting ∧
    (subscription.waiting ≠ [] → (subscription.next false).inHand.isSome = true) := by
  rcases subscription with ⟨topic, handler, queue, _ | delivery, listed, looking, ended⟩
  · cases queue with
    | nil => simp [next, look, take, waiting, receives]
    | cons event queue => simp [next, look, take, waiting, receives]
  · simp [next, look, take, waiting, receives]

/-- An accepted event is the first of those that wait. -/
theorem answer_accepted (maxRedeliveries : Nat) {subscription : Subscription Handler}
    {delivery : Delivery} (held : subscription.inHand = some delivery) :
    (subscription.answer maxRedeliveries true).topic = subscription.topic ∧
    (subscription.answer maxRedeliveries true).receives = subscription.receives ∧
    subscription.waiting =
      delivery.event :: (subscription.answer maxRedeliveries true).waiting := by
  simp [answer, held, waiting, receives]

end Subscription

namespace Memory

theorem mem_kept {bus : Memory Handler} {topic : String} {event : Bytes} :
    event ∈ bus.kept topic ↔ (topic, event) ∈ bus.history := by
  simp [kept]

/-- A persistent bus keeps what is put on it. -/
theorem kept_put (bus : Memory Handler) (topic : String) (event : Bytes) (other : String) :
    (bus.put topic event).kept other =
      bus.kept other ++ if bus.settings.persistent = true ∧ topic = other then [event] else [] := by
  by_cases persistent : bus.settings.persistent = true
  · by_cases own : topic = other <;> simp [put, kept, persistent, own]
  · simp [put, kept, persistent]

/-- The topics and handlers of the subscribers, in the order in which they came. -/
def roster (bus : Memory Handler) : List (String × Handler) :=
  bus.subscriptions.map fun subscription => (subscription.topic, subscription.handler)

theorem roster_map (bus : Memory Handler)
    {change : Subscription Handler → Subscription Handler}
    (same_topic : ∀ subscription, (change subscription).topic = subscription.topic)
    (same_handler : ∀ subscription, (change subscription).handler = subscription.handler) :
    roster { bus with subscriptions := bus.subscriptions.map change } = bus.roster := by
  rw [roster, List.map_map]
  apply List.map_congr_left
  intro subscription _
  rw [Function.comp_apply, same_topic, same_handler]

theorem roster_modify (bus : Memory Handler) (index : Nat)
    {change : Subscription Handler → Subscription Handler}
    (same_topic : ∀ subscription, (change subscription).topic = subscription.topic)
    (same_handler : ∀ subscription, (change subscription).handler = subscription.handler) :
    (bus.modify index change).roster = bus.roster := by
  apply List.ext_getElem?
  intro other
  simp only [roster, modify, List.getElem?_map, List.getElem?_modify, Option.map_eq_map,
    Option.map_map]
  congr 1
  funext subscription
  by_cases same : index = other <;> simp [same, same_topic, same_handler]

theorem ensureOpen_open {bus : Memory Handler} (opened : bus.isShutDown = false) :
    bus.ensureOpen = .ok () := by
  simp [ensureOpen, opened]

theorem ensureOpen_closed {bus : Memory Handler} (closed : bus.isShutDown = true) :
    bus.ensureOpen = .error shutDownError := by
  simp [ensureOpen, closed]

theorem publish_open {bus : Memory Handler} (opened : bus.isShutDown = false) (topic : String)
    (event : Bytes) : bus.publish topic event = .ok (bus.put topic event) := by
  rw [publish, ensureOpen_open opened]
  rfl

theorem publish_persistent {bus : Memory Handler} (opened : bus.isShutDown = false)
    (persistent : bus.settings.persistent = true) (topic : String) (event : Bytes) :
    bus.publish topic event = .ok { bus with
      history := bus.history ++ [(topic, event)]
      subscriptions := bus.subscriptions.map (Subscription.offer topic event) } := by
  rw [publish_open opened, put, if_pos persistent]

theorem subscribe_open {bus : Memory Handler} (opened : bus.isShutDown = false) (topic : String)
    (handler : Handler) : bus.subscribe topic handler = .ok { bus with
      subscriptions := bus.subscriptions ++ [{ topic, handler, queue := bus.kept topic }]
      tasks := bus.tasks ++ [bus.subscriptions.length] } := by
  rw [subscribe, ensureOpen_open opened]
  rfl

theorem publish_closed {bus : Memory Handler} (closed : bus.isShutDown = true) (topic : String)
    (event : Bytes) : bus.publish topic event = .error shutDownError := by
  rw [publish, ensureOpen_closed closed]
  rfl

theorem subscribe_closed {bus : Memory Handler} (closed : bus.isShutDown = true) (topic : String)
    (handler : Handler) : bus.subscribe topic handler = .error shutDownError := by
  rw [subscribe, ensureOpen_closed closed]
  rfl

/-- A publication that was let in. -/
theorem of_publish {bus after : Memory Handler} {topic : String} {event : Bytes}
    (published : bus.publish topic event = .ok after) :
    bus.isShutDown = false ∧ after = bus.put topic event := by
  cases closed : bus.isShutDown with
  | true =>
      rw [publish_closed closed] at published
      cases published
  | false =>
      rw [publish_open closed] at published
      exact ⟨rfl, (Except.ok.inj published).symm⟩

/-- A subscriber that was let in. -/
theorem of_subscribe {bus after : Memory Handler} {topic : String} {handler : Handler}
    (subscribed : bus.subscribe topic handler = .ok after) :
    bus.isShutDown = false ∧
      after = (bus.engage topic handler).register bus.subscriptions.length := by
  cases closed : bus.isShutDown with
  | true =>
      rw [subscribe_closed closed] at subscribed
      cases subscribed
  | false =>
      rw [subscribe_open closed] at subscribed
      exact ⟨rfl, (Except.ok.inj subscribed).symm⟩

theorem modify_of_fixed {bus : Memory Handler} {index : Nat}
    {change : Subscription Handler → Subscription Handler}
    (fixed : ∀ subscription, bus.subscriptions[index]? = some subscription →
      change subscription = subscription) : bus.modify index change = bus := by
  have same : bus.subscriptions.modify index change = bus.subscriptions := by
    apply List.ext_getElem?
    intro other
    rw [List.getElem?_modify]
    by_cases own : index = other
    · subst own
      cases there : bus.subscriptions[index]? with
      | none => rfl
      | some subscription => simp [fixed subscription there]
    · simp [own]
  rw [modify, same]

end Memory

end Outbox.Bus
