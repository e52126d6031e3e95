import Outbox.Proofs.Bus.Histories
import Outbox.Proofs.Bus.Memory

/-!
# Deliveries

The calls of a handler are at every moment a trace of the events that its subscriber has begun with,
but for the one in hand, which was only refused so far.  As long as the bus is open, these events
and those of its queue are together what is meant for the subscriber, in this order.
-/

set_option autoImplicit false

namespace Outbox.Bus

variable {Handler : Type}

/-! ## Where a subscriber stands -/

/-- The events that a subscriber has begun with, and the calls that its handler has answered.  They
settle these events, but for the one in hand, which was only refused so far. -/
inductive Subscription.Stands (limit : Nat) (subscription : Subscription Handler) :
    List Bytes → List Handed → Prop where
  | free {begun : List Bytes} {calls : List Handed} (unheld : subscription.inHand = none)
      (trace : Trace limit begun calls) : Stands limit subscription begun calls
  | busy {settled : List Bytes} {calls : List Handed} {delivery : Delivery}
      (held : subscription.inHand = some delivery) (allowed : delivery.refusals ≤ limit)
      (trace : Trace limit settled calls) :
      Stands limit subscription (settled ++ [delivery.event])
        (calls ++ refused delivery.event delivery.refusals)

namespace Subscription

variable {subscription : Subscription Handler} {limit : Nat} {begun : List Bytes}
  {calls : List Handed}

theorem Stands.congr (stands : subscription.Stands limit begun calls)
    {other : Subscription Handler} (same : other.inHand = subscription.inHand) :
    other.Stands limit begun calls := by
  cases stands with
  | free unheld trace => exact .free (same.trans unheld) trace
  | busy held allowed trace => exact .busy (same.trans held) allowed trace

theorem Stands.trace (stands : subscription.Stands limit begun calls)
    (unheld : subscription.inHand = none) : Trace limit begun calls := by
  cases stands with
  | free _ trace => exact trace
  | busy held =>
      rw [unheld] at held
      cases held

/-- A subscriber that takes an event begins with it. -/
theorem Stands.take (stands : subscription.Stands limit begun calls) :
    ∃ more, subscription.take.Stands limit more calls ∧
      more ++ subscription.take.queue = begun ++ subscription.queue := by
  unfold Subscription.take
  split
  · rename_i event queue unheld looking queued
    have taken := @Stands.busy _ limit
      { subscription with looking := false, queue := queue, inHand := some { event } } _ _
      { event } rfl (Nat.zero_le limit) (stands.trace unheld)
    rw [refused, List.replicate_zero, List.append_nil] at taken
    exact ⟨begun ++ [event], taken, by rw [queued, List.append_assoc, List.singleton_append]⟩
  · exact ⟨begun, stands.congr rfl, rfl⟩

/-- The handler answers about the event in hand. -/
theorem Stands.answer (stands : subscription.Stands limit begun calls) {delivery : Delivery}
    (held : subscription.inHand = some delivery) (accepted : Bool) :
    (subscription.answer limit accepted).Stands limit begun
      (calls ++ [⟨delivery.event, accepted⟩]) := by
  cases stands with
  | free unheld =>
      rw [held] at unheld
      cases unheld
  | @busy settled settling _ also_held allowed trace =>
      obtain rfl := Option.some.inj (held.symm.trans also_held)
      rw [List.append_assoc]
      cases accepted with
      | true =>
          exact .free (by simp [Subscription.answer, held])
            (trace.concat (.accepted allowed))
      | false =>
          rw [← refused_succ]
          by_cases last : limit ≤ delivery.refusals
          · obtain same : delivery.refusals = limit := Nat.le_antisymm allowed last
            rw [same]
            exact .free (by simp [Subscription.answer, held, last]) (trace.concat .givenUp)
          · exact @Stands.busy _ limit (subscription.answer limit false) _ _
              { delivery with refusals := delivery.refusals + 1 }
              (by simp [Subscription.answer, held, last]) (Nat.lt_of_not_le last) trace

theorem exists_inHand_answer (limit : Nat) (accepted : Bool)
    (subscription : Subscription Handler) :
    ∃ inHand, subscription.answer limit accepted = { subscription with inHand } := by
  unfold Subscription.answer
  split
  · exact ⟨_, rfl⟩
  · split <;> exact ⟨_, rfl⟩

section Answer
variable (limit : Nat) (accepted : Bool) (subscription : Subscription Handler)

@[simp] theorem topic_answer :
    (subscription.answer limit accepted).topic = subscription.topic := by
  obtain ⟨inHand, same⟩ := exists_inHand_answer limit accepted subscription
  rw [same]

@[simp] theorem handler_answer :
    (subscription.answer limit accepted).handler = subscription.handler := by
  obtain ⟨inHand, same⟩ := exists_inHand_answer limit accepted subscription
  rw [same]

@[simp] theorem queue_answer :
    (subscription.answer limit accepted).queue = subscription.queue := by
  obtain ⟨inHand, same⟩ := exists_inHand_answer limit accepted subscription
  rw [same]

@[simp] theorem ended_answer :
    (subscription.answer limit accepted).ended = subscription.ended := by
  obtain ⟨inHand, same⟩ := exists_inHand_answer limit accepted subscription
  rw [same]

end Answer

theorem receives_answer (limit : Nat) (accepted : Bool) (subscription : Subscription Handler) :
    (subscription.answer limit accepted).receives = subscription.receives := by
  obtain ⟨inHand, same⟩ := exists_inHand_answer limit accepted subscription
  rw [same]
  rfl

section Look
variable (isShutDown : Bool) (subscription : Subscription Handler)

@[simp] theorem inHand_look : (subscription.look isShutDown).inHand = subscription.inHand := by
  unfold Subscription.look
  split
  · rfl
  · split <;> rfl

@[simp] theorem queue_look : (subscription.look isShutDown).queue = subscription.queue := by
  unfold Subscription.look
  split
  · rfl
  · split <;> rfl

end Look

/-- The subscriber receives events, and its queue holds what is meant for it and what it has not
begun with. -/
structure Serves (limit : Nat) (events : List Bytes) (subscription : Subscription Handler)
    (calls : List Handed) : Prop where
  staying : subscription.receives = true
  stands : ∃ begun, subscription.Stands limit begun calls ∧ events = begun ++ subscription.queue

namespace Serves

variable {events : List Bytes}

theorem newcomer (limit : Nat) (topic : String) (handler : Handler) (queue : List Bytes) :
    Serves limit queue { topic, handler, queue } [] where
  staying := rfl
  stands := ⟨[], .free rfl .nil, rfl⟩

theorem offer (serves : Serves limit events subscription calls) (topic : String)
    (event : Bytes) :
    Serves limit (events ++ if topic = subscription.topic then [event] else [])
      (subscription.offer topic event) calls where
  staying := (receives_offer ..).trans serves.staying
  stands := by
    obtain ⟨begun, stands, rfl⟩ := serves.stands
    by_cases own : topic = subscription.topic
    · refine ⟨begun, stands.congr ?_, ?_⟩ <;>
        simp [Subscription.offer, own, serves.staying]
    · refine ⟨begun, stands.congr ?_, ?_⟩ <;> simp [Subscription.offer, own, Ne.symm own]

theorem next (serves : Serves limit events subscription calls) :
    Serves limit events (subscription.next false) calls where
  staying := subscription.next_open.1.trans serves.staying
  stands := by
    obtain ⟨begun, stands, rfl⟩ := serves.stands
    obtain ⟨more, taken, same⟩ := (stands.congr (subscription.inHand_look false)).take
    exact ⟨more, taken, by rw [Subscription.next, same, queue_look]⟩

theorem answer (serves : Serves limit events subscription calls) {delivery : Delivery}
    (held : subscription.inHand = some delivery) (accepted : Bool) :
    Serves limit events (subscription.answer limit accepted)
      (calls ++ [⟨delivery.event, accepted⟩]) where
  staying := (receives_answer ..).trans serves.staying
  stands := by
    obtain ⟨begun, stands, rfl⟩ := serves.stands
    exact ⟨begun, stands.answer held accepted, by rw [queue_answer]⟩

theorem trace (serves : Serves limit events subscription calls)
    (nothing : subscription.waiting = []) : Trace limit events calls := by
  obtain ⟨begun, stands, rfl⟩ := serves.stands
  simp only [waiting, List.append_eq_nil_iff, Option.toList_eq_nil_iff,
    Option.map_eq_none_iff] at nothing
  rw [nothing.2, List.append_nil]
  exact stands.trace nothing.1

end Serves

end Subscription

/-! ## Open buses -/

namespace Observed

/-- What a history leaves behind in which the bus was not shut down. -/
structure Sound (settings : Settings) (history : List (Move Handler))
    (observed : Observed Handler) : Prop where
  configured : observed.bus.settings = settings
  opened : observed.bus.isShutDown = false
  kept : ∀ topic, observed.bus.kept topic =
    if settings.persistent then published topic history else []
  came : observed.bus.subscriptions.map (fun subscription =>
    (subscription.topic, subscription.handler)) = newcomers history
  /-- Nobody calls the handler of a subscriber that has not come. -/
  silent : ∀ index, observed.subscriber? index = none → observed.calls index = []
  served : ∀ index subscription, observed.subscriber? index = some subscription →
    subscription.Serves settings.maxRedeliveries
      (meant settings history subscription.topic index) (observed.calls index)

section Sound
variable {settings : Settings} {history : List (Move Handler)} {observed : Observed Handler}

theorem sound_start (settings : Settings) :
    (start settings : Observed Handler).Sound settings [] where
  configured := rfl
  opened := rfl
  kept := by
    intro topic
    exact (ite_self []).symm
  came := rfl
  silent := fun _ _ => rfl
  served := by
    intro index subscription there
    cases there

theorem Sound.came_of_subscriber (sound : observed.Sound settings history) {index : Nat}
    {subscription : Subscription Handler} (there : observed.subscriber? index = some subscription) :
    (newcomers history)[index]? = some (subscription.topic, subscription.handler) := by
  rw [subscriber?] at there
  rw [← sound.came, List.getElem?_map, there]
  rfl

theorem Sound.subscriber_of_came (sound : observed.Sound settings history) {index : Nat}
    {topic : String} {handler : Handler}
    (came : (newcomers history)[index]? = some (topic, handler)) :
    ∃ subscription, observed.subscriber? index = some subscription ∧
      subscription.topic = topic := by
  rw [← sound.came, List.getElem?_map, Option.map_eq_some_iff] at came
  obtain ⟨subscription, there, same⟩ := came
  exact ⟨subscription, there, congrArg Prod.fst same⟩

theorem Sound.length_newcomers (sound : observed.Sound settings history) :
    (newcomers history).length = observed.bus.subscriptions.length := by
  rw [← sound.came, List.length_map]

theorem Sound.index_lt (sound : observed.Sound settings history) {index : Nat}
    {subscription : Subscription Handler} (there : observed.subscriber? index = some subscription) :
    index < (newcomers history).length :=
  (List.getElem?_eq_some_iff.mp (sound.came_of_subscriber there)).1

theorem Sound.publish (sound : observed.Sound settings history) (topic : String) (event : Bytes) :
    (observed.step (.publish topic event)).Sound settings (history ++ [.publish topic event]) := by
  have later (other : String) : published other [(.publish topic event : Move Handler)] =
      if topic = other then [event] else [] := by
    by_cases own : topic = other <;> simp [published, Move.published?, own]
  rw [step, Memory.publish_open sound.opened]
  refine ⟨sound.configured, sound.opened, ?_, ?_, ?_, ?_⟩
  · intro other
    dsimp only
    rw [Memory.kept_put, sound.kept, sound.configured, published_append, later]
    by_cases persistent : settings.persistent = true <;> simp [persistent]
  · rw [newcomers_concat, ← sound.came]
    exact (observed.bus.roster_map (Subscription.topic_offer topic event)
      (Subscription.handler_offer topic event)).trans (List.append_nil _).symm
  · intro index absent
    exact sound.silent index (by simpa [subscriber?, Memory.put] using absent)
  · intro index subscription there
    simp only [subscriber?, Memory.put, List.getElem?_map, Option.map_eq_some_iff] at there
    obtain ⟨earlier, there, rfl⟩ := there
    have serves := (sound.served index earlier there).offer topic event
    rwa [Subscription.topic_offer, meant_append settings (sound.index_lt there), later]

theorem Sound.subscribe (sound : observed.Sound settings history) (topic : String)
    (handler : Handler) :
    (observed.step (.subscribe topic handler)).Sound settings
      (history ++ [.subscribe topic handler]) := by
  have later (other : String) :
      published other [(.subscribe topic handler : Move Handler)] = [] := rfl
  rw [step, Memory.subscribe_open sound.opened]
  refine ⟨sound.configured, sound.opened, ?_, ?_, ?_, ?_⟩
  · intro other
    rw [published_append, later, List.append_nil]
    exact sound.kept other
  · rw [newcomers_concat, ← sound.came, List.map_append]
    rfl
  · intro index absent
    apply sound.silent index
    rw [subscriber?, List.getElem?_eq_none_iff, List.length_append] at absent
    exact List.getElem?_eq_none (by omega)
  · intro index subscription there
    rw [subscriber?, List.getElem?_append] at there
    split at there
    · rename_i earlier
      rw [meant_append settings (sound.index_lt there), later, List.append_nil]
      exact sound.served index subscription there
    · rename_i newest
      obtain ⟨position, rfl⟩ := List.getElem?_eq_some_iff.mp there
      obtain same : index = observed.bus.subscriptions.length := by
        rw [List.length_singleton] at position
        omega
      subst same
      have unheard := sound.silent _ (List.getElem?_eq_none (Nat.le_refl _))
      have addressed := meant_newcomer settings history topic handler
      rw [sound.length_newcomers, ← sound.kept] at addressed
      simp only [Nat.sub_self, List.getElem_cons_zero, addressed, unheard]
      exact .newcomer _ topic handler _

/-- A move of a subscriber changes nothing but where it stands. -/
theorem Sound.modified (sound : observed.Sound settings history) {move : Move Handler}
    {index : Nat} (own : move.IsOf index)
    {change : Subscription Handler → Subscription Handler}
    (kept_topic : ∀ subscription, (change subscription).topic = subscription.topic)
    (kept_handler : ∀ subscription, (change subscription).handler = subscription.handler)
    {calls : Nat → List Handed}
    (others : ∀ other, other ≠ index → calls other = observed.calls other)
    (absent : observed.subscriber? index = none → calls index = [])
    (serves : ∀ subscription, observed.subscriber? index = some subscription →
      (change subscription).Serves settings.maxRedeliveries
        (meant settings history subscription.topic index) (calls index)) :
    Sound settings (history ++ [move]) { bus := observed.bus.modify index change, calls } := by
  have unpublished (topic : String) : published topic [move] = [] := by
    rcases own with rfl | ⟨accepted, rfl⟩ <;> rfl
  have uncome : move.newcomer? = none := by
    rcases own with rfl | ⟨accepted, rfl⟩ <;> rfl
  refine ⟨sound.configured, sound.opened, ?_, ?_, ?_, ?_⟩
  · intro topic
    rw [published_append, unpublished, List.append_nil]
    exact sound.kept topic
  · rw [newcomers_concat, uncome, ← sound.came]
    exact (observed.bus.roster_modify index kept_topic kept_handler).trans
      (List.append_nil _).symm
  · intro other missing
    have missing_before : observed.subscriber? other = none := by
      simpa [subscriber?, Memory.modify] using missing
    by_cases same : other = index
    · exact same ▸ absent (same ▸ missing_before)
    · exact (others other same).trans (sound.silent other missing_before)
  · intro other subscription there
    simp only [subscriber?, Memory.modify, List.getElem?_modify, Option.map_eq_map,
      Option.map_eq_some_iff] at there
    obtain ⟨earlier, there, rfl⟩ := there
    by_cases same : index = other
    · subst same
      rw [if_pos rfl, kept_topic, meant_append settings (sound.index_lt there), unpublished,
        List.append_nil]
      exact serves earlier there
    · have served := sound.served other earlier there
      rw [← others other (Ne.symm same)] at served
      rw [if_neg same, meant_append settings (sound.index_lt there), unpublished, List.append_nil]
      exact served

theorem Sound.step (sound : observed.Sound settings history) {move : Move Handler}
    (going : move ≠ .shutDown) : (observed.step move).Sound settings (history ++ [move]) := by
  cases move with
  | publish topic event => exact sound.publish topic event
  | subscribe topic handler => exact sound.subscribe topic handler
  | next index =>
      refine sound.modified (Or.inl rfl) ?_ ?_ (fun _ _ => rfl) (sound.silent index) ?_
      · simp
      · simp
      · intro subscription there
        rw [sound.opened]
        exact (sound.served index subscription there).next
  | answer index accepted =>
      cases held : (observed.subscriber? index).bind Subscription.inHand with
      | none =>
          have idle : observed.step (.answer index accepted) =
              { bus := observed.bus.modify index id, calls := observed.calls } := by
            simp [Observed.step, held, Memory.modify, List.modify_id]
          rw [idle]
          exact sound.modified (Or.inr ⟨accepted, rfl⟩) (fun _ => rfl) (fun _ => rfl)
            (fun _ _ => rfl) (sound.silent index) (sound.served index)
      | some delivery =>
          obtain ⟨subscription, there, in_hand⟩ := Option.bind_eq_some_iff.mp held
          simp only [Observed.step, held, Memory.answer, sound.configured]
          refine sound.modified (Or.inr ⟨accepted, rfl⟩) (by simp) (by simp) ?_ ?_ ?_
          · intro other different
            exact Function.update_of_ne different _ _
          · intro absent
            rw [absent] at there
            cases there
          · intro same_subscription same_there
            obtain rfl := Option.some.inj (there.symm.trans same_there)
            rw [Function.update_self]
            exact (sound.served index subscription there).answer in_hand accepted
  | shutDown => exact absurd rfl going

theorem sound_run (settings : Settings) {history : List (Move Handler)}
    (opened : .shutDown ∉ history) : (run settings history).Sound settings history := by
  induction history using List.reverseRecOn with
  | nil => exact sound_start settings
  | append_singleton past move ih =>
      rw [List.mem_append, List.mem_singleton, not_or] at opened
      rw [run_concat]
      exact (ih opened.1).step (Ne.symm opened.2)

end Sound

end Observed

end Outbox.Bus
