import Outbox.Proofs.Bus.Deliveries

/-!
# Drained queues

A subscriber that goes on comes to have nothing that waits for it, however its handler behaves.
Then the calls of its handler are a trace of what is meant for it: no event is lost or repeated, or
overtaken by another, and nobody else has a part in it.
-/

set_option autoImplicit false

namespace Outbox.Bus

variable {Handler : Type}

/-! ## Effort -/

namespace Subscription

variable {subscription : Subscription Handler} {limit : Nat} {begun : List Bytes}
  {calls : List Handed}

/-- The most moves of a subscriber until nothing waits for it. -/
def effort (limit : Nat) (subscription : Subscription Handler) : Nat :=
  subscription.queue.length * (limit + 2) +
    subscription.inHand.elim 0 fun delivery => limit + 1 - delivery.refusals

theorem waiting_of_effort (stands : subscription.Stands limit begun calls)
    (spent : subscription.effort limit = 0) : subscription.waiting = [] := by
  obtain ⟨queue, hand⟩ := Nat.add_eq_zero_iff.mp spent
  have unqueued : subscription.queue = [] :=
    List.length_eq_zero_iff.mp ((Nat.mul_eq_zero.mp queue).resolve_right (Nat.succ_ne_zero _))
  cases stands with
  | free unheld => simp [waiting, unqueued, unheld]
  | busy held allowed =>
      rw [held, Option.elim_some] at hand
      omega

/-- To take an event in hand is a move less to make. -/
theorem effort_next (limit : Nat) (unheld : subscription.inHand = none) :
    (subscription.next false).effort limit = subscription.effort limit - 1 := by
  rcases subscription with ⟨topic, handler, queue, inHand, listed, looking, ended⟩
  obtain rfl : inHand = none := unheld
  cases queue with
  | nil => simp [Subscription.next, Subscription.look, Subscription.take, effort]
  | cons event queue =>
      have own : (queue.length + 1) * (limit + 2) = queue.length * (limit + 2) + (limit + 1) + 1 :=
        Nat.succ_mul ..
      simp only [effort, List.length_cons, Option.elim_none, own, Nat.add_zero,
        Nat.add_sub_cancel]
      rfl

theorem effort_answer (stands : subscription.Stands limit begun calls) {delivery : Delivery}
    (held : subscription.inHand = some delivery) (accepted : Bool) :
    (subscription.answer limit accepted).effort limit < subscription.effort limit := by
  cases stands with
  | free unheld =>
      rw [held] at unheld
      cases unheld
  | busy also_held allowed =>
      obtain rfl := Option.some.inj (held.symm.trans also_held)
      simp only [effort, queue_answer, held, Option.elim_some]
      apply Nat.add_lt_add_left
      by_cases settles : accepted = true ∨ limit ≤ delivery.refusals
      · simp only [Subscription.answer, held, if_pos settles, Option.elim_none]
        omega
      · simp only [Subscription.answer, held, if_neg settles, Option.elim_some]
        omega

end Subscription

namespace Observed

/-! ## Draining -/

/-- The subscriber of an index has the topic, and nothing waits for it. -/
def Drained (observed : Observed Handler) (index : Nat) (topic : String) : Prop :=
  ∃ subscription, observed.subscriber? index = some subscription ∧ subscription.topic = topic ∧
    subscription.waiting = []

section Draining
variable {observed : Observed Handler} {index : Nat} {subscription : Subscription Handler}
  {behaviour : List Handed → Bytes → Bool}

theorem subscriber?_next (there : observed.subscriber? index = some subscription) :
    (observed.step (.next index)).subscriber? index =
      some (subscription.next observed.bus.isShutDown) := by
  rw [subscriber?] at there
  simp [subscriber?, step, Memory.next, Memory.modify, there]

theorem step_answer (there : observed.subscriber? index = some subscription) {delivery : Delivery}
    (held : subscription.inHand = some delivery) (accepted : Bool) :
    observed.step (.answer index accepted) =
      { bus := observed.bus.answer index accepted
        calls := Function.update observed.calls index
          (observed.calls index ++ [⟨delivery.event, accepted⟩]) } := by
  simp only [step, there, Option.bind_some, held]

theorem subscriber?_answer (there : observed.subscriber? index = some subscription)
    {delivery : Delivery} (held : subscription.inHand = some delivery) (accepted : Bool) :
    (observed.step (.answer index accepted)).subscriber? index =
      some (subscription.answer observed.bus.settings.maxRedeliveries accepted) := by
  rw [step_answer there held]
  rw [subscriber?] at there
  simp [subscriber?, Memory.answer, Memory.modify, there]

/-- What the subscriber of an index does next if its handler has a behaviour. -/
def nextMove (behaviour : List Handed → Bytes → Bool) (index : Nat)
    (observed : Observed Handler) : Move Handler :=
  match (observed.subscriber? index).bind Subscription.inHand with
  | none => .next index
  | some delivery => .answer index (behaviour (observed.calls index) delivery.event)

def nextMoves (behaviour : List Handed → Bytes → Bool) (index : Nat) :
    Nat → Observed Handler → List (Move Handler)
  | 0, _ => []
  | count + 1, observed =>
    let move := observed.nextMove behaviour index
    move :: nextMoves behaviour index count (observed.step move)

theorem isOf_nextMove (behaviour : List Handed → Bytes → Bool) (index : Nat)
    (observed : Observed Handler) : (observed.nextMove behaviour index).IsOf index := by
  unfold nextMove
  split
  · exact Or.inl rfl
  · exact Or.inr ⟨_, rfl⟩

theorem isOf_of_mem_nextMoves {count : Nat} {move : Move Handler}
    (member : move ∈ nextMoves behaviour index count observed) : move.IsOf index := by
  induction count generalizing observed with
  | zero => cases member
  | succ count ih =>
      rcases List.mem_cons.mp member with rfl | later
      · exact isOf_nextMove behaviour index observed
      · exact ih later

theorem follows_nextMove (follows : Follows behaviour (observed.calls index)) :
    Follows behaviour ((observed.step (observed.nextMove behaviour index)).calls index) := by
  unfold nextMove
  cases held : (observed.subscriber? index).bind Subscription.inHand with
  | none => exact follows
  | some delivery =>
      obtain ⟨subscription, there, in_hand⟩ := Option.bind_eq_some_iff.mp held
      simp only [step_answer there in_hand, Function.update_self]
      exact follows.concat delivery.event

/-- A subscriber that goes on long enough has nothing that waits for it. -/
theorem drained_of_nextMoves {settings : Settings} {history : List (Move Handler)}
    (sound : observed.Sound settings history)
    (there : observed.subscriber? index = some subscription) {count : Nat}
    (enough : subscription.effort settings.maxRedeliveries ≤ count) :
    ((nextMoves behaviour index count observed).foldl step observed).Drained index
      subscription.topic := by
  induction count generalizing observed history subscription with
  | zero =>
      obtain ⟨begun, stands, _⟩ := (sound.served index subscription there).stands
      exact ⟨subscription, there, rfl,
        Subscription.waiting_of_effort stands (Nat.le_zero.mp enough)⟩
  | succ count ih =>
      rw [nextMoves, List.foldl_cons]
      have going : observed.nextMove behaviour index ≠ .shutDown := by
        rcases isOf_nextMove behaviour index observed with next | ⟨accepted, answer⟩
        · simp [next]
        · simp [answer]
      have after := sound.step going
      cases held : subscription.inHand with
      | none =>
          have move : observed.nextMove behaviour index = .next index := by
            simp [nextMove, there, held]
          rw [move] at after ⊢
          have later := subscriber?_next there
          rw [sound.opened] at later
          have drained := ih after later (by rw [Subscription.effort_next _ held]; omega)
          rwa [Subscription.topic_next] at drained
      | some delivery =>
          obtain ⟨begun, stands, _⟩ := (sound.served index subscription there).stands
          have move : observed.nextMove behaviour index =
              .answer index (behaviour (observed.calls index) delivery.event) := by
            simp [nextMove, there, held]
          rw [move] at after ⊢
          have later := subscriber?_answer there held
            (behaviour (observed.calls index) delivery.event)
          rw [sound.configured] at later
          have less := Subscription.effort_answer stands held
            (behaviour (observed.calls index) delivery.event)
          have drained := ih after later (by omega)
          rwa [Subscription.topic_answer] at drained

theorem follows_nextMoves (follows : Follows behaviour (observed.calls index)) (count : Nat) :
    Follows behaviour
      (((nextMoves behaviour index count observed).foldl step observed).calls index) := by
  induction count generalizing observed with
  | zero => exact follows
  | succ count ih => exact ih (follows_nextMove follows)

end Draining

/-! ## Exact deliveries -/

section Exact
variable {settings : Settings} {history : List (Move Handler)} {index : Nat} {topic : String}

theorem trace_of_drained (opened : .shutDown ∉ history)
    (drained : (run settings history).Drained index topic) :
    Trace settings.maxRedeliveries (meant settings history topic index)
      ((run settings history).calls index) := by
  obtain ⟨subscription, there, rfl, nothing⟩ := drained
  exact ((sound_run settings opened).served index subscription there).trace nothing

/-- The calls of a handler depend on the publications, on the subscribers and on its own answers,
and not on the others or on who goes on when. -/
theorem calls_eq_of_requests (opened : .shutDown ∉ history)
    (drained : (run settings history).Drained index topic) {other : List (Move Handler)}
    (other_opened : .shutDown ∉ other) (other_drained : (run settings other).Drained index topic)
    (same : requests other = requests history) {behaviour : List Handed → Bytes → Bool}
    (follows : Follows behaviour ((run settings history).calls index))
    (other_follows : Follows behaviour ((run settings other).calls index)) :
    (run settings other).calls index = (run settings history).calls index := by
  have trace := trace_of_drained opened drained
  have other_trace := trace_of_drained other_opened other_drained
  rw [← meant_requests, ← same, meant_requests] at trace
  exact other_trace.unique other_follows trace follows

theorem drained_after (opened : .shutDown ∉ history) {subscription : Subscription Handler}
    (there : (run settings history).subscriber? index = some subscription)
    (behaviour : List Handed → Bytes → Bool) :
    (run settings (history ++ nextMoves behaviour index
      (subscription.effort settings.maxRedeliveries) (run settings history))).Drained index
        subscription.topic := by
  rw [run_append]
  exact drained_of_nextMoves (sound_run settings opened) there (Nat.le_refl _)

end Exact

/-- The subscribers are those who came.  Once the queue of one is drained, the calls of its handler
are a trace of what is meant for it, in whatever order all others go on and whatever their handlers
answer.  On a persistent bus this is all that is published on its topic, whenever it came.  If it
goes on, its queue is drained in the end. -/
theorem deliveries_are_exact (settings : Settings) (history : List (Move Handler))
    (opened : .shutDown ∉ history) :
    (run settings history).bus.subscriptions.map (fun subscription =>
      (subscription.topic, subscription.handler)) = newcomers history ∧
    (∀ index topic, (run settings history).Drained index topic →
      Trace settings.maxRedeliveries (meant settings history topic index)
        ((run settings history).calls index)) ∧
    (∀ index topic other behaviour, .shutDown ∉ other → requests other = requests history →
      (run settings history).Drained index topic → (run settings other).Drained index topic →
      Follows behaviour ((run settings history).calls index) →
      Follows behaviour ((run settings other).calls index) →
      (run settings other).calls index = (run settings history).calls index) ∧
    (settings.persistent = true → ∀ index topic, (run settings history).Drained index topic →
      Trace settings.maxRedeliveries (published topic history)
        ((run settings history).calls index)) ∧
    ∀ index subscription behaviour,
      (run settings history).subscriber? index = some subscription →
      Follows behaviour ((run settings history).calls index) →
      ∃ moves, (∀ move ∈ moves, move.IsOf index) ∧
        (run settings (history ++ moves)).Drained index subscription.topic ∧
        Follows behaviour ((run settings (history ++ moves)).calls index) := by
  refine ⟨(sound_run settings opened).came, ?_, ?_, ?_, ?_⟩
  · intro index topic drained
    exact trace_of_drained opened drained
  · intro index topic other behaviour other_opened same drained other_drained follows other_follows
    exact calls_eq_of_requests opened drained other_opened other_drained same follows other_follows
  · intro persistent index topic drained
    have trace := trace_of_drained opened drained
    rwa [meant, if_pos persistent] at trace
  · intro index subscription behaviour there follows
    refine ⟨_, fun move => isOf_of_mem_nextMoves, drained_after opened there behaviour, ?_⟩
    rw [run_append]
    exact follows_nextMoves follows _

/-- Two subscribers of one topic on a bus that hands a refused event over once more.  The second
comes after the first event and gives it up; there is an event on another topic between. -/
def mixedHistory : List (Move Unit) :=
  [.subscribe "fruit" (), .publish "fruit" [1], .subscribe "fruit" (), .publish "stone" [9],
    .next 1, .publish "fruit" [2], .answer 1 false, .next 0, .answer 0 true, .answer 1 false,
    .next 1, .next 0, .answer 0 true, .answer 1 true]

/-- The same requests, handlers that accept everything, and another order of the subscribers. -/
def calmHistory : List (Move Unit) :=
  [.subscribe "fruit" (), .publish "fruit" [1], .next 0, .answer 0 true, .subscribe "fruit" (),
    .publish "stone" [9], .publish "fruit" [2], .next 0, .answer 0 true]

/-- Both have handled the same two events, and the refusals of one are its own. -/
theorem mixedHistory_is_exact :
    .shutDown ∉ mixedHistory ∧
    (run { maxRedeliveries := 1 } mixedHistory).Drained 0 "fruit" ∧
    (run { maxRedeliveries := 1 } mixedHistory).Drained 1 "fruit" ∧
    Trace 1 [[1], [2]] [⟨[1], true⟩, ⟨[2], true⟩] ∧
    Trace 1 [[1], [2]] [⟨[1], false⟩, ⟨[1], false⟩, ⟨[2], true⟩] ∧
    (run { maxRedeliveries := 1 } calmHistory).calls 0 =
      (run { maxRedeliveries := 1 } mixedHistory).calls 0 := by
  have opened : .shutDown ∉ mixedHistory := by simp [mixedHistory]
  have calm_opened : .shutDown ∉ calmHistory := by simp [calmHistory]
  have first : (run { maxRedeliveries := 1 } mixedHistory).Drained 0 "fruit" := ⟨_, rfl, rfl, rfl⟩
  have second : (run { maxRedeliveries := 1 } mixedHistory).Drained 1 "fruit" :=
    ⟨_, rfl, rfl, rfl⟩
  have calm : (run { maxRedeliveries := 1 } calmHistory).Drained 0 "fruit" := ⟨_, rfl, rfl, rfl⟩
  obtain ⟨_, exact_when, alike_when, _⟩ :=
    deliveries_are_exact { maxRedeliveries := 1 } mixedHistory opened
  refine ⟨opened, first, second, exact_when 0 "fruit" first, exact_when 1 "fruit" second, ?_⟩
  -- The first handler accepts all it is called with, in both histories.
  exact alike_when 0 "fruit" calmHistory (fun _ _ => true) calm_opened rfl first calm
    ⟨rfl, rfl, trivial⟩ ⟨rfl, rfl, trivial⟩

end Observed

end Outbox.Bus
