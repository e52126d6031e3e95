import Outbox.Proofs.Bus.Traffic

/-!
# Histories as traffic

A history makes every request in one move, and a subscriber that goes on looks and takes its event
in one move.  So a history is the traffic in which nothing comes between the steps of a move: it
leaves the same bus behind, and the same calls.
-/

set_option autoImplicit false

namespace Outbox.Bus

variable {Handler : Type}

/-- The steps of a move, one right after the other. -/
def Move.steps : Move Handler → List (Traffic.Move Handler)
  | .publish topic event => [.ask (.publish topic event), .perform 0]
  | .subscribe topic handler => [.ask (.subscribe topic handler), .perform 0, .register 0]
  | .next index => [.look index, .take index]
  | .answer index accepted => [.answer index accepted]
  | .shutDown => [.shutDown]

namespace Traffic

/-! ## What the steps of a move do -/

section Steps
variable {traffic : Traffic Handler}

theorem steps_publish_open (opened : traffic.bus.isShutDown = false)
    (nothing_pending : traffic.pending = []) (topic : String) (event : Bytes) :
    (Bus.Move.publish topic event).steps.foldl step traffic = { traffic with
      bus := traffic.bus.put topic event
      performed := traffic.performed ++ [.publish topic event] } := by
  simp only [Bus.Move.steps, List.foldl_cons, List.foldl_nil, step,
    Memory.ensureOpen_open opened, nothing_pending, List.nil_append, List.getElem?_cons_zero]
  rfl

theorem steps_publish_closed (closed : traffic.bus.isShutDown = true)
    (nothing_pending : traffic.pending = []) (topic : String) (event : Bytes) :
    (Bus.Move.publish topic event).steps.foldl step traffic =
      { traffic with refused := traffic.refused ++ [.publish topic event] } := by
  simp only [Bus.Move.steps, List.foldl_cons, List.foldl_nil, step,
    Memory.ensureOpen_closed closed, nothing_pending, List.getElem?_nil]

theorem steps_subscribe_open (opened : traffic.bus.isShutDown = false)
    (nothing_pending : traffic.pending = []) (all_registered : traffic.unregistered = [])
    (topic : String) (handler : Handler) :
    (Bus.Move.subscribe topic handler).steps.foldl step traffic = { traffic with
      bus := (traffic.bus.engage topic handler).register traffic.bus.subscriptions.length
      performed := traffic.performed ++ [.subscribe topic handler] } := by
  simp only [Bus.Move.steps, List.foldl_cons, List.foldl_nil, step,
    Memory.ensureOpen_open opened, nothing_pending, List.nil_append, List.getElem?_cons_zero,
    perform, all_registered]
  rfl

theorem steps_subscribe_closed (closed : traffic.bus.isShutDown = true)
    (nothing_pending : traffic.pending = []) (all_registered : traffic.unregistered = [])
    (topic : String) (handler : Handler) :
    (Bus.Move.subscribe topic handler).steps.foldl step traffic =
      { traffic with refused := traffic.refused ++ [.subscribe topic handler] } := by
  simp only [Bus.Move.steps, List.foldl_cons, List.foldl_nil, step,
    Memory.ensureOpen_closed closed, nothing_pending, List.getElem?_nil, all_registered]

theorem steps_next (traffic : Traffic Handler) (index : Nat) :
    (Bus.Move.next index).steps.foldl step traffic =
      { traffic with bus := traffic.bus.next index } := by
  simp only [Bus.Move.steps, List.foldl_cons, List.foldl_nil, step, Memory.look, Memory.take,
    Memory.next, Memory.modify, List.modify_modify_eq]
  rfl

theorem steps_answer (traffic : Traffic Handler) (index : Nat) (accepted : Bool) :
    ∃ answers, (Bus.Move.answer index accepted).steps.foldl step traffic =
      { traffic with bus := traffic.bus.answer index accepted, answers } := by
  cases held : (traffic.subscriber? index).bind Subscription.inHand with
  | none =>
      -- Nothing is in hand that the answer could be about.
      have stays : traffic.bus.answer index accepted = traffic.bus := by
        apply Memory.modify_of_fixed
        intro subscription there
        have free : subscription.inHand = none := by
          simpa [subscriber?, there] using held
        simp only [Subscription.answer, free]
      refine ⟨traffic.answers, ?_⟩
      rw [stays]
      exact step_answer_free held accepted
  | some delivery =>
      obtain ⟨subscription, there, in_hand⟩ := Option.bind_eq_some_iff.mp held
      exact ⟨_, step_answer there in_hand accepted⟩

/-- No move of a history but a shutdown is part of a shutdown. -/
theorem shutdown_steps (traffic : Traffic Handler) {move : Bus.Move Handler}
    (opened : move ≠ .shutDown) : (move.steps.foldl step traffic).shutdown = traffic.shutdown := by
  have asked (traffic : Traffic Handler) (request : Request Handler) :
      (traffic.step (.ask request)).shutdown = traffic.shutdown := by
    simp only [step]
    split <;> rfl
  have performed (traffic : Traffic Handler) (position : Nat) :
      (traffic.step (.perform position)).shutdown = traffic.shutdown := by
    simp only [step]
    split
    · rfl
    · rename_i request _
      cases request <;> rfl
  have registered (traffic : Traffic Handler) (position : Nat) :
      (traffic.step (.register position)).shutdown = traffic.shutdown := by
    simp only [step]
    split <;> rfl
  cases move with
  | publish topic event => exact (performed _ _).trans (asked _ _)
  | subscribe topic handler =>
      exact (registered _ _).trans ((performed _ _).trans (asked _ _))
  | next index => rfl
  | answer index accepted =>
      obtain ⟨answers, same⟩ := traffic.steps_answer index accepted
      rw [same]
  | shutDown => exact absurd rfl opened

end Steps

/-! ## Beside a history -/

/-- Traffic that has come to where a history has, with nothing let in that has not taken effect, and
no subscriber whose task is not noted. -/
structure Mirrors (past : List (Bus.Move Handler)) (observed : Observed Handler)
    (traffic : Traffic Handler) : Prop where
  bus : traffic.bus = observed.bus
  calls : ∀ index, traffic.calls index = observed.calls index
  nothing_pending : traffic.pending = []
  all_registered : traffic.unregistered = []
  called : traffic.shutdown = none ↔ traffic.bus.isShutDown = false
  taken : traffic.bus.isShutDown = false → traffic.taken = requests past

section Mirrors
variable {past : List (Bus.Move Handler)} {observed : Observed Handler} {traffic : Traffic Handler}

theorem requests_concat (past : List (Bus.Move Handler)) (move : Bus.Move Handler) :
    requests (past ++ [move]) = requests past ++ if move.isRequest then [move] else [] := by
  cases asked : move.isRequest <;> simp [requests, asked]

/-- A move that is no request leaves the requests that have taken effect as they are. -/
theorem Mirrors.unasked (mirrors : traffic.Mirrors past observed) {move : Bus.Move Handler}
    (unasked : move.isRequest = false) : traffic.Mirrors (past ++ [move]) observed :=
  { mirrors with
    taken := by
      intro opened
      rw [requests_concat, unasked, mirrors.taken opened]
      exact (List.append_nil _).symm }

/-- A request that was turned away changes nothing that is seen. -/
theorem Mirrors.turnedAway (mirrors : traffic.Mirrors past observed)
    (closed : traffic.bus.isShutDown = true) (move : Bus.Move Handler)
    (refused : List (Request Handler)) :
    Mirrors (past ++ [move]) observed { traffic with refused } :=
  { mirrors with
    taken := by
      intro opened
      exact absurd (opened.symm.trans closed) Bool.false_ne_true }

theorem Mirrors.publish (mirrors : traffic.Mirrors past observed) (topic : String) (event : Bytes) :
    Mirrors (past ++ [.publish topic event]) (observed.step (.publish topic event))
      ((Bus.Move.publish topic event).steps.foldl step traffic) := by
  cases opened : traffic.bus.isShutDown with
  | true =>
      have stays : observed.step (.publish topic event) = observed := by
        simp [Observed.step, Memory.publish, ← mirrors.bus, Memory.ensureOpen_closed opened,
          Except.map]
      rw [steps_publish_closed opened mirrors.nothing_pending, stays]
      exact mirrors.turnedAway opened _ _
  | false =>
      rw [steps_publish_open opened mirrors.nothing_pending]
      simp only [Observed.step,
        Memory.publish_open (mirrors.bus ▸ opened : observed.bus.isShutDown = false)]
      refine { mirrors with
        bus := congrArg (Memory.put · topic event) mirrors.bus
        taken := ?_ }
      intro still_open
      rw [requests_concat, ← mirrors.taken opened]
      simp [Traffic.taken, Request.move, Bus.Move.isRequest]

theorem Mirrors.subscribe (mirrors : traffic.Mirrors past observed) (topic : String)
    (handler : Handler) :
    Mirrors (past ++ [.subscribe topic handler]) (observed.step (.subscribe topic handler))
      ((Bus.Move.subscribe topic handler).steps.foldl step traffic) := by
  cases opened : traffic.bus.isShutDown with
  | true =>
      have stays : observed.step (.subscribe topic handler) = observed := by
        simp [Observed.step, Memory.subscribe, ← mirrors.bus, Memory.ensureOpen_closed opened,
          Except.map]
      rw [steps_subscribe_closed opened mirrors.nothing_pending mirrors.all_registered, stays]
      exact mirrors.turnedAway opened _ _
  | false =>
      rw [steps_subscribe_open opened mirrors.nothing_pending mirrors.all_registered]
      simp only [Observed.step,
        Memory.subscribe_open (mirrors.bus ▸ opened : observed.bus.isShutDown = false)]
      refine { mirrors with
        bus := by rw [mirrors.bus]; rfl
        taken := ?_ }
      intro still_open
      rw [requests_concat, ← mirrors.taken opened]
      simp [Traffic.taken, Request.move, Bus.Move.isRequest]

theorem Mirrors.answer (mirrors : traffic.Mirrors past observed) (index : Nat) (accepted : Bool) :
    Mirrors (past ++ [.answer index accepted]) (observed.step (.answer index accepted))
      (traffic.step (.answer index accepted)) := by
  have same : traffic.subscriber? index = observed.subscriber? index := by
    rw [subscriber?, mirrors.bus, Observed.subscriber?]
  cases held : (observed.subscriber? index).bind Subscription.inHand with
  | none =>
      have idle : observed.step (.answer index accepted) = observed := by
        simp only [Observed.step, held]
      rw [idle, step_answer_free (by rw [same, held])]
      exact mirrors.unasked rfl
  | some delivery =>
      obtain ⟨subscription, there, in_hand⟩ := Option.bind_eq_some_iff.mp held
      have unasked := @Mirrors.unasked _ _ _ _ mirrors (.answer index accepted) rfl
      rw [step_answer (same.trans there) in_hand]
      simp only [Observed.step, held]
      refine { unasked with bus := by rw [mirrors.bus], calls := ?_ }
      intro other
      refine (calls_answer traffic index ⟨delivery.event, accepted⟩ other).trans ?_
      rw [mirrors.calls]
      by_cases own : index = other
      · subst own
        simp
      · simp [own, Function.update_of_ne (Ne.symm own)]

theorem Mirrors.step (mirrors : traffic.Mirrors past observed) (move : Bus.Move Handler) :
    Mirrors (past ++ [move]) (observed.step move) (move.steps.foldl Traffic.step traffic) := by
  cases move with
  | publish topic event => exact mirrors.publish topic event
  | subscribe topic handler => exact mirrors.subscribe topic handler
  | next index =>
      have unasked := @Mirrors.unasked _ _ _ _ mirrors (.next index) rfl
      rw [steps_next]
      exact { unasked with bus := congrArg (Memory.next · index) mirrors.bus }
  | answer index accepted => exact mirrors.answer index accepted
  | shutDown =>
      have called := mirrors.called
      simp only [Bus.Move.steps, List.foldl_cons, List.foldl_nil, Traffic.step, Observed.step]
      split
      · refine ⟨congrArg Memory.shutDown mirrors.bus, mirrors.calls, mirrors.nothing_pending,
          mirrors.all_registered, ⟨?_, ?_⟩, ?_⟩
        all_goals rintro ⟨⟩
      · rename_i shutdown stage
        have closed : traffic.bus.isShutDown = true := by
          cases opened : traffic.bus.isShutDown with
          | true => rfl
          | false =>
              rw [called.mpr opened] at stage
              cases stage
        refine ⟨?_, mirrors.calls, mirrors.nothing_pending, mirrors.all_registered, called, ?_⟩
        · rw [← mirrors.bus, Memory.shutDown, ← closed]
        · rw [closed]
          rintro ⟨⟩

/-- What a history leaves behind is left behind by its steps. -/
theorem mirrors_run (settings : Settings) (history : List (Bus.Move Handler)) :
    (run settings (history.flatMap Bus.Move.steps)).Mirrors history
      (Observed.run settings history) := by
  induction history using List.reverseRecOn with
  | nil =>
      exact ⟨rfl, fun _ => rfl, rfl, rfl, ⟨fun _ => rfl, fun _ => rfl⟩, fun _ => rfl⟩
  | append_singleton past move ih =>
      have last : [move].flatMap Bus.Move.steps = move.steps := List.append_nil _
      rw [List.flatMap_append, last, run_append, Observed.run_concat]
      exact ih.step move

end Mirrors

end Traffic

end Outbox.Bus
