import Mathlib.Data.List.Induction
import Mathlib.Logic.Function.Basic
import Outbox.Bus.Memory
import Outbox.Proofs.Bus.Traces

/-!
# Histories of a bus

Any number of publications and subscribers on one bus.  A history is a list of moves: a publication,
a new subscriber, a subscriber that goes on, a handler that answers the call that it is in, or the
end of the bus.  So every interleaving of the subscribers with each other and with publications is a
history, and so is every behaviour of the handlers.

What is meant for a subscriber depends on the publications and on when it came, and on nothing else.
-/

set_option autoImplicit false

namespace Outbox.Bus

variable {Handler : Type}

/-- A bus, and the calls that the handler of each subscriber has answered. -/
structure Observed (Handler : Type) where
  bus : Memory Handler
  calls : Nat → List Handed

inductive Move (Handler : Type) where
  | publish (topic : String) (event : Bytes)
  | subscribe (topic : String) (handler : Handler)
  /-- A subscriber takes its next event in hand and calls its handler, or leaves. -/
  | next (index : Nat)
  /-- The handler of a subscriber answers the call that it is in. -/
  | answer (index : Nat) (accepted : Bool)
  | shutDown

/-! ## Histories -/

namespace Move

/-- Publications and new subscribers are asked for from outside. -/
def isRequest : Move Handler → Bool
  | .publish _ _ => true
  | .subscribe _ _ => true
  | _ => false

def newcomer? : Move Handler → Option (String × Handler)
  | .subscribe topic handler => some (topic, handler)
  | _ => none

def published? (topic : String) : Move Handler → Option Bytes
  | .publish other event => if other = topic then some event else none
  | _ => none

/-- The subscriber of an index goes on, or its handler does. -/
def IsOf (index : Nat) (move : Move Handler) : Prop :=
  move = .next index ∨ ∃ accepted, move = .answer index accepted

end Move

def requests (history : List (Move Handler)) : List (Move Handler) :=
  history.filter Move.isRequest

/-- The topics and handlers of the subscribers, in the order in which they came. -/
def newcomers (history : List (Move Handler)) : List (String × Handler) :=
  history.filterMap Move.newcomer?

/-- The events of a topic, in the order in which they were published. -/
def published (topic : String) (history : List (Move Handler)) : List Bytes :=
  history.filterMap (Move.published? topic)

/-- What happened after the subscriber of an index came. -/
def sinceNewcomer : Nat → List (Move Handler) → List (Move Handler)
  | _, [] => []
  | 0, .subscribe _ _ :: later => later
  | index + 1, .subscribe _ _ :: later => sinceNewcomer index later
  | index, _ :: later => sinceNewcomer index later

/-- The events of a topic that are meant for the subscriber of an index: all of them on a persistent
bus, else those that were published after it came. -/
def meant (settings : Settings) (history : List (Move Handler)) (topic : String) (index : Nat) :
    List Bytes :=
  published topic (if settings.persistent then history else sinceNewcomer index history)

section Concat
variable {past : List (Move Handler)} {topic : String}

theorem newcomers_concat (past : List (Move Handler)) (move : Move Handler) :
    newcomers (past ++ [move]) = newcomers past ++ move.newcomer?.toList := by
  rw [newcomers, List.filterMap_append, List.filterMap_cons]
  cases move.newcomer? <;> rfl

theorem published_append (topic : String) (past later : List (Move Handler)) :
    published topic (past ++ later) = published topic past ++ published topic later :=
  List.filterMap_append

theorem sinceNewcomer_append {index : Nat} (came : index < (newcomers past).length)
    (later : List (Move Handler)) :
    sinceNewcomer index (past ++ later) = sinceNewcomer index past ++ later := by
  induction past generalizing index with
  | nil => simp [newcomers] at came
  | cons move past ih =>
      cases move with
      | subscribe topic handler =>
          cases index with
          | zero => rfl
          | succ index => exact ih (Nat.lt_of_succ_lt_succ came)
      | _ => cases index <;> exact ih came

theorem sinceNewcomer_newcomer (past : List (Move Handler)) (topic : String) (handler : Handler) :
    sinceNewcomer (newcomers past).length (past ++ [.subscribe topic handler]) = [] := by
  induction past with
  | nil => rfl
  | cons move past ih =>
      cases move with
      | subscribe other already => exact ih
      | _ =>
          rw [List.cons_append, sinceNewcomer]
          · exact ih
          · simp
          · simp

/-- What happens later adds what is published later. -/
theorem meant_append (settings : Settings) {index : Nat} (came : index < (newcomers past).length)
    (later : List (Move Handler)) (topic : String) :
    meant settings (past ++ later) topic index =
      meant settings past topic index ++ published topic later := by
  unfold meant
  split
  · exact published_append topic past later
  · rw [sinceNewcomer_append came, published_append]

theorem meant_newcomer (settings : Settings) (past : List (Move Handler)) (topic : String)
    (handler : Handler) :
    meant settings (past ++ [.subscribe topic handler]) topic (newcomers past).length =
      if settings.persistent then published topic past else [] := by
  unfold meant
  split
  · simp [published, Move.published?]
  · rw [sinceNewcomer_newcomer]
    rfl

/-! ### Nothing but requests counts -/

theorem published_requests (topic : String) (history : List (Move Handler)) :
    published topic (requests history) = published topic history := by
  rw [published, requests, List.filterMap_filter]
  apply List.filterMap_congr
  intro move _
  cases move <;> rfl

theorem sinceNewcomer_requests (index : Nat) (history : List (Move Handler)) :
    sinceNewcomer index (requests history) = requests (sinceNewcomer index history) := by
  induction history generalizing index with
  | nil => rfl
  | cons move history ih =>
      cases move with
      | subscribe topic handler =>
          cases index with
          | zero => rfl
          | succ index => exact ih index
      | _ => cases index <;> exact ih _

theorem meant_requests (settings : Settings) (history : List (Move Handler)) (topic : String)
    (index : Nat) : meant settings (requests history) topic index =
      meant settings history topic index := by
  unfold meant
  split
  · exact published_requests topic history
  · rw [sinceNewcomer_requests, published_requests]

end Concat

/-! ## Moves -/

namespace Observed

def start (settings : Settings) : Observed Handler where
  bus := { settings }
  calls := fun _ => []

def subscriber? (observed : Observed Handler) (index : Nat) : Option (Subscription Handler) :=
  observed.bus.subscriptions[index]?

/-- Makes one move.  Nothing happens if it does not fit, or fails. -/
def step (observed : Observed Handler) : Move Handler → Observed Handler
  | .publish topic event =>
    match observed.bus.publish topic event with
    | .ok bus => { observed with bus }
    | .error _ => observed
  | .subscribe topic handler =>
    match observed.bus.subscribe topic handler with
    | .ok bus => { observed with bus }
    | .error _ => observed
  | .next index => { observed with bus := observed.bus.next index }
  | .answer index accepted =>
    match (observed.subscriber? index).bind Subscription.inHand with
    | none => observed
    | some delivery =>
      { bus := observed.bus.answer index accepted
        calls := Function.update observed.calls index
          (observed.calls index ++ [⟨delivery.event, accepted⟩]) }
  | .shutDown => { observed with bus := observed.bus.shutDown }

def run (settings : Settings) (history : List (Move Handler)) : Observed Handler :=
  history.foldl step (start settings)

theorem run_concat (settings : Settings) (past : List (Move Handler)) (move : Move Handler) :
    run settings (past ++ [move]) = (run settings past).step move := by
  simp [run]

theorem run_append (settings : Settings) (past later : List (Move Handler)) :
    run settings (past ++ later) = later.foldl step (run settings past) := by
  simp [run]

theorem calls_publish (observed : Observed Handler) (topic : String) (event : Bytes) :
    (observed.step (.publish topic event)).calls = observed.calls := by
  simp only [step]
  split <;> rfl

theorem calls_subscribe (observed : Observed Handler) (topic : String) (handler : Handler) :
    (observed.step (.subscribe topic handler)).calls = observed.calls := by
  simp only [step]
  split <;> rfl

/-- What is asked for from outside answers nothing. -/
theorem calls_requests (observed : Observed Handler) (history : List (Move Handler)) :
    ((requests history).foldl step observed).calls = observed.calls := by
  induction history generalizing observed with
  | nil => rfl
  | cons move history ih =>
      cases move with
      | publish topic event => exact (ih _).trans (calls_publish observed topic event)
      | subscribe topic handler => exact (ih _).trans (calls_subscribe observed topic handler)
      | _ => exact ih observed

end Observed

end Outbox.Bus
