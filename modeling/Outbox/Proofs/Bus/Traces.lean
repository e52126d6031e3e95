import Mathlib.Data.List.Basic
import Outbox.Bytes.Basic

/-!
# Traces of a handler

The calls of a handler, each with the event that it was called with and what it said.  An event is
settled by refused calls and a last one that accepts it, or by as many refused calls as the limit
allows.  A trace of a list of events settles the first of them, and then the others.

A handler that answers by the calls it had before has one trace for a list of events.  The calls
that it has had at some moment begin this trace.
-/

set_option autoImplicit false

namespace Outbox.Bus

/-- A call of a handler that has ended. -/
structure Handed where
  event : Bytes
  accepted : Bool
  deriving DecidableEq

/-- So many calls with one event that the handler refused. -/
def refused (event : Bytes) (count : Nat) : List Handed :=
  List.replicate count ⟨event, false⟩

theorem refused_succ (event : Bytes) (count : Nat) :
    refused event (count + 1) = refused event count ++ [⟨event, false⟩] :=
  List.replicate_succ'

theorem refused_add (event : Bytes) (count more : Nat) :
    refused event (count + more) = refused event count ++ refused event more :=
  List.replicate_add ..

inductive Settled (limit : Nat) (event : Bytes) : List Handed → Prop where
  | accepted {refusals : Nat} (allowed : refusals ≤ limit) :
      Settled limit event (refused event refusals ++ [⟨event, true⟩])
  | givenUp : Settled limit event (refused event (limit + 1))

inductive Trace (limit : Nat) : List Bytes → List Handed → Prop where
  | nil : Trace limit [] []
  | cons {event : Bytes} {events : List Bytes} {own later : List Handed}
      (settled : Settled limit event own) (rest : Trace limit events later) :
      Trace limit (event :: events) (own ++ later)

theorem Trace.concat {limit : Nat} {events : List Bytes} {calls : List Handed}
    (trace : Trace limit events calls) {event : Bytes} {own : List Handed}
    (settled : Settled limit event own) : Trace limit (events ++ [event]) (calls ++ own) := by
  induction trace with
  | nil => simpa using Trace.cons settled .nil
  | cons first _ ih =>
      rw [List.cons_append, List.append_assoc]
      exact .cons first ih

theorem Trace.eq_nil {limit : Nat} {calls : List Handed} (trace : Trace limit [] calls) :
    calls = [] := by
  cases trace
  rfl

/-! ## Handlers that answer by what they were called with -/

/-- Calls of a handler that has had the calls of `past`, and whose answers are those of a
behaviour. -/
def FollowsAfter (behaviour : List Handed → Bytes → Bool) : List Handed → List Handed → Prop
  | _, [] => True
  | past, call :: later =>
    call.accepted = behaviour past call.event ∧ FollowsAfter behaviour (past ++ [call]) later

def Follows (behaviour : List Handed → Bytes → Bool) (calls : List Handed) : Prop :=
  FollowsAfter behaviour [] calls

section Behaviour
variable {behaviour : List Handed → Bytes → Bool} {limit : Nat} {event : Bytes}
  {past : List Handed}

theorem followsAfter_append {calls later : List Handed} :
    FollowsAfter behaviour past (calls ++ later) ↔
      FollowsAfter behaviour past calls ∧ FollowsAfter behaviour (past ++ calls) later := by
  induction calls generalizing past with
  | nil => simp [FollowsAfter]
  | cons call calls ih => simp [FollowsAfter, ih, and_assoc]

theorem Follows.concat {calls : List Handed} (follows : Follows behaviour calls)
    (event : Bytes) : Follows behaviour (calls ++ [⟨event, behaviour calls event⟩]) :=
  followsAfter_append.mpr ⟨follows, by simp [FollowsAfter]⟩

/-- A handler that has refused an event so often refuses it after fewer refusals. -/
theorem refuses_of_followsAfter {refusals fewer : Nat}
    (follows : FollowsAfter behaviour past (refused event refusals)) (less : fewer < refusals) :
    behaviour (past ++ refused event fewer) event = false := by
  obtain ⟨more, rfl⟩ := Nat.exists_eq_add_of_lt less
  rw [Nat.add_assoc, refused_add] at follows
  exact (followsAfter_append.mp follows).2.1.symm

/-- What settles an event begins with the refusals that the event has had. -/
theorem Settled.refused_isPrefix {refusals : Nat} (allowed : refusals ≤ limit)
    (follows : FollowsAfter behaviour past (refused event refusals)) {own : List Handed}
    (settled : Settled limit event own) (own_follows : FollowsAfter behaviour past own) :
    refused event refusals <+: own := by
  cases settled with
  | @accepted other _ =>
      -- The call that accepts the event cannot come where the handler has refused it.
      have enough : refusals ≤ other := by
        by_contra fewer
        have refuses := refuses_of_followsAfter follows (Nat.lt_of_not_le fewer)
        rw [← (followsAfter_append.mp own_follows).2.1] at refuses
        cases refuses
      obtain ⟨more, rfl⟩ := Nat.exists_eq_add_of_le enough
      rw [refused_add, List.append_assoc]
      exact List.prefix_append _ _
  | givenUp =>
      obtain ⟨more, same⟩ : ∃ more, limit + 1 = refusals + more :=
        Nat.exists_eq_add_of_le (Nat.le_succ_of_le allowed)
      rw [same, refused_add]
      exact List.prefix_append _ _

/-- One behaviour settles an event in one way. -/
theorem Settled.unique {own other : List Handed} (settled : Settled limit event own)
    (follows : FollowsAfter behaviour past own) (also_settled : Settled limit event other)
    (also_follows : FollowsAfter behaviour past other) : own = other := by
  cases settled with
  | @accepted refusals allowed =>
      have first := followsAfter_append.mp follows
      cases also_settled with
      | @accepted others others_allowed =>
          have second := followsAfter_append.mp also_follows
          have same : refusals = others := by
            rcases Nat.lt_trichotomy refusals others with less | same | more
            · have refuses := refuses_of_followsAfter second.1 less
              rw [← first.2.1] at refuses
              cases refuses
            · exact same
            · have refuses := refuses_of_followsAfter first.1 more
              rw [← second.2.1] at refuses
              cases refuses
          rw [same]
      | givenUp =>
          have refuses := refuses_of_followsAfter also_follows (Nat.lt_succ_of_le allowed)
          rw [← first.2.1] at refuses
          cases refuses
  | givenUp =>
      cases also_settled with
      | @accepted others others_allowed =>
          have second := followsAfter_append.mp also_follows
          have refuses := refuses_of_followsAfter follows (Nat.lt_succ_of_le others_allowed)
          rw [← second.2.1] at refuses
          cases refuses
      | givenUp => rfl

/-- The trace of more events goes on from the trace of the first of them. -/
theorem Trace.continues {begun more : List Bytes} {calls full : List Handed}
    (trace : Trace limit begun calls) (follows : FollowsAfter behaviour past calls)
    (full_trace : Trace limit (begun ++ more) full)
    (full_follows : FollowsAfter behaviour past full) :
    ∃ rest, full = calls ++ rest ∧ Trace limit more rest := by
  induction trace generalizing past full with
  | nil => exact ⟨full, rfl, full_trace⟩
  | cons settled _ ih =>
      cases full_trace with
      | cons also_settled later =>
          obtain ⟨own_follows, later_follows⟩ := followsAfter_append.mp follows
          obtain ⟨also_follows, also_later⟩ := followsAfter_append.mp full_follows
          obtain rfl := settled.unique own_follows also_settled also_follows
          obtain ⟨rest, rfl, rest_trace⟩ := ih later_follows later also_later
          exact ⟨rest, (List.append_assoc ..).symm, rest_trace⟩

theorem Trace.unique {events : List Bytes} {calls other : List Handed}
    (trace : Trace limit events calls) (follows : Follows behaviour calls)
    (also_trace : Trace limit events other) (also_follows : Follows behaviour other) :
    calls = other := by
  rw [← List.append_nil events] at also_trace
  obtain ⟨rest, rfl, nothing⟩ := trace.continues follows also_trace also_follows
  rw [nothing.eq_nil, List.append_nil]

/-- Refusals that an event has had, after the calls that settled those before it, begin every trace
of these events and of more. -/
theorem Trace.refused_isPrefix {settled more : List Bytes} {calls full : List Handed}
    (trace : Trace limit settled calls) {refusals : Nat} (allowed : refusals ≤ limit)
    (follows : Follows behaviour (calls ++ refused event refusals))
    (full_trace : Trace limit (settled ++ event :: more) full)
    (full_follows : Follows behaviour full) : calls ++ refused event refusals <+: full := by
  obtain ⟨calls_follow, refused_follow⟩ := followsAfter_append.mp follows
  obtain ⟨rest, rfl, rest_trace⟩ := trace.continues calls_follow full_trace full_follows
  rw [List.prefix_append_right_inj]
  cases rest_trace with
  | cons own_settled _ =>
      have own_follows := (followsAfter_append.mp (followsAfter_append.mp full_follows).2).1
      exact (own_settled.refused_isPrefix allowed refused_follow own_follows).trans
        (List.prefix_append _ _)

end Behaviour

end Outbox.Bus
