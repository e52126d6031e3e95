import Outbox.Proofs.Audit.Log
import Outbox.Proofs.Metrics.Tally

/-!
# What an audit subscriber counts

A subscriber gets byte strings one after the other.  Some do not decode, some tell of events that it
knows, and saving an entry may fail at any of them.  Its log holds the first entry that could be
saved of each id, one of its counters is the size of the log, and the other one the number of
arrivals that it has refused.
-/

set_option autoImplicit false

namespace Outbox.Audit

/-- Bytes that are handled, and what saving an entry fails with at that time. -/
structure Arrival where
  bytes : Bytes
  saveFault : Entry → Option ProgramError := fun _ => none

namespace Arrival

end Arrival

/-! ## One arrival -/

/-- What the handler can do with an arrival. -/
inductive Handled (arrival : Arrival) (log : Log) : Handling → Prop where
  | undecodable (error : Error) (malformed : Event.decode arrival.bytes = .error error) :
      Handled arrival log ⟨some (.undecodable error), log, [.auditError]⟩
  | unsaved (event : Event) (error : ProgramError)
      (decoded : Event.decode arrival.bytes = .ok event)
      (failed : arrival.saveFault (Entry.ofEvent event) = some error) :
      Handled arrival log ⟨some (.unsaved error), log, [.auditError]⟩
  | repeated (event : Event) (earlier : Entry)
      (decoded : Event.decode arrival.bytes = .ok event)
      (savable : arrival.saveFault (Entry.ofEvent event) = none)
      (known : log.get? event.id = some earlier) :
      Handled arrival log ⟨none, log, []⟩
  | recorded (event : Event)
      (decoded : Event.decode arrival.bytes = .ok event)
      (savable : arrival.saveFault (Entry.ofEvent event) = none)
      (new : log.get? event.id = none) :
      Handled arrival log ⟨none, ⟨log.saved ++ [Entry.ofEvent event]⟩, [.recorded]⟩

theorem handled (arrival : Arrival) (log : Log) :
    Handled arrival log (handle arrival.saveFault log arrival.bytes) := by
  unfold handle
  cases decoded : Event.decode arrival.bytes with
  | error error => exact .undecodable error decoded
  | ok event =>
      dsimp only
      cases failed : arrival.saveFault (Entry.ofEvent event) with
      | some error => exact .unsaved event error decoded failed
      | none =>
          cases found : log.get? event.id with
          | some earlier =>
              have kept : log.save (Entry.ofEvent event) = (false, log) := by
                rw [Log.save, show (Entry.ofEvent event).id = event.id from rfl, found]
              rw [kept]
              exact .repeated event earlier decoded failed found
          | none =>
              have appended : log.save (Entry.ofEvent event) =
                  (true, ⟨log.saved ++ [Entry.ofEvent event]⟩) := by
                rw [Log.save, show (Entry.ofEvent event).id = event.id from rfl, found]
              rw [appended]
              exact .recorded event decoded failed found

section Handling
variable {arrival : Arrival} {log : Log} {handling : Handling}

end Handling

/-! ## Arrivals one after the other -/

structure Subscriber where
  log : Log := {}
  tally : Tally := {}
  /-- What each arrival was refused with, if it was. -/
  answers : List (Option Refusal) := []

namespace Subscriber

def receive (subscriber : Subscriber) (arrival : Arrival) : Subscriber :=
  let handling := handle arrival.saveFault subscriber.log arrival.bytes
  { log := handling.log
    tally := subscriber.tally.recordAll handling.increments
    answers := subscriber.answers ++ [handling.refusal] }

/-- A subscriber with a fresh log and fresh counters, after some arrivals. -/
def run (arrivals : List Arrival) : Subscriber :=
  arrivals.foldl receive {}

theorem run_concat (arrivals : List Arrival) (next : Arrival) :
    run (arrivals ++ [next]) = (run arrivals).receive next := by
  simp [run]

/-- The counters tell the size of the log and the number of refusals. -/
structure Counted (subscriber : Subscriber) : Prop where
  ordered : subscriber.tally.Ordered
  recorded : subscriber.tally.count .recorded = subscriber.log.size
  refused : subscriber.tally.count .auditError = subscriber.answers.countP Option.isSome

theorem Counted.receive {subscriber : Subscriber} (counted : subscriber.Counted)
    (arrival : Arrival) : (subscriber.receive arrival).Counted := by
  have keys : Tally.key .recorded ≠ Tally.key .auditError := by decide
  have done := handled arrival subscriber.log
  obtain ⟨ordered, recorded, refused⟩ := counted
  unfold Subscriber.receive
  generalize handle arrival.saveFault subscriber.log arrival.bytes = handling at done
  refine ⟨ordered.recordAll _, ?_, ?_⟩
  · rw [Tally.count_recordAll ordered, recorded]
    cases done with
    | undecodable => simp [keys.symm]
    | unsaved => simp [keys.symm]
    | repeated => simp
    | recorded => simp [Log.size]
  · rw [Tally.count_recordAll ordered, refused, List.countP_append]
    cases done with
    | undecodable => simp
    | unsaved => simp
    | repeated => simp
    | recorded => simp [keys]

def apple : Event :=
  ⟨default, .epoch, 1, "fruit", [0x7B, 0x7D], ""⟩

/-- Has the id of `apple`. -/
def pear : Event :=
  { apple with metadata := "updated" }

end Subscriber

end Outbox.Audit
