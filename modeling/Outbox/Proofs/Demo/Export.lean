import Outbox.Proofs.Metrics.Tally
import Outbox.Proofs.Simulation.Ticking

/-!
# What a demonstration exports

As long as nothing fails two counters go up, one for the publications and one for the entries of the
audit, and the order in which they do so makes no difference to the text that is exported.
-/

set_option autoImplicit false

namespace Outbox

namespace Registry

/-- The samples of a counter without labels. -/
def plainSamples (count : Nat) : List (List String × Nat) :=
  if count = 0 then [] else [([], count)]

/-- The counter of publications after so many of them. -/
def publishedCounter (count : Nat) : Counter where
  name := Increment.publishedName
  help := "Outbox messages published successfully"
  labelNames := []
  samples := plainSamples count

/-- The counter of entries after so many of them. -/
def recordedCounter (count : Nat) : Counter :=
  { auditCounter with samples := plainSamples count }

/-- The registry after so many publications and so many entries, of which nothing has failed. -/
def counted (published recorded : Nat) : Registry :=
  { forPublisherAndAudit with
    counters :=
      [ publishedCounter published,
        { name := Increment.failedName, help := "Outbox publish attempts that failed"
          labelNames := [] },
        { name := Increment.errorsName, help := "Application errors by type"
          labelNames := [Increment.sourceLabel] },
        recordedCounter recorded ] }

theorem counted_zero : counted 0 0 = forPublisherAndAudit := rfl

theorem bump_plainSamples (count : Nat) :
    Counter.bump [] (plainSamples count) = plainSamples (count + 1) := by
  cases count <;> simp [plainSamples, Counter.bump]

theorem count_publishedCounter (count : Nat) :
    (publishedCounter count).count [] = publishedCounter (count + 1) := by
  rw [publishedCounter, publishedCounter, ← bump_plainSamples]
  rfl

theorem count_recordedCounter (count : Nat) :
    (recordedCounter count).count [] = recordedCounter (count + 1) := by
  rw [recordedCounter, recordedCounter, ← bump_plainSamples]
  rfl

theorem record_published (published recorded : Nat) :
    (counted published recorded).record .published = counted (published + 1) recorded := by
  have place : (counted published recorded).place? Increment.publishedName = some 0 := by rfl
  rw [record, Increment.published, place]
  simp [counted, count_publishedCounter]

theorem record_recorded (published recorded : Nat) :
    (counted published recorded).record .recorded = counted published (recorded + 1) := by
  have place : (counted published recorded).place? Increment.recordedName = some 3 := by rfl
  rw [record, Increment.recorded, place]
  simp [counted, count_recordedCounter]

end Registry

open Registry (counted)
open Simulation (countedFor)

theorem recordAll_counted {published recorded : Nat} {increments : List Increment}
    (known : ∀ increment ∈ increments, increment = .published ∨ increment = .recorded) :
    (Sink.registry (counted published recorded)).recordAll increments =
      .registry (counted (published + increments.count .published)
        (recorded + increments.count .recorded)) := by
  have apart : Increment.published ≠ .recorded := by decide
  induction increments generalizing published recorded with
  | nil => rfl
  | cons first rest ih =>
      have others := fun increment member => known increment (List.mem_cons_of_mem first member)
      have next (counters : Registry) : (Sink.registry counters).recordAll (first :: rest) =
          (Sink.registry (counters.record first)).recordAll rest := rfl
      rw [next]
      rcases known first List.mem_cons_self with rfl | rfl
      · rw [Registry.record_published, ih others, List.count_cons_self,
          List.count_cons_of_ne apart]
        congr 2
        omega
      · rw [Registry.record_recorded, ih others, List.count_cons_self,
          List.count_cons_of_ne apart.symm]
        congr 2
        omega

/-- The order of the increments makes no difference. -/
theorem recordAll_of_perm {published recorded : Nat} {increments : List Increment}
    (counts : increments.Perm (countedFor published recorded)) :
    (Sink.registry .forPublisherAndAudit).recordAll increments =
      .registry (counted published recorded) := by
  have apart : Increment.published ≠ .recorded := by decide
  have known : ∀ increment ∈ increments, increment = .published ∨ increment = .recorded := by
    intro increment member
    have there := counts.subset member
    simp only [countedFor, List.mem_append, List.mem_replicate] at there
    exact there.imp And.right And.right
  rw [← Registry.counted_zero, recordAll_counted known, counts.count_eq, counts.count_eq]
  simp [countedFor, List.count_replicate, apart, apart.symm]

/-! ## The text -/

/-- The text of a counter without labels. -/
def exposition (name help : String) (count : Nat) : String :=
  "# HELP " ++ name ++ " " ++ help ++ "\n# TYPE " ++ name ++ " counter\n" ++
    name ++ " " ++ toString count ++ "\n"

def publishedText (count : Nat) : String :=
  exposition "application_outbox_worker_processed" "Outbox messages published successfully" count

def recordedText (count : Nat) : String :=
  exposition "application_audit_subscriber_processed"
    "Events recorded by the audit history subscriber" count

theorem familyText_eq {counter : Counter} {count : Nat} (unlabelled : counter.labelNames = [])
    (single : counter.samples = [([], count)])
    (plain : Counter.escapeHelp counter.help = counter.help) :
    counter.familyText = exposition counter.name counter.help count := by
  have samples : counter.sortedSamples = [([], count)] := by
    simp [Counter.sortedSamples, single, Counter.labelsByName, unlabelled]
  -- The equation lemmas of these long texts are slow to derive.
  delta Counter.familyText exposition
  rw [samples, plain]
  simp [Counter.sampleText, String.append_assoc]

theorem mergeSort_pair {α : Type} {inOrder : α → α → Bool} {first second : α}
    (reversed : inOrder first second = false) :
    [first, second].mergeSort inOrder = [second, first] := by
  simp [List.mergeSort, reversed]

namespace Registry

theorem plainSamples_pos {count : Nat} (positive : 0 < count) :
    plainSamples count = [([], count)] :=
  if_neg (Nat.ne_of_gt positive)

theorem familyText_publishedCounter {count : Nat} (positive : 0 < count) :
    (publishedCounter count).familyText = publishedText count := by
  have plain : Counter.escapeHelp "Outbox messages published successfully" =
      "Outbox messages published successfully" := by decide
  exact familyText_eq rfl (plainSamples_pos positive) plain

theorem familyText_recordedCounter {count : Nat} (positive : 0 < count) :
    (recordedCounter count).familyText = recordedText count := by
  have plain : Counter.escapeHelp "Events recorded by the audit history subscriber" =
      "Events recorded by the audit history subscriber" := by decide
  exact familyText_eq rfl (plainSamples_pos positive) plain

theorem text_published {published : Nat} (positive : 0 < published) :
    (counted published 0).text = publishedText published := by
  have single : (publishedCounter published).samples = [([], published)] :=
    plainSamples_pos positive
  have filtered : (counted published 0).counters.filter
      (fun counter => !counter.samples.isEmpty) = [publishedCounter published] := by
    simp [counted, single, recordedCounter, plainSamples]
  rw [text, families, filtered, List.mergeSort_singleton, List.map_singleton,
    familyText_publishedCounter positive]
  simp

theorem text_both {published recorded : Nat} (some_published : 0 < published)
    (some_recorded : 0 < recorded) :
    (counted published recorded).text = recordedText recorded ++ publishedText published := by
  have single : (publishedCounter published).samples = [([], published)] :=
    plainSamples_pos some_published
  have other : (recordedCounter recorded).samples = [([], recorded)] :=
    plainSamples_pos some_recorded
  have filtered : (counted published recorded).counters.filter
      (fun counter => !counter.samples.isEmpty) =
      [publishedCounter published, recordedCounter recorded] := by
    simp [counted, single, other]
  have reversed : textInOrder Increment.publishedName Increment.recordedName = false := by decide
  have sorted :
      [publishedCounter published, recordedCounter recorded].mergeSort
        (fun a b => textInOrder a.name b.name) =
      [recordedCounter recorded, publishedCounter published] := mergeSort_pair reversed
  rw [text, families, filtered, sorted, List.map_cons, List.map_singleton,
    familyText_publishedCounter some_published, familyText_recordedCounter some_recorded]
  simp

end Registry

end Outbox
