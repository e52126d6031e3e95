import Mathlib.Data.String.Basic
import Outbox.Metrics.Sink

/-!
# What a tally counts

A tally keeps its keys in strict order.  So a count is found under its key, and after a list of
increments it is the number of increments with this key.
-/

set_option autoImplicit false

namespace Outbox.Tally

/-! ## One key in a list of counts -/

def Ascending (counts : List (String × Nat)) : Prop :=
  counts.Pairwise fun earlier later => earlier.1 < later.1

/-- The count of a key, which is zero without an entry. -/
def countOf (key : String) (counts : List (String × Nat)) : Nat :=
  match counts.find? fun entry => entry.1 = key with
  | some entry => entry.2
  | none => 0

theorem countOf_cons (key : String) (entry : String × Nat) (rest : List (String × Nat)) :
    countOf key (entry :: rest) = if entry.1 = key then entry.2 else countOf key rest := by
  unfold countOf
  by_cases same : entry.1 = key
  · rw [List.find?_cons_of_pos (by simpa using same), if_pos same]
  · rw [List.find?_cons_of_neg (by simpa using same), if_neg same]

/-- A key below all others has no count. -/
theorem countOf_of_lt {key : String} {counts : List (String × Nat)}
    (below : ∀ entry ∈ counts, key < entry.1) : countOf key counts = 0 := by
  induction counts with
  | nil => rfl
  | cons entry rest ih =>
      have other : entry.1 ≠ key := (below entry List.mem_cons_self).ne'
      rw [countOf_cons, if_neg other]
      apply ih
      intro later member
      exact below later (List.mem_cons_of_mem _ member)

theorem key_of_mem_bump {key : String} {counts : List (String × Nat)} {entry : String × Nat}
    (member : entry ∈ bump key counts) : entry.1 = key ∨ ∃ old ∈ counts, old.1 = entry.1 := by
  induction counts with
  | nil =>
      rw [bump, List.mem_singleton] at member
      exact .inl (by rw [member])
  | cons first rest ih =>
      rw [bump] at member
      split at member
      next same =>
        obtain rfl | later := List.mem_cons.mp member
        · exact .inl same.symm
        · exact .inr ⟨entry, List.mem_cons_of_mem _ later, rfl⟩
      next =>
        split at member
        next =>
          obtain rfl | later := List.mem_cons.mp member
          · exact .inl rfl
          · exact .inr ⟨entry, later, rfl⟩
        next =>
          obtain rfl | later := List.mem_cons.mp member
          · exact .inr ⟨_, List.mem_cons_self, rfl⟩
          · obtain same | ⟨old, there, same⟩ := ih later
            · exact .inl same
            · exact .inr ⟨old, List.mem_cons_of_mem _ there, same⟩

theorem Ascending.bump {counts : List (String × Nat)} (ascending : Ascending counts)
    (key : String) : Ascending (bump key counts) := by
  induction counts with
  | nil => exact List.pairwise_singleton _ _
  | cons first rest ih =>
      obtain ⟨below, after⟩ := List.pairwise_cons.mp ascending
      rw [Tally.bump]
      split
      next same =>
        exact List.pairwise_cons.mpr ⟨below, after⟩
      next different =>
        split
        next before =>
          apply List.pairwise_cons.mpr
          refine ⟨?_, ascending⟩
          intro entry member
          obtain rfl | later := List.mem_cons.mp member
          · exact before
          · exact before.trans (below entry later)
        next notBefore =>
          have behind : first.1 < key := lt_of_le_of_ne (not_lt.mp notBefore) (Ne.symm different)
          apply List.pairwise_cons.mpr
          refine ⟨?_, ih after⟩
          intro entry member
          obtain same | ⟨old, there, same⟩ := key_of_mem_bump member
          · exact same ▸ behind
          · exact same ▸ below old there

theorem countOf_bump {counts : List (String × Nat)} (ascending : Ascending counts)
    (key other : String) :
    countOf other (Tally.bump key counts) =
      countOf other counts + if key = other then 1 else 0 := by
  induction counts with
  | nil =>
      rw [Tally.bump, countOf_cons]
      by_cases same : key = other
      · simp [same, countOf]
      · simp [same]
  | cons first rest ih =>
      obtain ⟨below, after⟩ := List.pairwise_cons.mp ascending
      rw [Tally.bump]
      split
      next same =>
        by_cases asked : key = other
        · rw [countOf_cons, countOf_cons, ← same, if_pos asked, if_pos asked, if_pos asked]
        · rw [countOf_cons, countOf_cons, ← same, if_neg asked, if_neg asked, if_neg asked,
            Nat.add_zero]
      next different =>
        split
        next before =>
          -- A key in front of an ascending list has not been counted yet.
          rw [countOf_cons]
          by_cases asked : key = other
          · have new : countOf other (first :: rest) = 0 := by
              apply countOf_of_lt
              intro entry member
              obtain rfl | later := List.mem_cons.mp member
              · exact asked ▸ before
              · exact asked ▸ before.trans (below entry later)
            rw [if_pos asked, if_pos asked, new]
          · rw [if_neg asked, if_neg asked, Nat.add_zero]
        next =>
          rw [countOf_cons, countOf_cons, ih after]
          by_cases asked : first.1 = other
          · have otherKey : key ≠ other := fun same => different (same.trans asked.symm)
            rw [if_pos asked, if_pos asked, if_neg otherKey, Nat.add_zero]
          · rw [if_neg asked, if_neg asked]

/-! ## Tallies -/

def Ordered (tally : Tally) : Prop :=
  Ascending tally.counts

theorem ordered_empty : Ordered {} :=
  List.Pairwise.nil

theorem Ordered.record {tally : Tally} (ordered : tally.Ordered) (increment : Increment) :
    (tally.record increment).Ordered :=
  Ascending.bump ordered (key increment)

theorem count_record {tally : Tally} (ordered : tally.Ordered) (increment other : Increment) :
    (tally.record increment).count other =
      tally.count other + if key increment = key other then 1 else 0 :=
  countOf_bump ordered (key increment) (key other)

def recordAll (tally : Tally) (increments : List Increment) : Tally :=
  increments.foldl record tally

theorem Ordered.recordAll {tally : Tally} (ordered : tally.Ordered) (increments : List Increment) :
    (tally.recordAll increments).Ordered := by
  induction increments generalizing tally with
  | nil => exact ordered
  | cons increment rest ih => exact ih (ordered.record increment)

theorem count_recordAll {tally : Tally} (ordered : tally.Ordered) (increments : List Increment)
    (other : Increment) :
    (tally.recordAll increments).count other =
      tally.count other + increments.countP fun increment => key increment = key other := by
  induction increments generalizing tally with
  | nil => rfl
  | cons increment rest ih =>
      have later := ih (ordered.record increment)
      rw [count_record ordered] at later
      rw [List.countP_cons]
      simp only [decide_eq_true_eq]
      calc (tally.recordAll (increment :: rest)).count other
          = tally.count other + (if key increment = key other then 1 else 0) +
              rest.countP fun increment => key increment = key other := later
        _ = tally.count other + ((rest.countP fun increment => key increment = key other) +
              if key increment = key other then 1 else 0) := by omega

end Outbox.Tally

namespace Outbox.Sink

theorem recordAll_append (sink : Sink) (first second : List Increment) :
    sink.recordAll (first ++ second) = (sink.recordAll first).recordAll second :=
  List.foldl_append

end Outbox.Sink
