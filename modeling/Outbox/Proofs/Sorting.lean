import Mathlib.Data.List.Sort

/-!
# Sorting by rank

A list is sorted by the ranks of its elements.  Where different elements have different ranks there
is one sorted list of them, whatever arrangement it is made from.
-/

set_option autoImplicit false

namespace Outbox.Sorting

variable {α β : Type} [LinearOrder β] {inOrder : α → α → Bool} {rank : α → β}

theorem pairwise_mergeSort (ranked : ∀ a b, inOrder a b = true ↔ rank a ≤ rank b)
    (list : List α) : (list.mergeSort inOrder).Pairwise fun a b => rank a ≤ rank b := by
  have sorted : (list.mergeSort inOrder).Pairwise fun a b => inOrder a b = true := by
    apply List.pairwise_mergeSort
    · intro a b c first second
      exact (ranked a c).mpr (le_trans ((ranked a b).mp first) ((ranked b c).mp second))
    · intro a b
      rw [Bool.or_eq_true, ranked, ranked]
      exact le_total (rank a) (rank b)
  exact sorted.imp fun before => (ranked _ _).mp before

/-- A list that is in order is the sorted list of its elements. -/
theorem mergeSort_eq_of_perm (ranked : ∀ a b, inOrder a b = true ↔ rank a ≤ rank b)
    {list sorted : List α} (apart : ∀ a ∈ sorted, ∀ b ∈ sorted, rank a = rank b → a = b)
    (ordered : sorted.Pairwise fun a b => rank a ≤ rank b) (same : list.Perm sorted) :
    list.mergeSort inOrder = sorted := by
  have arranged := (List.mergeSort_perm list inOrder).trans same
  apply List.Perm.eq_of_pairwise ?_ (pairwise_mergeSort ranked list) ordered arranged
  intro a b here there before after
  exact apart a (arranged.subset here) b there (le_antisymm before after)

theorem mergeSort_congr (ranked : ∀ a b, inOrder a b = true ↔ rank a ≤ rank b)
    {list other : List α} (apart : ∀ a ∈ other, ∀ b ∈ other, rank a = rank b → a = b)
    (same : list.Perm other) : list.mergeSort inOrder = other.mergeSort inOrder := by
  apply mergeSort_eq_of_perm ranked ?_ (pairwise_mergeSort ranked other)
    (same.trans (List.mergeSort_perm other inOrder).symm)
  intro a here b there
  exact apart a (List.mem_mergeSort.mp here) b (List.mem_mergeSort.mp there)

end Outbox.Sorting
