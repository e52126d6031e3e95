import Mathlib.Algebra.GroupWithZero.Nat
import Mathlib.Algebra.Order.BigOperators.Group.List
import Mathlib.Data.List.TakeWhile
import Outbox.Proofs.Metrics.Tally
import Outbox.Proofs.Sorting

/-!
# The series of a tally

A series is the name of a counter with some labels, in any order.  A key spells a series out: the
name up to the first brace, then the labels between commas, each up to its first equals sign.  Where
names and values leave these marks alone a key can be read back, so a tally keeps one count for each
series, and its counts add up to the increments.
-/

set_option autoImplicit false

namespace Outbox

namespace Increment

/-- The marks of a key do not occur where they would be mistaken. -/
structure Plain (increment : Increment) : Prop where
  name : '\x7b' ∉ increment.name.toList
  labelNames : ∀ label ∈ increment.labels, ',' ∉ label.1.toList ∧ '=' ∉ label.1.toList
  labelValues : ∀ label ∈ increment.labels, ',' ∉ label.2.toList

instance (increment : Increment) : Decidable increment.Plain :=
  decidable_of_iff
    ('\x7b' ∉ increment.name.toList ∧
      (∀ label ∈ increment.labels, ',' ∉ label.1.toList ∧ '=' ∉ label.1.toList) ∧
      ∀ label ∈ increment.labels, ',' ∉ label.2.toList)
    ⟨fun ⟨name, names, values⟩ => ⟨name, names, values⟩,
      fun plain => ⟨plain.name, plain.labelNames, plain.labelValues⟩⟩

/-- Two increments have the same name, and the same labels in some order. -/
structure SameSeries (a b : Increment) : Prop where
  name : a.name = b.name
  labels : a.labels.Perm b.labels

instance (a b : Increment) : Decidable (a.SameSeries b) :=
  decidable_of_iff (a.name = b.name ∧ a.labels.Perm b.labels)
    ⟨fun ⟨name, labels⟩ => ⟨name, labels⟩, fun same => ⟨same.name, same.labels⟩⟩

end Increment

namespace Tally

/-! ## Keys are read back -/

/-- The parts of a text before and behind the first mark. -/
def cut (mark : Char) (text : List Char) : List Char × List Char :=
  (text.takeWhile (· ≠ mark), (text.dropWhile (· ≠ mark)).tail)

theorem all_unmarked {mark : Char} {text : List Char} (unmarked : mark ∉ text) :
    ∀ c ∈ text, decide (c ≠ mark) = true := by
  intro c member
  rw [decide_eq_true_eq]
  rintro rfl
  exact unmarked member

theorem cut_append {mark : Char} {before : List Char} (unmarked : mark ∉ before)
    (behind : List Char) : cut mark (before ++ mark :: behind) = (before, behind) := by
  have others := all_unmarked unmarked
  rw [cut, List.takeWhile_append_of_pos others, List.dropWhile_append_of_pos others]
  simp

theorem cut_of_not_mem {mark : Char} {text : List Char} (unmarked : mark ∉ text) :
    cut mark text = (text, []) := by
  have others := all_unmarked unmarked
  rw [cut, List.takeWhile_eq_self_iff.mpr others, List.dropWhile_eq_nil_iff.mpr others]
  rfl

def readLabel (text : List Char) : String × String :=
  let parts := cut '=' text
  (String.ofList parts.1, String.ofList parts.2)

/-- The name that a key was made of, and the labels in their order in the key. -/
def readKey (key : String) : String × List (String × String) :=
  let parts := cut '\x7b' key.toList
  (String.ofList parts.1,
    if parts.2 = [] then [] else (parts.2.dropLast.splitOn ',').map readLabel)

theorem readLabel_labelText {label : String × String} (unmarked : '=' ∉ label.1.toList) :
    readLabel (labelText label).toList = label := by
  have spelled : (labelText label).toList = label.1.toList ++ '=' :: label.2.toList := by
    simp [labelText]
  rw [readLabel, spelled, cut_append unmarked]
  simp

theorem comma_not_mem_labelText {label : String × String}
    (name : ',' ∉ label.1.toList) (value : ',' ∉ label.2.toList) :
    ',' ∉ (labelText label).toList := by
  simp [labelText, name, value]

theorem toList_key_of_labels {increment : Increment} (labelled : increment.labels ≠ []) :
    (key increment).toList = increment.name.toList ++ '\x7b' ::
      ([','].intercalate (((increment.labels.map labelText).mergeSort textInOrder).map
        String.toList) ++ ['\x7d']) := by
  rw [key, if_neg (by simpa using labelled)]
  simp

/-- A key tells the name and the labels, but not the order in which the labels came. -/
theorem readKey_key {increment : Increment} (plain : increment.Plain) :
    (readKey (key increment)).1 = increment.name ∧
      (readKey (key increment)).2.Perm increment.labels := by
  -- The labels stand in the key in the order of their texts, not in their own.
  by_cases labelled : increment.labels = []
  · have bare : key increment = increment.name := by simp [key, labelled]
    simp [readKey, bare, cut_of_not_mem plain.name, labelled]
  · have sorted := List.mergeSort_perm (increment.labels.map labelText) textInOrder
    have free : ∀ text ∈ ((increment.labels.map labelText).mergeSort textInOrder).map
        String.toList, ',' ∉ text := by
      intro text member
      obtain ⟨spelled, there, rfl⟩ := List.mem_map.mp member
      obtain ⟨label, own, rfl⟩ := List.mem_map.mp (sorted.mem_iff.mp there)
      exact comma_not_mem_labelText (plain.labelNames label own).1 (plain.labelValues label own)
    have some_text : ((increment.labels.map labelText).mergeSort textInOrder).map
        String.toList ≠ [] := by
      rw [Ne, List.map_eq_nil_iff, ← List.length_eq_zero_iff, sorted.length_eq]
      simpa using labelled
    have restored : (increment.labels.map labelText).map (readLabel ∘ String.toList) =
        increment.labels := by
      rw [List.map_map]
      conv_rhs => rw [← List.map_id increment.labels]
      apply List.map_congr_left
      intro label own
      exact readLabel_labelText (plain.labelNames label own).2
    rw [readKey, toList_key_of_labels labelled, cut_append plain.name]
    simp only [List.append_eq_nil_iff, List.cons_ne_nil, and_false, if_false,
      List.dropLast_concat, String.ofList_toList, true_and]
    rw [List.splitOn_intercalate ',' free some_text, List.map_map]
    exact (sorted.map _).trans (by rw [restored])

/-! ## One key for each series -/

theorem textInOrder_iff {a b : String} : textInOrder a b = true ↔ a ≤ b := by
  rw [textInOrder, Bool.not_eq_true', decide_eq_false_iff_not, not_lt]

theorem mergeSort_texts_congr {texts others : List String} (same : texts.Perm others) :
    texts.mergeSort textInOrder = others.mergeSort textInOrder := by
  have ranked : ∀ a b : String, textInOrder a b = true ↔ id a ≤ id b := fun _ _ => textInOrder_iff
  exact Sorting.mergeSort_congr ranked (fun _ _ _ _ level => level) same

theorem key_congr {a b : Increment} (same : a.SameSeries b) : key a = key b := by
  have empty : a.labels.isEmpty = b.labels.isEmpty := by
    rw [Bool.eq_iff_iff, List.isEmpty_iff_length_eq_zero, List.isEmpty_iff_length_eq_zero,
      same.labels.length_eq]
  rw [key, key, empty, same.name, mergeSort_texts_congr (same.labels.map labelText)]

/-- Plain increments share a key exactly if they are of one series. -/
theorem key_eq_iff {a b : Increment} (plain : a.Plain) (other : b.Plain) :
    key a = key b ↔ a.SameSeries b := by
  constructor
  · intro same
    obtain ⟨name, labels⟩ := readKey_key plain
    obtain ⟨otherName, otherLabels⟩ := readKey_key other
    rw [same] at name labels
    exact ⟨name.symm.trans otherName, labels.symm.trans otherLabels⟩
  · exact key_congr

/-! ## The entries of a tally -/

theorem mem_keys_bump {key asked : String} {counts : List (String × Nat)} :
    asked ∈ (bump key counts).map Prod.fst ↔ asked = key ∨ asked ∈ counts.map Prod.fst := by
  induction counts with
  | nil => simp [bump]
  | cons first rest ih =>
      rw [bump]
      split
      next same => simp [same]
      next =>
        split
        next => simp
        next =>
          simp only [List.map_cons, List.mem_cons, ih]
          tauto

theorem sum_bump (key : String) (counts : List (String × Nat)) :
    ((bump key counts).map Prod.snd).sum = (counts.map Prod.snd).sum + 1 := by
  induction counts with
  | nil => rfl
  | cons first rest ih =>
      rw [bump]
      split
      next =>
        simp only [List.map_cons, List.sum_cons]
        omega
      next =>
        split
        next =>
          simp only [List.map_cons, List.sum_cons]
          omega
        next =>
          simp only [List.map_cons, List.sum_cons, ih]
          omega

/-- A key has one entry, with its count, or none. -/
theorem Ascending.filter_key {counts : List (String × Nat)} (ascending : Ascending counts)
    (key : String) : (counts.filter fun entry => entry.1 = key) =
      if key ∈ counts.map Prod.fst then [(key, countOf key counts)] else [] := by
  induction counts with
  | nil => rfl
  | cons first rest ih =>
      obtain ⟨below, after⟩ := List.pairwise_cons.mp ascending
      by_cases same : first.1 = key
      · have none_later : (rest.filter fun entry => entry.1 = key) = [] := by
          rw [List.filter_eq_nil_iff]
          intro entry member again
          exact (below entry member).ne (same.trans (decide_eq_true_eq.mp again).symm)
        rw [List.filter_cons_of_pos (by simpa using same), none_later, countOf_cons, if_pos same,
          if_pos (by simp [same]), ← same]
      · have elsewhere : key ∈ (first :: rest).map Prod.fst ↔ key ∈ rest.map Prod.fst := by
          rw [List.map_cons, List.mem_cons, or_iff_right (Ne.symm same)]
        rw [List.filter_cons_of_neg (by simpa using same), ih after, countOf_cons, if_neg same]
        simp only [elsewhere]

theorem mem_keys_recordAll (tally : Tally) (increments : List Increment) (asked : String) :
    asked ∈ (tally.recordAll increments).counts.map Prod.fst ↔
      (∃ increment ∈ increments, asked = key increment) ∨ asked ∈ tally.counts.map Prod.fst := by
  induction increments generalizing tally with
  | nil => simp [recordAll]
  | cons increment rest ih =>
      rw [recordAll, List.foldl_cons, ← recordAll, ih, record, mem_keys_bump]
      simp only [List.exists_mem_cons_iff, or_assoc, or_left_comm]

theorem sum_recordAll (tally : Tally) (increments : List Increment) :
    ((tally.recordAll increments).counts.map Prod.snd).sum =
      (tally.counts.map Prod.snd).sum + increments.length := by
  induction increments generalizing tally with
  | nil => rfl
  | cons increment rest ih =>
      rw [recordAll, List.foldl_cons, ← recordAll, ih, record, sum_bump, List.length_cons]
      omega

theorem count_of_series {increments : List Increment}
    (plain : ∀ increment ∈ increments, increment.Plain) {asked : Increment}
    (own : asked.Plain) : (recordAll {} increments).count asked =
      increments.countP fun increment => increment.SameSeries asked := by
  rw [count_recordAll ordered_empty]
  change 0 + _ = _
  rw [Nat.zero_add]
  apply List.countP_congr
  intro increment member
  rw [decide_eq_true_eq, decide_eq_true_eq]
  exact key_eq_iff (plain increment member) own

/-- After any increments whose names and labels are plain, the count of a series is the number of
increments of this series.  The snapshot is in strict order of the keys and has one entry for each
series that was counted, with its count, and no other entry; no two series share a key.  The counts
add up to the increments, so that none of them is out of range unless there are too many
increments. -/
theorem series_are_counted (increments : List Increment)
    (plain : ∀ increment ∈ increments, increment.Plain) :
    (∀ asked : Increment, asked.Plain → (recordAll {} increments).count asked =
      increments.countP fun increment => increment.SameSeries asked) ∧
    ((recordAll {} increments).snapshot.Pairwise fun earlier later => earlier.1 < later.1) ∧
    (∀ asked ∈ increments,
      ((recordAll {} increments).snapshot.filter fun entry => entry.1 = key asked) =
        [(key asked, increments.countP fun increment => increment.SameSeries asked)] ∧
      ∀ other ∈ increments, key asked = key other → asked.SameSeries other) ∧
    (∀ entry ∈ (recordAll {} increments).snapshot, ∃ asked ∈ increments, entry.1 = key asked) ∧
    ((recordAll {} increments).snapshot.map Prod.snd).sum = increments.length ∧
    (increments.length < UInt64.size →
      ∀ entry ∈ (recordAll {} increments).snapshot, entry.2 < UInt64.size) := by
  have ordered : (recordAll {} increments).Ordered := ordered_empty.recordAll increments
  have total : ((recordAll {} increments).snapshot.map Prod.snd).sum = increments.length :=
    (sum_recordAll {} increments).trans (Nat.zero_add _)
  refine ⟨fun asked own => count_of_series plain own, ordered, ?_, ?_, total, ?_⟩
  · intro asked member
    have known : key asked ∈ (recordAll {} increments).counts.map Prod.fst :=
      (mem_keys_recordAll {} increments _).mpr (.inl ⟨asked, member, rfl⟩)
    have counted : countOf (key asked) (recordAll {} increments).counts = _ :=
      count_of_series plain (plain asked member)
    refine ⟨?_, fun other there => (key_eq_iff (plain asked member) (plain other there)).mp⟩
    rw [snapshot, Ascending.filter_key ordered, if_pos known, counted]
  · intro entry member
    have known := (mem_keys_recordAll {} increments entry.1).mp (List.mem_map_of_mem member)
    exact known.resolve_right List.not_mem_nil
  · intro few entry member
    have part : entry.2 ≤ increments.length := by
      rw [← total]
      exact List.single_le_sum (fun _ _ => Nat.zero_le _) _ (List.mem_map_of_mem member)
    exact part.trans_lt few

/-- Whatever a publisher and an audit subscriber count is plain. -/
example : ∀ increment ∈ [Increment.published, .failed, .publisherError, .recorded, .auditError],
    increment.Plain := by decide

/-- Two increments of one series, whose labels come in either order, and two of others. -/
def mixedIncrements : List Increment :=
  [⟨"reads", [("disk", "a=b"), ("user", "eve")]⟩, .publisherError,
    ⟨"reads", [("user", "eve"), ("disk", "a=b")]⟩, .published]

theorem mixedIncrements_are_counted :
    (∀ increment ∈ mixedIncrements, increment.Plain) ∧
    ((recordAll {} mixedIncrements).count ⟨"reads", [("disk", "a=b"), ("user", "eve")]⟩ = 2 ∧
      (recordAll {} mixedIncrements).count ⟨"reads", []⟩ = 0) ∧
    (mixedIncrements.length < UInt64.size ∧
      ((recordAll {} mixedIncrements).snapshot.map Prod.snd).sum = 4) := by
  have plain : ∀ increment ∈ mixedIncrements, increment.Plain := by decide
  obtain ⟨counts, _, _, _, total, _⟩ := series_are_counted mixedIncrements plain
  refine ⟨plain, ⟨?_, ?_⟩, by decide, total⟩
  · rw [counts _ (by decide)]
    decide
  · rw [counts _ (by decide)]
    decide

end Tally

end Outbox
