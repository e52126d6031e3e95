import Mathlib.Data.Finset.Card
import Mathlib.Data.Prod.Lex
import Outbox.Proofs.Audit.Log
import Outbox.Proofs.Sorting

/-!
# The order of the event log

A log shows the first entry of each id that was saved, in strict order of time and id.  Its entries
may be stored in any arrangement: entries with different ids are never level, so they can be shown
in one way only.
-/

set_option autoImplicit false

namespace Outbox.Audit

/-! ## Places in the order -/

/-- Where an entry stands: by its time, and at one time by its id. -/
def Entry.rank (entry : Entry) : ℤ ×ₗ ℕ ×ₗ ℕ :=
  toLex (entry.occurredAt.seconds, toLex (entry.occurredAt.nanos, entry.id.value))

theorem Entry.id_of_rank {a b : Entry} (level : a.rank = b.rank) : a.id = b.id := by
  simp only [rank, EmbeddingLike.apply_eq_iff_eq, Prod.mk.injEq] at level
  have same := level.2.2
  cases idA : a.id
  cases idB : b.id
  simp_all

namespace Log

theorem inOrder_iff {a b : Entry} : inOrder a b = true ↔ a.rank ≤ b.rank := by
  obtain ⟨idA, ⟨secondsA, nanosA, _, _, _⟩, _, _, _, _⟩ := a
  obtain ⟨idB, ⟨secondsB, nanosB, _, _, _⟩, _, _, _, _⟩ := b
  simp only [inOrder, Entry.rank, Prod.Lex.toLex_le_toLex, Time.Instant.mk.injEq]
  split
  next simultaneous =>
    obtain ⟨rfl, rfl⟩ := simultaneous
    rw [decide_eq_true_eq]
    change idA.value ≤ idB.value ↔ _
    simp
  next apart =>
    simp only [decide_eq_true_eq]
    change secondsA < secondsB ∨ secondsA = secondsB ∧ nanosA ≤ nanosB ↔ _
    constructor
    · rintro (earlier | ⟨rfl, before⟩)
      · exact .inl earlier
      · have other : nanosA ≠ nanosB := fun same => apart ⟨rfl, same⟩
        exact .inr ⟨rfl, .inl (lt_of_le_of_ne before other)⟩
    · rintro (earlier | ⟨rfl, before | ⟨rfl, _⟩⟩)
      · exact .inl earlier
      · exact .inr ⟨rfl, before.le⟩
      · exact absurd ⟨rfl, rfl⟩ apart

theorem pairwise_sorted (entries : List Entry) :
    (entries.mergeSort inOrder).Pairwise fun a b => a.rank ≤ b.rank :=
  Sorting.pairwise_mergeSort @inOrder_iff entries

/-- Entries with different ids are sorted in the same way from any arrangement. -/
theorem mergeSort_congr {entries others : List Entry} (distinct : (entries.map Entry.id).Nodup)
    (same : entries.Perm others) : entries.mergeSort inOrder = others.mergeSort inOrder := by
  apply Sorting.mergeSort_congr @inOrder_iff ?_ same
  intro a here b there level
  exact List.inj_on_of_nodup_map distinct (same.mem_iff.mpr here) (same.mem_iff.mpr there)
    (Entry.id_of_rank level)

/-! ## What a log shows -/

section Shown
variable {log : Log}

theorem Distinct.nodup (distinct : log.Distinct) : log.saved.Nodup :=
  List.Nodup.of_map _ distinct

theorem Distinct.mem_saved_iff (distinct : log.Distinct) {entry : Entry} :
    entry ∈ log.saved ↔ log.get? entry.id = some entry :=
  ⟨distinct.get?, fun found => (get?_spec found).1⟩

theorem Distinct.strictly_sorted (distinct : log.Distinct) :
    log.entries.Pairwise fun a b => a.rank < b.rank := by
  have apart : log.entries.Pairwise fun a b => a ≠ b :=
    (List.mergeSort_perm log.saved inOrder).nodup_iff.mpr distinct.nodup
  apply ((pairwise_sorted log.saved).and apart).imp_of_mem
  rintro a b here there ⟨before, other⟩
  apply lt_of_le_of_ne before
  intro level
  apply other
  exact List.inj_on_of_nodup_map distinct (List.mem_mergeSort.mp here) (List.mem_mergeSort.mp there)
    (Entry.id_of_rank level)

theorem Distinct.count_entries (distinct : log.Distinct) (entry : Entry) :
    log.entries.count entry = if log.get? entry.id = some entry then 1 else 0 := by
  rw [entries, (List.mergeSort_perm log.saved inOrder).count_eq]
  split
  next kept => exact List.count_eq_one_of_mem distinct.nodup (distinct.mem_saved_iff.mpr kept)
  next missing =>
    apply List.count_eq_zero_of_not_mem
    intro member
    exact missing (distinct.mem_saved_iff.mp member)

/-- Whatever arrangement the entries are stored in, they are shown alike. -/
theorem Distinct.entries_of_stored (distinct : log.Distinct) {stored : List Entry}
    (once : stored.Nodup) (all : ∀ entry, entry ∈ stored ↔ log.get? entry.id = some entry) :
    stored.mergeSort inOrder = log.entries := by
  have same : log.saved.Perm stored := by
    rw [List.perm_ext_iff_of_nodup distinct.nodup once]
    intro entry
    rw [distinct.mem_saved_iff, all]
  exact (mergeSort_congr distinct same).symm

end Shown

/-! ## Saves one after the other -/

theorem distinct_saveAll (entries : List Entry) : (saveAll {} entries).Distinct := by
  have fresh : Distinct {} := List.nodup_nil
  exact fresh.saveAll entries

theorem get?_saved (entries : List Entry) (id : Uuid) :
    (saveAll {} entries).get? id = entries.find? fun entry => entry.id = id := by
  rw [get?_saveAll]
  rfl

theorem save_fst_iff {log : Log} {entry : Entry} :
    (log.save entry).1 = true ↔ log.get? entry.id = none := by
  unfold save
  cases log.get? entry.id <;> simp

theorem size_saveAll (entries : List Entry) :
    (saveAll {} entries).size = (entries.map Entry.id).toFinset.card := by
  have ids : ((saveAll {} entries).saved.map Entry.id).toFinset =
      (entries.map Entry.id).toFinset := by
    ext id
    rw [List.mem_toFinset, List.mem_toFinset, mem_ids_saveAll]
  rw [← ids, List.toFinset_card_of_nodup (distinct_saveAll entries), List.length_map]
  rfl

/-- Entries with different ids are all saved, in their order. -/
theorem saved_of_distinct {entries : List Entry} (distinct : (entries.map Entry.id).Nodup) :
    (saveAll {} entries).saved = entries := by
  induction entries using List.reverseRecOn with
  | nil => rfl
  | append_singleton before entry ih =>
      rw [List.map_append, List.nodup_append] at distinct
      obtain ⟨earlier, _, apart⟩ := distinct
      have new : (saveAll {} before).get? entry.id = none := by
        rw [get?_saved, List.find?_eq_none]
        intro other member same
        exact apart _ (List.mem_map_of_mem member) _ (List.mem_singleton_self _)
          (by simpa using same)
      rw [saveAll_concat, save, new]
      simp only [ih earlier]

/-- A save tells that it has saved exactly if no earlier one was given its id.  After any saves the
log holds the first entry of each id and is as large as the number of ids; it shows each of these
entries once, in strict order of time and id, in whatever arrangement they are stored.  Entries with
different ids are shown alike, whatever order they were saved in. -/
theorem saves_are_exact :
    (∀ (before : List Entry) (next : Entry),
      ((saveAll {} before).save next).1 = true ↔ ∀ earlier ∈ before, earlier.id ≠ next.id) ∧
    (∀ entries : List Entry,
      let log := saveAll {} entries
      log.size = (entries.map Entry.id).toFinset.card ∧
      (∀ id, log.get? id = entries.find? fun entry => entry.id = id) ∧
      (∀ entry, log.entries.count entry =
        if (entries.find? fun first => first.id = entry.id) = some entry then 1 else 0) ∧
      (log.entries.Pairwise fun a b => a.rank < b.rank) ∧
      ∀ stored : List Entry, stored.Nodup →
        (∀ entry, entry ∈ stored ↔
          (entries.find? fun first => first.id = entry.id) = some entry) →
        stored.mergeSort inOrder = log.entries) ∧
    ∀ entries others : List Entry, entries.Perm others → (entries.map Entry.id).Nodup →
      (saveAll {} entries).entries = (saveAll {} others).entries := by
  refine ⟨?_, ?_, ?_⟩
  · intro before next
    rw [save_fst_iff, get?_saved, List.find?_eq_none]
    simp
  · intro entries log
    have distinct := distinct_saveAll entries
    refine ⟨size_saveAll entries, get?_saved entries, ?_, distinct.strictly_sorted, ?_⟩
    · intro entry
      rw [distinct.count_entries, get?_saved]
    · intro stored once all
      apply distinct.entries_of_stored once
      intro entry
      rw [all, get?_saved]
  · intro entries others same distinct
    have others_distinct : (others.map Entry.id).Nodup :=
      (same.map Entry.id).nodup_iff.mp distinct
    unfold Log.entries
    rw [saved_of_distinct distinct, saved_of_distinct others_distinct]
    exact mergeSort_congr distinct same

def fig : Entry :=
  ⟨⟨2, by decide⟩, .epoch, 1, "fruit", [0x7B, 0x7D], ""⟩

/-- Of the same moment as `fig`, with a smaller id. -/
def quince : Entry :=
  { fig with id := default }

/-- Has the id of `quince`. -/
def laterQuince : Entry :=
  { quince with metadata := "updated" }

/-- Two entries of one moment and a repetition: the repetition is refused, and both arrangements of
the two entries are shown alike. -/
theorem level_saves_are_exact :
    ((saveAll {} [fig, quince]).save laterQuince).1 = false ∧
    (saveAll {} [fig, quince, laterQuince]).entries.count quince = 1 ∧
    [quince, fig].mergeSort inOrder = (saveAll {} [fig, quince, laterQuince]).entries ∧
    (saveAll {} [fig, quince]).entries = (saveAll {} [quince, fig]).entries := by
  obtain ⟨answers, shown, arranged⟩ := saves_are_exact
  obtain ⟨_, _, counts, _, stored⟩ := shown [fig, quince, laterQuince]
  have kept : ∀ entry, entry ∈ [quince, fig] ↔
      ([fig, quince, laterQuince].find? fun first => first.id = entry.id) = some entry := by
    intro entry
    by_cases first : fig.id = entry.id
    · have other : ¬quince.id = entry.id := fun same => absurd (first.trans same.symm) (by decide)
      simp only [List.mem_cons, List.not_mem_nil, or_false, List.find?_cons, first, decide_true,
        Option.some.injEq]
      constructor
      · rintro (rfl | rfl)
        · exact absurd rfl other
        · rfl
      · rintro rfl
        exact .inr rfl
    · by_cases second : quince.id = entry.id
      · simp only [List.mem_cons, List.not_mem_nil, or_false, List.find?_cons, first, second,
          decide_true, decide_false, Option.some.injEq]
        constructor
        · rintro (rfl | rfl)
          · rfl
          · exact absurd rfl first
        · rintro rfl
          exact .inl rfl
      · have third : ¬laterQuince.id = entry.id := second
        simp only [List.mem_cons, List.not_mem_nil, or_false, List.find?_cons, first, second, third,
          decide_false, List.find?_nil, reduceCtorEq, iff_false]
        rintro (rfl | rfl)
        · exact second rfl
        · exact first rfl
  refine ⟨?_, ?_, stored [quince, fig] (by decide) kept, ?_⟩
  · rw [Bool.eq_false_iff, ne_eq, answers]
    intro new
    exact new quince (by simp) rfl
  · rw [counts]
    rfl
  · exact arranged [fig, quince] [quince, fig] (List.Perm.swap ..) (by decide)

end Log

end Outbox.Audit
