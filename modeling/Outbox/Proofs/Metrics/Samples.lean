import Mathlib.Data.List.Induction
import Mathlib.Data.List.Nodup
import Outbox.Metrics.Registry

/-!
# What a counter keeps of its label values

A counter looks for a sample by the fingerprint of the label values.  So after any values it has one
sample for each fingerprint: with the first values that have it, and with the number of all that
have it.  These are the numbers of the values themselves exactly if no two of them that differ share
a fingerprint.
-/

set_option autoImplicit false

namespace Outbox.Counter

/-! ## Samples -/

/-- The samples after these label values, one after the other. -/
def tallied (asked : List (List String)) : List (List String × Nat) :=
  asked.foldl (fun samples values => bump values samples) []

theorem tallied_concat (asked : List (List String)) (values : List String) :
    tallied (asked ++ [values]) = bump values (tallied asked) := by
  simp [tallied]

/-- The sample of a fingerprint. -/
def sampleOf? (print : UInt64) (samples : List (List String × Nat)) : Option (List String × Nat) :=
  samples.find? fun sample => fingerprint sample.1 = print

theorem sampleOf?_cons (print : UInt64) (sample : List String × Nat)
    (rest : List (List String × Nat)) :
    sampleOf? print (sample :: rest) =
      if fingerprint sample.1 = print then some sample else sampleOf? print rest := by
  unfold sampleOf?
  by_cases same : fingerprint sample.1 = print
  · rw [List.find?_cons_of_pos (by simpa using same), if_pos same]
  · rw [List.find?_cons_of_neg (by simpa using same), if_neg same]

theorem sampleOf?_bump (print : UInt64) (values : List String)
    (samples : List (List String × Nat)) :
    sampleOf? print (bump values samples) =
      if fingerprint values = print then
        match sampleOf? print samples with
        | some (first, count) => some (first, count + 1)
        | none => some (values, 1)
      else sampleOf? print samples := by
  induction samples with
  | nil =>
      rw [bump, sampleOf?_cons]
      rfl
  | cons sample rest ih =>
      obtain ⟨other, count⟩ := sample
      rw [bump]
      split
      next same =>
        rw [sampleOf?_cons, sampleOf?_cons, same]
        split <;> rfl
      next different =>
        rw [sampleOf?_cons, sampleOf?_cons, ih]
        by_cases found : fingerprint other = print
        · have elsewhere : fingerprint values ≠ print :=
            fun same => different (same.trans found.symm)
          rw [if_pos found, if_neg elsewhere, if_pos found]
        · rw [if_neg found, if_neg found]

theorem sampleOf?_tallied (print : UInt64) (asked : List (List String)) :
    sampleOf? print (tallied asked) =
      (asked.find? fun values => fingerprint values = print).map fun first =>
        (first, asked.countP fun values => fingerprint values = print) := by
  induction asked using List.reverseRecOn with
  | nil => rfl
  | append_singleton before values ih =>
      rw [tallied_concat, sampleOf?_bump, ih, List.find?_append, List.countP_append,
        List.find?_singleton, List.countP_singleton]
      by_cases same : fingerprint values = print
      · cases found : before.find? fun values => fingerprint values = print with
        | some first => simp [same]
        | none =>
            have unseen : before.countP (fun values => fingerprint values = print) = 0 := by
              rw [List.countP_eq_zero]
              exact List.find?_eq_none.mp found
            simp [same, unseen]
      · simp [same]

theorem tallied_eq_nil_iff {asked : List (List String)} : tallied asked = [] ↔ asked = [] := by
  constructor
  · intro empty
    cases asked with
    | nil => rfl
    | cons values later =>
        obtain ⟨sample, there⟩ : ∃ sample,
            sampleOf? (fingerprint values) (tallied (values :: later)) = some sample := by
          rw [sampleOf?_tallied, List.find?_cons_of_pos (by simp)]
          exact ⟨_, rfl⟩
        rw [empty] at there
        cases there
  · rintro rfl
    rfl

/-- No two samples share a fingerprint. -/
def Apart (samples : List (List String × Nat)) : Prop :=
  (samples.map fun sample => fingerprint sample.1).Nodup

theorem fingerprints_bump (values : List String) (samples : List (List String × Nat)) :
    (bump values samples).map (fun sample => fingerprint sample.1) =
      if fingerprint values ∈ samples.map (fun sample => fingerprint sample.1) then
        samples.map fun sample => fingerprint sample.1
      else samples.map (fun sample => fingerprint sample.1) ++ [fingerprint values] := by
  induction samples with
  | nil => rfl
  | cons sample rest ih =>
      obtain ⟨other, count⟩ := sample
      rw [bump]
      split
      next same => simp [same]
      next different =>
        rw [List.map_cons, ih, List.map_cons]
        simp only [List.mem_cons, different, false_or]
        split <;> rfl

theorem Apart.bump {samples : List (List String × Nat)} (apart : Apart samples)
    (values : List String) : Apart (bump values samples) := by
  unfold Apart
  rw [fingerprints_bump]
  split
  next => exact apart
  next new => exact List.concat_eq_append ▸ List.Nodup.concat new apart

theorem apart_tallied (asked : List (List String)) : Apart (tallied asked) := by
  induction asked using List.reverseRecOn with
  | nil => exact List.nodup_nil
  | append_singleton before values ih =>
      rw [tallied_concat]
      exact ih.bump values

/-- There is one sample for each fingerprint, with the first values that have it and with the number
of all that have it. -/
theorem mem_tallied_iff {asked : List (List String)} {values : List String} {count : Nat} :
    (values, count) ∈ tallied asked ↔
      (asked.find? fun other => fingerprint other = fingerprint values) = some values ∧
        count = asked.countP fun other => fingerprint other = fingerprint values := by
  have found : (values, count) ∈ tallied asked ↔
      sampleOf? (fingerprint values) (tallied asked) = some (values, count) := by
    constructor
    · intro member
      obtain ⟨sample, there⟩ : ∃ sample,
          sampleOf? (fingerprint values) (tallied asked) = some sample := by
        rw [← Option.isSome_iff_exists, sampleOf?, List.find?_isSome]
        exact ⟨_, member, by simp⟩
      have same := List.find?_some there
      have own := List.inj_on_of_nodup_map (apart_tallied asked) (List.mem_of_find?_eq_some there)
        member (by simpa using same)
      rw [there, own]
    · exact List.mem_of_find?_eq_some
  rw [found, sampleOf?_tallied, Option.map_eq_some_iff]
  simp only [Prod.mk.injEq]
  constructor
  · rintro ⟨first, there, rfl, counted⟩
    exact ⟨there, counted.symm⟩
  · rintro ⟨there, rfl⟩
    exact ⟨values, there, rfl, rfl⟩

/-! ## Samples as they are exported -/

theorem mem_sortedSamples_iff {counter : Counter} {labels : List (String × String)} {count : Nat} :
    (labels, count) ∈ counter.sortedSamples ↔
      ∃ values, (values, count) ∈ counter.samples ∧ labels = counter.labelsByName values := by
  simp only [sortedSamples, List.mem_mergeSort, List.mem_map, Prod.mk.injEq, Prod.exists]
  constructor
  · rintro ⟨values, n, member, rfl, rfl⟩
    exact ⟨values, member, rfl⟩
  · rintro ⟨values, member, rfl⟩
    exact ⟨values, count, member, rfl, rfl⟩

theorem length_project (counter : Counter) (labels : List (String × String)) :
    (counter.project labels).length = counter.labelNames.length :=
  List.length_map ..

/-- The exported labels tell the values, where label names are different. -/
theorem labelsByName_inj {counter : Counter} (distinct : counter.labelNames.Nodup)
    {values others : List String} (full : values.length = counter.labelNames.length)
    (fullOthers : others.length = counter.labelNames.length)
    (same : counter.labelsByName values = counter.labelsByName others) : values = others := by
  have arranged : (counter.labelNames.zip values).Perm (counter.labelNames.zip others) := by
    have first := List.mergeSort_perm (counter.labelNames.zip values) fun a b => textInOrder a.1 b.1
    have second := List.mergeSort_perm (counter.labelNames.zip others) fun a b =>
      textInOrder a.1 b.1
    rw [labelsByName, labelsByName] at same
    exact (same ▸ first).symm.trans second
  apply List.ext_getElem (full.trans fullOthers.symm)
  intro index inValues inOthers
  have inNames : index < counter.labelNames.length := full ▸ inValues
  have member : (counter.labelNames[index], values[index]) ∈ counter.labelNames.zip others := by
    rw [← arranged.mem_iff, List.mem_iff_getElem]
    exact ⟨index, List.length_zip ▸ Nat.lt_min.mpr ⟨inNames, inValues⟩, List.getElem_zip⟩
  obtain ⟨place, within, there⟩ := List.mem_iff_getElem.mp member
  rw [List.getElem_zip, Prod.mk.injEq] at there
  obtain ⟨sameName, sameValue⟩ := there
  have here : place = index := (List.Nodup.getElem_inj_iff distinct).mp sameName
  subst here
  exact sameValue.symm

/-! ## Numbers of equal values -/

/-- Different values never share a fingerprint. -/
def Distinguished (asked : List (List String)) : Prop :=
  ∀ values ∈ asked, ∀ others ∈ asked, fingerprint values = fingerprint others → values = others

/-- The first values with their fingerprint. -/
theorem Distinguished.find? {asked : List (List String)} (distinguished : Distinguished asked)
    {values : List String} (member : values ∈ asked) :
    (asked.find? fun other => fingerprint other = fingerprint values) = some values := by
  obtain ⟨first, there⟩ : ∃ first,
      (asked.find? fun other => fingerprint other = fingerprint values) = some first := by
    rw [← Option.isSome_iff_exists, List.find?_isSome]
    exact ⟨values, member, by simp⟩
  have same : fingerprint first = fingerprint values := by simpa using List.find?_some there
  rw [there, distinguished first (List.mem_of_find?_eq_some there) values member same]

theorem Distinguished.countP_eq_count {asked : List (List String)}
    (distinguished : Distinguished asked) {values : List String} (member : values ∈ asked) :
    (asked.countP fun other => fingerprint other = fingerprint values) = asked.count values := by
  apply List.countP_congr
  intro other there
  simp only [decide_eq_true_eq, beq_iff_eq]
  exact ⟨distinguished other there values member, fun same => by rw [same]⟩

/-- Values each of which is the first with its fingerprint have fingerprints of their own. -/
theorem distinguished_of_find? {asked : List (List String)}
    (first : ∀ values ∈ asked,
      (asked.find? fun other => fingerprint other = fingerprint values) = some values) :
    Distinguished asked := by
  intro values member others there same
  have found := first values member
  rw [same, first others there, Option.some.injEq] at found
  exact found.symm

end Outbox.Counter
