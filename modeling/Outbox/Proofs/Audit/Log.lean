import Mathlib.Data.List.Induction
import Mathlib.Data.List.Nodup
import Outbox.Audit.Subscriber
import Outbox.Proofs.Envelope

/-!
# What the event log keeps

A log that has saved a list of entries keeps the first entry of each id, and nothing else.  The
handler of an event that was encoded accepts it, whether or not the log has an entry of it.
-/

set_option autoImplicit false

namespace Outbox.Audit

namespace Log

/-! ## Saving one entry -/

def Distinct (log : Log) : Prop :=
  (log.saved.map Entry.id).Nodup

theorem get?_spec {log : Log} {id : Uuid} {entry : Entry} (found : log.get? id = some entry) :
    entry ∈ log.saved ∧ entry.id = id :=
  ⟨List.mem_of_find?_eq_some found, by simpa using List.find?_some found⟩

theorem mem_ids_iff {log : Log} {id : Uuid} :
    id ∈ log.saved.map Entry.id ↔ (log.get? id).isSome = true := by
  simp [get?, List.find?_isSome]

theorem get?_save (log : Log) (entry : Entry) (id : Uuid) :
    (log.save entry).2.get? id =
      (log.get? id).or (if entry.id = id then some entry else none) := by
  unfold save
  cases found : log.get? entry.id with
  | some earlier =>
      by_cases same : entry.id = id
      · subst same
        simp [found]
      · simp [same]
  | none =>
      by_cases same : entry.id = id
      · simp [get?, List.find?_append, same]
      · simp [get?, List.find?_append, same]

theorem Distinct.save {log : Log} (distinct : log.Distinct) (entry : Entry) :
    (log.save entry).2.Distinct := by
  unfold Log.save
  cases found : log.get? entry.id with
  | some earlier => exact distinct
  | none =>
      have new : entry.id ∉ log.saved.map Entry.id := by
        rw [mem_ids_iff, found]
        simp
      have extended := List.Nodup.concat new distinct
      simpa [Distinct] using extended

/-- In a log with distinct ids every entry is the one that is found under its id. -/
theorem Distinct.get? {log : Log} (distinct : log.Distinct) {entry : Entry}
    (member : entry ∈ log.saved) : log.get? entry.id = some entry := by
  obtain ⟨other, found⟩ := Option.isSome_iff_exists.mp
    (mem_ids_iff.mp (List.mem_map_of_mem member))
  obtain ⟨there, same⟩ := get?_spec found
  rw [found, List.inj_on_of_nodup_map distinct there member same]

/-! ## Saving many -/

def saveAll (log : Log) (entries : List Entry) : Log :=
  entries.foldl (fun log entry => (log.save entry).2) log

theorem saveAll_concat (log : Log) (entries : List Entry) (entry : Entry) :
    log.saveAll (entries ++ [entry]) = ((log.saveAll entries).save entry).2 := by
  simp [saveAll]

theorem Distinct.saveAll {log : Log} (distinct : log.Distinct) (entries : List Entry) :
    (log.saveAll entries).Distinct := by
  induction entries using List.reverseRecOn with
  | nil => exact distinct
  | append_singleton before entry ih =>
      rw [saveAll_concat]
      exact ih.save entry

/-- What the log had first stays; else the first entry with the id does. -/
theorem get?_saveAll (log : Log) (entries : List Entry) (id : Uuid) :
    (log.saveAll entries).get? id =
      (log.get? id).or (entries.find? fun entry => entry.id = id) := by
  induction entries using List.reverseRecOn with
  | nil => simp [saveAll]
  | append_singleton before entry ih =>
      rw [saveAll_concat, get?_save, ih, List.find?_append, Option.or_assoc,
        List.find?_singleton]
      simp only [decide_eq_true_eq]

/-- The ids of a fresh log are those of the entries that were saved. -/
theorem mem_ids_saveAll {entries : List Entry} {id : Uuid} :
    id ∈ (saveAll {} entries).saved.map Entry.id ↔ id ∈ entries.map Entry.id := by
  rw [mem_ids_iff, get?_saveAll]
  simp [get?, List.find?_isSome]

theorem mem_of_mem_saveAll {entries : List Entry} {entry : Entry}
    (member : entry ∈ (saveAll {} entries).saved) : entry ∈ entries := by
  have fresh : Distinct {} := List.nodup_nil
  have found := (fresh.saveAll entries).get? member
  rw [get?_saveAll] at found
  exact List.mem_of_find?_eq_some found

end Log

/-! ## Handling -/

/-- Where entries can be saved the handler accepts every event that was encoded. -/
theorem handle_encode (log : Log) (event : Event) :
    (handle (fun _ => none) log event.encode).refusal = none ∧
    (handle (fun _ => none) log event.encode).log = (log.save (Entry.ofEvent event)).2 := by
  rw [handle, event.decode_encode]
  dsimp only
  rcases log.save (Entry.ofEvent event) with ⟨recorded | recorded, after⟩
  · exact ⟨rfl, rfl⟩
  · exact ⟨rfl, rfl⟩

end Outbox.Audit
