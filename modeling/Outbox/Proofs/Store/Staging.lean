import Mathlib.Data.List.Nodup
import Outbox.Store.Basic

/-!
# Replaced rows and staged changes

What a commit makes of a list of rows, and what a save makes of the transaction that it is called
on.  Among rows of distinct ids every update finds its row; where an id occurs twice, the update
reaches the first row of that id only.  Both saves are one operation: a message is staged if the row
that the transaction sees under its id is pending, and passed over otherwise.
-/

set_option autoImplicit false

namespace Outbox

open Time (Instant)

/-! ## Looking messages up by id -/

theorem find?_id_spec {messages : List Message} {id : Uuid} {message : Message}
    (found : (messages.find? fun other => other.id = id) = some message) :
    message ∈ messages ∧ message.id = id := by
  refine ⟨List.mem_of_find?_eq_some found, ?_⟩
  simpa using List.find?_some found

theorem find?_id_isSome (messages : List Message) (id : Uuid) :
    (messages.find? fun other => other.id = id).isSome = true ↔ id ∈ messages.map Message.id := by
  simp [List.mem_map]

theorem find?_id_eq_none (messages : List Message) (id : Uuid) :
    (messages.find? fun other => other.id = id) = none ↔ id ∉ messages.map Message.id := by
  simp [List.mem_map]

theorem find?_id_of_mem {messages : List Message} {message : Message}
    (distinct : (messages.map Message.id).Nodup) (member : message ∈ messages) :
    (messages.find? fun other => other.id = message.id) = some message := by
  induction messages with
  | nil => simp at member
  | cons first rest ih =>
      simp only [List.map_cons, List.nodup_cons] at distinct
      rcases List.mem_cons.mp member with same | later
      · subst same
        simp
      · have different : first.id ≠ message.id := by
          intro same
          exact distinct.1 (same ▸ List.mem_map_of_mem later)
        rw [List.find?_cons_of_neg (by simpa using different)]
        exact ih distinct.2 later

theorem filter_ids_of_sublist {part rows : List Message} (sublist : part.Sublist rows)
    (distinct : (rows.map Message.id).Nodup) :
    (rows.filter fun row => row.id ∈ part.map Message.id) = part := by
  induction sublist with
  | slnil => rfl
  | @cons part rest row sublist ih =>
      rw [List.map_cons, List.nodup_cons] at distinct
      have absent : row.id ∉ part.map Message.id := by
        intro there
        exact distinct.1 ((sublist.map Message.id).subset there)
      rw [List.filter_cons_of_neg (by simpa using absent), ih distinct.2]
  | @cons_cons part rest row sublist ih =>
      rw [List.map_cons, List.nodup_cons] at distinct
      rw [List.filter_cons_of_pos (by simp)]
      have others : (rest.filter fun other => other.id ∈ (row :: part).map Message.id) =
          rest.filter fun other => other.id ∈ part.map Message.id := by
        apply List.filter_congr
        intro other member
        have different : other.id ≠ row.id := by
          intro same
          exact distinct.1 (same ▸ List.mem_map_of_mem member)
        simp [different]
      rw [others, ih distinct.2]

theorem findIdx_id_of_nodup {rows : List Message} {position : Nat} {row : Message}
    (distinct : (rows.map Message.id).Nodup) (at_position : rows[position]? = some row) :
    (rows.findIdx fun other => other.id = row.id) = position := by
  obtain ⟨inside, same⟩ := List.getElem?_eq_some_iff.mp at_position
  rw [List.findIdx_eq inside]
  refine ⟨by simp [same], ?_⟩
  intro earlier before
  have earlier_inside : earlier < rows.length := Nat.lt_trans before inside
  have different := List.nodup_iff_getElem?_ne_getElem?.mp distinct earlier position before
    (by simpa using inside)
  simp only [List.getElem?_map, at_position, Option.map_some,
    List.getElem?_eq_getElem earlier_inside] at different
  simpa using different

namespace Transaction

/-! ## Replaced rows -/

@[simp] theorem map_id_replace (message : Message) (rows : List Message) :
    (replace message rows).map Message.id = rows.map Message.id := by
  induction rows with
  | nil => rfl
  | cons row rest ih =>
      by_cases same : row.id = message.id
      · simp [replace, same]
      · simp [replace, same, ih]

theorem replace_eq_set (message : Message) (rows : List Message) :
    replace message rows = rows.set (rows.findIdx fun row => row.id = message.id) message := by
  induction rows with
  | nil => rfl
  | cons row rest ih =>
      by_cases same : row.id = message.id
      · simp [replace, List.findIdx_cons, same]
      · simp [replace, List.findIdx_cons, same, ih]

/-- The position of the first row of an id depends on the ids only. -/
theorem findIdx_id_congr {rows others : List Message}
    (ids : rows.map Message.id = others.map Message.id) (id : Uuid) :
    (rows.findIdx fun row => row.id = id) = others.findIdx fun row => row.id = id := by
  have through (list : List Message) :
      (list.findIdx fun row => row.id = id) = (list.map Message.id).findIdx (· = id) := by
    rw [List.findIdx_map]
    rfl
  rw [through rows, through others, ids]

theorem find?_replace (message : Message) (rows : List Message) (id : Uuid) :
    ((replace message rows).find? fun row => row.id = id) =
      if message.id = id then (rows.find? fun row => row.id = id).map fun _ => message
      else rows.find? fun row => row.id = id := by
  induction rows with
  | nil => simp [replace]
  | cons row rest ih =>
      by_cases same : row.id = message.id
      · by_cases wanted : message.id = id
        · simp [replace, same, wanted]
        · simp [replace, same, wanted]
      · by_cases wanted : message.id = id
        · subst wanted
          simp only [replace, same, if_false, List.find?_cons, decide_false]
          simpa using ih
        · simp only [wanted, if_false] at ih ⊢
          simp only [replace, same, if_false, List.find?_cons]
          rw [ih]

theorem map_id_foldl_replace (updates rows : List Message) :
    (updates.foldl (fun rows update => replace update rows) rows).map Message.id =
      rows.map Message.id := by
  induction updates generalizing rows with
  | nil => rfl
  | cons update rest ih => simp [ih]

/-- After all updates of a commit a row is replaced exactly if it is the first of its id and there
is an update for that id. -/
theorem getElem?_foldl_replace {updates : List Message}
    (distinct : (updates.map Message.id).Nodup) (rows : List Message) (position : Nat) :
    (updates.foldl (fun rows update => replace update rows) rows)[position]? =
      rows[position]?.map fun row =>
        if (rows.findIdx fun other => other.id = row.id) = position then
          (updates.find? fun update => update.id = row.id).getD row
        else row := by
  induction updates generalizing rows with
  | nil => simp
  | cons update rest ih =>
      simp only [List.map_cons, List.nodup_cons] at distinct
      rw [List.foldl_cons, ih distinct.2]
      simp only [findIdx_id_congr (map_id_replace update rows)]
      cases here : rows[position]? with
      | none =>
          have outside : (replace update rows)[position]? = none := by
            rw [replace_eq_set]
            simpa using here
          rw [outside]
          rfl
      | some row =>
          obtain ⟨inside, same_row⟩ := List.getElem?_eq_some_iff.mp here
          by_cases first : (rows.findIdx fun other => other.id = update.id) = position
          · -- The update reaches this row, and no later update has its id.
            have row_id : row.id = update.id := by
              have reached := (List.findIdx_eq inside).mp first
              simpa [same_row] using reached.1
            have replaced : (replace update rows)[position]? = some update := by
              rw [replace_eq_set, first]
              simp [inside]
            have unmatched : (rest.find? fun other => other.id = update.id) = none :=
              (find?_id_eq_none rest update.id).mpr distinct.1
            simp [replaced, row_id, first, unmatched]
          · have kept : (replace update rows)[position]? = some row := by
              rw [replace_eq_set, List.getElem?_set_ne first, here]
            rw [kept]
            simp only [Option.map_some, Option.some.injEq]
            by_cases own : (rows.findIdx fun other => other.id = row.id) = position
            · have different : update.id ≠ row.id := by
                intro same
                exact first (same ▸ own)
              simp [own, different]
            · simp [own]

/-- Among rows of distinct ids a commit replaces each row that has an update. -/
theorem foldl_replace_eq_map {updates rows : List Message}
    (distinct : (updates.map Message.id).Nodup) (unique : (rows.map Message.id).Nodup) :
    updates.foldl (fun rows update => replace update rows) rows =
      rows.map fun row => (updates.find? fun update => update.id = row.id).getD row := by
  apply List.ext_getElem?
  intro position
  rw [getElem?_foldl_replace distinct, List.getElem?_map]
  cases here : rows[position]? with
  | none => rfl
  | some row => simp [findIdx_id_of_nodup unique here]

/-! ## Staged changes -/

@[simp] theorem home_stage (tx : Transaction) (message : Message) :
    (tx.stage message).home = tx.home := by
  unfold stage
  split
  · rfl
  · split <;> rfl

@[simp] theorem number_stage (tx : Transaction) (message : Message) :
    (tx.stage message).number = tx.number := by
  unfold stage
  split
  · rfl
  · split <;> rfl

@[simp] theorem insertIds_stage (tx : Transaction) (message : Message) :
    (tx.stage message).inserts.map Message.id = tx.inserts.map Message.id := by
  unfold stage
  split
  · simp
  · split <;> rfl

theorem inserts_stage {tx : Transaction} {message : Message}
    (foreign : tx.insert? message.id = none) : (tx.stage message).inserts = tx.inserts := by
  unfold stage
  rw [foreign]
  simp only [Option.isSome_none, Bool.false_eq_true, if_false]
  split <;> rfl

/-- A change of a row that the transaction has not created itself becomes the update of its id. -/
theorem update?_stage {tx : Transaction} {message : Message}
    (foreign : tx.insert? message.id = none) (id : Uuid) :
    (tx.stage message).update? id = if message.id = id then some message else tx.update? id := by
  unfold stage
  rw [foreign]
  simp only [Option.isSome_none, Bool.false_eq_true, if_false]
  by_cases known : (tx.update? message.id).isSome
  · rw [if_pos known]
    simp only [update?] at known ⊢
    rw [find?_replace]
    by_cases same : message.id = id
    · subst same
      obtain ⟨old, found⟩ := Option.isSome_iff_exists.mp known
      simp [found]
    · simp [same]
  · rw [if_neg known]
    simp only [update?, Bool.not_eq_true, Option.isSome_eq_false_iff, Option.isNone_iff_eq_none]
      at known ⊢
    rw [List.find?_append]
    by_cases same : message.id = id
    · subst same
      simp [known]
    · simp [same]

theorem updates_stage_own {tx : Transaction} {message : Message}
    (own : (tx.insert? message.id).isSome) : (tx.stage message).updates = tx.updates := by
  simp [stage, own]

theorem updateIds_stage_nodup {tx : Transaction} (distinct : (tx.updates.map Message.id).Nodup)
    (message : Message) : ((tx.stage message).updates.map Message.id).Nodup := by
  unfold stage
  split
  · exact distinct
  · split
    · simpa using distinct
    · rename_i unknown
      have absent : message.id ∉ tx.updates.map Message.id := by
        rw [← find?_id_isSome]
        exact unknown
      simp only [List.map_append, List.map_cons, List.map_nil]
      have extended := distinct.concat absent
      simpa using extended

end Transaction

/-! ## Both saves as one -/

def Message.processed (message : Message) (moment : Instant) : Message :=
  { message with status := .processed, processedAt := some moment }

theorem Message.markProcessed_of_pending {message : Message} (pending : message.isPending = true)
    (moment : Instant) : message.markProcessed moment = .ok (message.processed moment) := by
  simp [Message.markProcessed, Message.processed, pending]

inductive Save where
  /-- The rows of the messages were published at a moment. -/
  | processed (moment : Instant)
  /-- The rows of the messages are replaced by the messages. -/
  | failed

/-- What a save makes of a row and the message of its id. -/
def Save.revise : Save → Message → Message → Message
  | .processed moment, row, _ => row.processed moment
  | .failed, _, message => message

theorem Save.id_revise (save : Save) {row message : Message} (same : row.id = message.id) :
    (save.revise row message).id = message.id := by
  cases save with
  | processed moment => exact same
  | failed => rfl

namespace Store

theorem id_of_current? {store : Store} {tx : Transaction} {id : Uuid} {row : Message}
    (seen : store.current? tx id = some row) : row.id = id := by
  unfold current? at seen
  cases own : tx.insert? id with
  | some message =>
      simp only [own, Option.some.injEq] at seen
      subst seen
      exact (find?_id_spec own).2
  | none =>
      cases changed : tx.update? id with
      | some message =>
          simp only [own, changed, Option.some.injEq] at seen
          subst seen
          exact (find?_id_spec changed).2
      | none =>
          simp only [own, changed] at seen
          exact (find?_id_spec seen).2

theorem current?_of_unchanged {store : Store} {tx : Transaction} {id : Uuid}
    (foreign : tx.insert? id = none) (unchanged : tx.update? id = none) :
    store.current? tx id = store.find? id := by
  simp [current?, foreign, unchanged]

/-- Saves one message: a pending row is revised, any other is passed over. -/
def settle (store : Store) (save : Save) (tx : Transaction) (message : Message) : Transaction :=
  match store.current? tx message.id with
  | some row => if row.isPending then tx.stage (save.revise row message) else tx
  | none => tx

def settleAll (store : Store) (save : Save) (tx : Transaction) (messages : List Message) :
    Transaction :=
  messages.foldl (store.settle save) tx

theorem markProcessed_eq_settle (store : Store) (now : Instant) (tx : Transaction)
    (message : Message) :
    store.markProcessed now tx message = .ok (store.settle (.processed now) tx message) := by
  unfold markProcessed settle
  cases seen : store.current? tx message.id with
  | none => rfl
  | some row =>
      by_cases pending : row.isPending = true
      · simp [pending, Message.markProcessed_of_pending pending, Except.map, Save.revise]
      · simp [pending]

theorem saveProcessed_eq {store : Store} {tx : Transaction} (owned : store.owns tx = true)
    (now : Instant) (messages : List Message) :
    store.saveProcessed tx now messages = .ok (store.settleAll (.processed now) tx messages) := by
  unfold saveProcessed
  rw [if_pos owned]
  clear owned
  induction messages generalizing tx with
  | nil => rfl
  | cons message rest ih =>
      rw [List.foldlM_cons, markProcessed_eq_settle]
      exact ih

theorem saveFailed_eq {store : Store} {tx : Transaction} (owned : store.owns tx = true)
    (messages : List Message) :
    store.saveFailed tx messages = .ok (store.settleAll .failed tx messages) := by
  unfold saveFailed
  rw [if_pos owned]
  rfl

theorem settle_cases (store : Store) (save : Save) (tx : Transaction) (message : Message) :
    (∃ row, store.current? tx message.id = some row ∧ row.isPending = true ∧
      (save.revise row message).id = message.id ∧
      store.settle save tx message = tx.stage (save.revise row message)) ∨
    ((∀ row, store.current? tx message.id = some row → row.isPending = false) ∧
      store.settle save tx message = tx) := by
  unfold settle
  cases seen : store.current? tx message.id with
  | none => exact Or.inr ⟨by simp, rfl⟩
  | some row =>
      by_cases pending : row.isPending = true
      · refine Or.inl ⟨row, rfl, pending, save.id_revise (id_of_current? seen), ?_⟩
        simp [pending]
      · refine Or.inr ⟨?_, by simp [pending]⟩
        intro other same
        cases same
        simpa using pending

section Frame
variable (store : Store) (save : Save)

@[simp] theorem home_settle (tx : Transaction) (message : Message) :
    (store.settle save tx message).home = tx.home := by
  rcases store.settle_cases save tx message with ⟨row, _, _, _, result⟩ | ⟨_, result⟩ <;>
    simp [result]

@[simp] theorem number_settle (tx : Transaction) (message : Message) :
    (store.settle save tx message).number = tx.number := by
  rcases store.settle_cases save tx message with ⟨row, _, _, _, result⟩ | ⟨_, result⟩ <;>
    simp [result]

@[simp] theorem insertIds_settle (tx : Transaction) (message : Message) :
    (store.settle save tx message).inserts.map Message.id = tx.inserts.map Message.id := by
  rcases store.settle_cases save tx message with ⟨row, _, _, _, result⟩ | ⟨_, result⟩ <;>
    simp [result]

theorem updateIds_settle_nodup {tx : Transaction} (distinct : (tx.updates.map Message.id).Nodup)
    (message : Message) : ((store.settle save tx message).updates.map Message.id).Nodup := by
  rcases store.settle_cases save tx message with ⟨row, _, _, _, result⟩ | ⟨_, result⟩
  · rw [result]
    exact Transaction.updateIds_stage_nodup distinct _
  · rw [result]
    exact distinct

@[simp] theorem home_settleAll (tx : Transaction) (messages : List Message) :
    (store.settleAll save tx messages).home = tx.home := by
  unfold settleAll
  induction messages generalizing tx with
  | nil => rfl
  | cons message rest ih => simp [ih]

@[simp] theorem number_settleAll (tx : Transaction) (messages : List Message) :
    (store.settleAll save tx messages).number = tx.number := by
  unfold settleAll
  induction messages generalizing tx with
  | nil => rfl
  | cons message rest ih => simp [ih]

@[simp] theorem insertIds_settleAll (tx : Transaction) (messages : List Message) :
    (store.settleAll save tx messages).inserts.map Message.id = tx.inserts.map Message.id := by
  unfold settleAll
  induction messages generalizing tx with
  | nil => rfl
  | cons message rest ih => simp [ih]

theorem inserts_settleAll {tx : Transaction} (no_inserts : tx.inserts = [])
    (messages : List Message) : (store.settleAll save tx messages).inserts = [] := by
  have ids := store.insertIds_settleAll save tx messages
  rw [no_inserts] at ids
  exact List.map_eq_nil_iff.mp ids

theorem updateIds_settleAll_nodup {tx : Transaction}
    (distinct : (tx.updates.map Message.id).Nodup) (messages : List Message) :
    ((store.settleAll save tx messages).updates.map Message.id).Nodup := by
  unfold settleAll
  induction messages generalizing tx with
  | nil => exact distinct
  | cons message rest ih => exact ih (updateIds_settle_nodup store save distinct message)

end Frame

/-! ## Which ids have an update after a save -/

theorem insert?_isNone_congr {tx other : Transaction}
    (ids : tx.inserts.map Message.id = other.inserts.map Message.id) (id : Uuid) :
    tx.insert? id = none ↔ other.insert? id = none := by
  unfold Transaction.insert?
  rw [find?_id_eq_none, find?_id_eq_none, ids]

/-- A message is saved for the first time if its row is committed and pending and was not created
by the transaction itself. -/
theorem update?_settle_isSome (store : Store) (save : Save) (tx : Transaction) (message : Message)
    (id : Uuid) :
    ((store.settle save tx message).update? id).isSome = true ↔
      (tx.update? id).isSome = true ∨
        (message.id = id ∧ tx.insert? id = none ∧
          ∃ row, store.find? id = some row ∧ row.isPending = true) := by
  rcases store.settle_cases save tx message with
    ⟨row, seen, pending, revised_id, result⟩ | ⟨unseen, result⟩
  · rw [result]
    by_cases own : (tx.insert? message.id).isSome
    · -- An own new row is changed in place.
      have updates_kept : ((tx.stage (save.revise row message)).update? id) = tx.update? id := by
        simp [Transaction.update?, Transaction.updates_stage_own (revised_id.symm ▸ own)]
      rw [updates_kept]
      constructor
      · exact Or.inl
      · rintro (there | ⟨rfl, foreign, _⟩)
        · exact there
        · simp [foreign] at own
    · have foreign : tx.insert? message.id = none := by simpa using own
      rw [Transaction.update?_stage (by rw [revised_id]; exact foreign), revised_id]
      by_cases same : message.id = id
      · subst same
        simp only [if_true, Option.isSome_some, true_iff]
        cases changed : tx.update? message.id with
        | some update => exact Or.inl rfl
        | none =>
            rw [current?_of_unchanged foreign changed] at seen
            exact Or.inr ⟨trivial, foreign, row, seen, pending⟩
      · simp [same]
  · rw [result]
    constructor
    · exact Or.inl
    · rintro (there | ⟨rfl, foreign, row, found, pending⟩)
      · exact there
      · cases changed : tx.update? message.id with
        | some update => rfl
        | none =>
            rw [current?_of_unchanged foreign changed] at unseen
            simp [unseen row found] at pending

theorem update?_settleAll_isSome (store : Store) (save : Save) (tx : Transaction)
    (messages : List Message) (id : Uuid) :
    ((store.settleAll save tx messages).update? id).isSome = true ↔
      (tx.update? id).isSome = true ∨
        (id ∈ messages.map Message.id ∧ tx.insert? id = none ∧
          ∃ row, store.find? id = some row ∧ row.isPending = true) := by
  induction messages generalizing tx with
  | nil => simp [settleAll]
  | cons message rest ih =>
      have step := ih (store.settle save tx message)
      rw [update?_settle_isSome,
        insert?_isNone_congr (insertIds_settle store save tx message)] at step
      simp only [settleAll, List.foldl_cons, List.map_cons, List.mem_cons] at step ⊢
      rw [step, or_assoc, ← or_and_right, eq_comm (a := message.id)]

/-! ## What the updates are after a save of claimed rows -/

/-- A save of messages with distinct ids, whose rows are committed and pending and not yet changed
by the transaction, stages the revision of each row and nothing else. -/
theorem update?_settleAll {store : Store} (save : Save) {tx : Transaction}
    {messages : List Message} (without_inserts : tx.inserts = [])
    (distinct : (messages.map Message.id).Nodup)
    (unchanged : ∀ message ∈ messages, tx.update? message.id = none)
    (committed : ∀ message ∈ messages, ∃ row, store.find? message.id = some row ∧
      row.isPending = true) (id : Uuid) :
    (store.settleAll save tx messages).inserts = [] ∧
    (store.settleAll save tx messages).update? id =
      match messages.find? fun message => message.id = id with
      | some message => (store.find? id).map fun row => save.revise row message
      | none => tx.update? id := by
  induction messages generalizing tx with
  | nil => exact ⟨without_inserts, rfl⟩
  | cons message rest ih =>
      simp only [List.map_cons, List.nodup_cons] at distinct
      have foreign (other : Uuid) : tx.insert? other = none := by
        simp [Transaction.insert?, without_inserts]
      obtain ⟨row, found, pending⟩ := committed message (List.mem_cons_self ..)
      have seen : store.current? tx message.id = some row := by
        rw [current?_of_unchanged (foreign _) (unchanged message (List.mem_cons_self ..)), found]
      have revised_id := save.id_revise (id_of_current? seen)
      have settled : store.settle save tx message = tx.stage (save.revise row message) := by
        simp [settle, seen, pending]
      have staged (other : Uuid) : (tx.stage (save.revise row message)).update? other =
          if message.id = other then some (save.revise row message) else tx.update? other := by
        rw [Transaction.update?_stage (foreign _), revised_id]
      have later := @ih (tx.stage (save.revise row message))
        (by rw [Transaction.inserts_stage (foreign _)]; exact without_inserts) distinct.2
        (by
          intro other member
          have different : message.id ≠ other.id := by
            intro same
            exact distinct.1 (same ▸ List.mem_map_of_mem member)
          rw [staged, if_neg different]
          exact unchanged other (List.mem_cons_of_mem _ member))
        (fun other member => committed other (List.mem_cons_of_mem _ member))
      simp only [settleAll, List.foldl_cons, settled] at later ⊢
      refine ⟨later.1, ?_⟩
      rw [later.2, staged]
      by_cases same : message.id = id
      · subst same
        have unmatched : (rest.find? fun other => other.id = message.id) = none :=
          (find?_id_eq_none rest message.id).mpr distinct.1
        simp [unmatched, found]
      · simp [same]

end Store

end Outbox
