import Outbox.Proofs.Store.EndedRows

/-!
# What a commit shows

Only a commit changes the committed rows.  It keeps every row at its place, replaces each row that
the transaction has an update for, and appends the new rows of the transaction in the order in which
they were created.  In which order it goes through the updates makes no difference.
-/

set_option autoImplicit false

namespace Outbox

/-! ## The order of updates -/

theorem find?_id_of_perm {messages others : List Message} (perm : messages.Perm others)
    (distinct : (messages.map Message.id).Nodup) (id : Uuid) :
    (messages.find? fun message => message.id = id) =
      others.find? fun message => message.id = id := by
  have other_distinct : (others.map Message.id).Nodup := (perm.map Message.id).nodup_iff.mp distinct
  cases found : messages.find? fun message => message.id = id with
  | none =>
      rw [find?_id_eq_none] at found
      symm
      rw [find?_id_eq_none]
      intro member
      exact found ((perm.map Message.id).mem_iff.mpr member)
  | some message =>
      obtain ⟨member, rfl⟩ := find?_id_spec found
      exact (find?_id_of_mem other_distinct (perm.mem_iff.mp member)).symm

theorem Store.commit_of_perm {store : Store} {tx : Transaction} (lawful : tx.Lawful store)
    {updates : List Message} (perm : updates.Perm tx.updates) :
    store.commit { tx with updates } = store.commit tx := by
  have distinct : (updates.map Message.id).Nodup :=
    (perm.map Message.id).nodup_iff.mpr lawful.updates_distinct
  have same_rows : updates.foldl (fun rows update => Transaction.replace update rows)
      (store.rows ++ tx.inserts) =
      tx.updates.foldl (fun rows update => Transaction.replace update rows)
        (store.rows ++ tx.inserts) := by
    apply List.ext_getElem?
    intro position
    rw [Transaction.getElem?_foldl_replace distinct,
      Transaction.getElem?_foldl_replace lawful.updates_distinct]
    congr 1
    funext row
    rw [find?_id_of_perm perm distinct]
  have owned : store.owns { tx with updates } = true := lawful.owned
  rw [Store.commit_eq lawful.owned, Store.commit_eq owned]
  simp only [Store.installed, same_rows]

/-! ## Rows after a commit -/

theorem find?_foldl_replace {updates : List Message}
    (distinct : (updates.map Message.id).Nodup) (rows : List Message) (id : Uuid) :
    ((updates.foldl (fun rows update => Transaction.replace update rows) rows).find?
        fun row => row.id = id) =
      (rows.find? fun row => row.id = id).map fun row =>
        (updates.find? fun update => update.id = id).getD row := by
  induction updates generalizing rows with
  | nil => simp
  | cons update rest ih =>
      simp only [List.map_cons, List.nodup_cons] at distinct
      rw [List.foldl_cons, ih distinct.2, Transaction.find?_replace]
      by_cases same : update.id = id
      · subst same
        have unmatched : (rest.find? fun other => other.id = update.id) = none :=
          (find?_id_eq_none rest update.id).mpr distinct.1
        simp [unmatched, Function.comp_def]
      · simp [same]

/-- What is in a store after the commit of a transaction. -/
structure Store.Installs (store : Store) (tx : Transaction) (after : Store) : Prop where
  ids : after.rows.map Message.id = store.rows.map Message.id ++ tx.inserts.map Message.id
  appended : after.rows.drop store.rows.length = tx.inserts
  updated : ∀ update ∈ tx.updates, after.find? update.id = some update
  kept : ∀ (position : Nat) (row : Message), store.rows[position]? = some row →
    tx.update? row.id = none →
    after.rows[position]? = some row

theorem Store.getElem?_installed_appended {store : Store} {tx : Transaction}
    (lawful : tx.Lawful store) (position : Nat) :
    (store.installed tx).rows[store.rows.length + position]? = tx.inserts[position]? := by
  simp only [Store.installed, Store.rows_release]
  rw [Transaction.getElem?_foldl_replace lawful.updates_distinct,
    List.getElem?_append_right (Nat.le_add_right _ _), Nat.add_sub_cancel_left]
  cases there : tx.inserts[position]? with
  | none => rfl
  | some row =>
      simp only [Option.map_some, Option.some.injEq, ite_eq_right_iff]
      intro first
      -- The update would be for a committed row, and that one stands before the new rows.
      cases updated : tx.updates.find? fun update => update.id = row.id with
      | none => rfl
      | some update =>
          have committed := lawful.updates_committed row.id (Option.isSome_of_eq_some updated)
          obtain ⟨other, member, same⟩ := List.mem_map.mp committed
          have before : (store.rows.findIdx fun other => other.id = row.id) < store.rows.length :=
            List.findIdx_lt_length_of_exists ⟨other, member, by simp [same]⟩
          rw [List.findIdx_append, if_pos before] at first
          omega

theorem Store.installs_installed {store : Store} {tx : Transaction} (lawful : tx.Lawful store) :
    store.Installs tx (store.installed tx) where
  ids := store.map_id_rows_installed tx
  appended := by
    apply List.ext_getElem?
    intro position
    rw [List.getElem?_drop, getElem?_installed_appended lawful]
  updated := by
    intro update member
    have found : tx.update? update.id = some update :=
      find?_id_of_mem lawful.updates_distinct member
    have committed := lawful.updates_committed update.id (Option.isSome_of_eq_some found)
    obtain ⟨row, there⟩ := Option.isSome_iff_exists.mp ((find?_id_isSome _ _).mpr committed)
    simp only [find?, installed, rows_release]
    rw [find?_foldl_replace lawful.updates_distinct, List.find?_append, there]
    rw [Transaction.update?] at found
    simp [found]
  kept := by
    intro position row there unchanged
    rw [Sessions.getElem?_rows_installed lawful there, unchanged]
    simp

end Outbox
