import Outbox.Proofs.Store.Sessions

/-!
# Rows that have ended

A save looks at the status of a row when it stages a change, and the commit writes the change
without another look.  So a row that has ended is moved by one thing only: the commit of a
transaction that had saved the row while it was still pending.  What such a transaction saves after
the row has ended is passed over.
-/

set_option autoImplicit false

namespace Outbox

namespace Sessions

/-! ## Where updates come from -/

/-- A transaction saved the committed row of an id, which it had not created itself, while the row
was pending. -/
def SavedWhilePending (home : StoreId) (past : List Request) (number : Nat) (id : Uuid) : Prop :=
  ∃ before request after save messages tx row,
    past = before ++ request :: after ∧
    request.saved? = some (number, save, messages) ∧ id ∈ messages.map Message.id ∧
    (run home before).handles number = some tx ∧ tx.insert? id = none ∧
    (run home before).store.find? id = some row ∧ row.isPending = true

theorem SavedWhilePending.later {home : StoreId} {past : List Request} {number : Nat} {id : Uuid}
    (saved : SavedWhilePending home past number id) (next : Request) :
    SavedWhilePending home (past ++ [next]) number id := by
  obtain ⟨before, request, after, save, messages, tx, row, split, rest⟩ := saved
  exact ⟨before, request, after ++ [next], save, messages, tx, row, by simp [split], rest⟩

/-- Every update of an open transaction is for a row that it saved while the row was pending. -/
theorem savedWhilePending_of_update (home : StoreId) (past : List Request) :
    ∀ number tx, (run home past).handles number = some tx →
      ∀ id, (tx.update? id).isSome = true → SavedWhilePending home past number id := by
  induction past using List.reverseRecOn with
  | nil =>
      intro number tx opened
      cases opened
  | append_singleton past next ih =>
      intro number tx opened id updated
      rcases (run_change home past next).origin opened with
        kept | ⟨_, begun⟩ | ⟨old, message, old_opened, _, _, _, created⟩ |
        ⟨old, save, messages, old_opened, asked, saved⟩
      · exact (ih number tx kept id updated).later next
      · subst begun
        simp [Transaction.update?] at updated
      · subst created
        exact (ih number old old_opened id updated).later next
      · subst saved
        rcases (Store.update?_settleAll_isSome _ save old messages id).mp updated with
          earlier | ⟨named, foreign, row, found, pending⟩
        · exact (ih number old old_opened id earlier).later next
        · exact ⟨past, next, [], save, messages, old, row, rfl, asked, named, old_opened,
            foreign, found, pending⟩

/-- A transaction has an update for an id, or it has ended. -/
def UpdatedOrGone (sessions : Sessions) (number : Nat) (id : Uuid) : Prop :=
  number ≤ sessions.store.begun ∧
    ∀ tx, sessions.handles number = some tx → (tx.update? id).isSome = true

theorem UpdatedOrGone.change {sessions after : Sessions} {request : Request} {number : Nat}
    {id : Uuid} (updated : sessions.UpdatedOrGone number id)
    (change : Change sessions request after) : after.UpdatedOrGone number id := by
  refine ⟨Nat.le_trans updated.1 change.older.begun, ?_⟩
  intro tx opened
  rcases change.origin opened with
    kept | ⟨new, _⟩ | ⟨old, message, old_opened, _, _, _, created⟩ |
    ⟨old, save, messages, old_opened, _, saved⟩
  · exact updated.2 tx kept
  · have begun := updated.1
    omega
  · subst created
    exact updated.2 old old_opened
  · subst saved
    exact (Store.update?_settleAll_isSome _ save old messages id).mpr
      (Or.inl (updated.2 old old_opened))

/-- A row that a transaction saved while the row was pending has an update for as long as the
transaction is open. -/
theorem update_of_savedWhilePending {home : StoreId} {past : List Request} {number : Nat}
    {id : Uuid} (saved : SavedWhilePending home past number id) :
    (run home past).UpdatedOrGone number id := by
  obtain ⟨before, request, after, save, messages, tx, row, split, asked, named, opened, foreign,
    found, pending⟩ := saved
  subst split
  induction after using List.reverseRecOn with
  | nil =>
      obtain ⟨own, lawful⟩ := sound_run home before number tx opened
      rw [run_concat, step_saved (sound_run home before) asked opened]
      refine ⟨own ▸ lawful.number_le, ?_⟩
      intro settled settled_opened
      rcases handles_put settled_opened with ⟨_, rfl⟩ | ⟨other, _⟩
      · exact (Store.update?_settleAll_isSome _ save tx messages id).mpr
          (Or.inr ⟨named, foreign, row, found, pending⟩)
      · exact absurd rfl other
  | append_singleton after next ih =>
      have change := run_change home (before ++ request :: after) next
      rw [List.append_assoc, List.cons_append] at change
      exact ih.change change

/-! ## Rows after a commit -/

/-- A commit replaces a committed row exactly if the row is the first of its id and has an
update. -/
theorem getElem?_rows_installed {store : Store} {tx : Transaction} (lawful : tx.Lawful store)
    {position : Nat} {row : Message} (there : store.rows[position]? = some row) :
    (store.installed tx).rows[position]? =
      some (if (store.rows.findIdx fun other => other.id = row.id) = position then
        (tx.update? row.id).getD row else row) := by
  obtain ⟨inside, same⟩ := List.getElem?_eq_some_iff.mp there
  have member : row ∈ store.rows := List.mem_of_getElem? there
  have first_inside : (store.rows.findIdx fun other => other.id = row.id) < store.rows.length :=
    List.findIdx_lt_length_of_exists ⟨row, member, by simp⟩
  have first : ((store.rows ++ tx.inserts).findIdx fun other => other.id = row.id) =
      store.rows.findIdx fun other => other.id = row.id := by
    rw [List.findIdx_append, if_pos first_inside]
  simp only [Store.installed, Store.rows_release]
  rw [Transaction.getElem?_foldl_replace lawful.updates_distinct,
    List.getElem?_append_left inside, there]
  simp [first, Transaction.update?]

/-! ## The exact condition -/

/-- A committed row that has ended is moved by one kind of request only: the commit of a transaction
with another content as its update for the id of the row, the row being the first of its id.  A
transaction has an update for the id exactly if it saved the row while it was still pending: a save
after the end of the row adds none. -/
theorem ended_row_moves_iff (home : StoreId) (past : List Request) (request : Request)
    (position : Nat) (row : Message)
    (there : (run home past).store.rows[position]? = some row) (ended : row.isPending = false) :
    ((run home (past ++ [request])).store.rows[position]? ≠ some row ↔
      ∃ number tx update, request = .commit number ∧
        (run home past).handles number = some tx ∧
        tx.update? row.id = some update ∧ update ≠ row ∧
        ((run home past).store.rows.findIdx fun other => other.id = row.id) = position) ∧
    (∀ number tx, (run home past).handles number = some tx →
      ((tx.update? row.id).isSome = true ↔ SavedWhilePending home past number row.id)) ∧
    (∀ number tx save messages, (run home past).handles number = some tx →
      tx.update? row.id = none → (run home past).store.find? row.id = some row →
      ((run home past).store.settleAll save tx messages).update? row.id = none) := by
  have sound := sound_run home past
  refine ⟨⟨?_, ?_⟩, ?_, ?_⟩
  · intro moved
    have change := run_change home past request
    generalize run home (past ++ [request]) = after at change moved
    cases change with
    | @committed number tx opened =>
        simp only [leave, getElem?_rows_installed (sound number tx opened).2 there, ne_eq,
          Option.some.injEq] at moved
        by_cases first :
            ((run home past).store.rows.findIdx fun other => other.id = row.id) = position
        · rw [if_pos first] at moved
          cases updated : tx.update? row.id with
          | none => simp [updated] at moved
          | some update =>
              refine ⟨number, tx, update, rfl, opened, updated, ?_, first⟩
              simpa [updated] using moved
        · simp [first] at moved
    | _ => exact absurd there moved
  · rintro ⟨number, tx, update, rfl, opened, updated, different, first⟩
    rw [run_concat, step_commit sound opened]
    simp only [leave, getElem?_rows_installed (sound number tx opened).2 there, if_pos first,
      updated, Option.getD_some, ne_eq, Option.some.injEq]
    exact different
  · intro number tx opened
    exact ⟨savedWhilePending_of_update home past number tx opened row.id,
      fun saved => (update_of_savedWhilePending saved).2 tx opened⟩
  · intro number tx save messages opened unchanged found
    by_contra staged
    have updated := Option.isSome_iff_ne_none.mpr staged
    rcases (Store.update?_settleAll_isSome _ save tx messages row.id).mp updated with
      earlier | ⟨_, _, other, other_found, pending⟩
    · simp [unchanged] at earlier
    · rw [found, Option.some.injEq] at other_found
      rw [← other_found, ended] at pending
      exact Bool.false_ne_true pending

/-- Two transactions save one pending row, and the first of them commits it as processed. -/
def staleHistory : List Request :=
  [.begin, .create 1 .fruit, .commit 1, .begin, .begin,
    .saveProcessed 2 .epoch [.fruit], .saveFailed 3 [{ Message.fruit with retryCount := 1 }],
    .commit 2]

/-- The second commit makes the processed row pending again. -/
theorem staleHistory_revives_a_row :
    (run 0 staleHistory).store.rows = [Message.fruit.processed .epoch] ∧
    (run 0 (staleHistory ++ [.commit 3])).store.rows =
      [{ Message.fruit with retryCount := 1 }] := by
  constructor <;> rfl

theorem ended_row_moves_in_staleHistory :
    (run 0 staleHistory).store.rows[0]? = some (Message.fruit.processed .epoch) ∧
    (Message.fruit.processed .epoch).isPending = false ∧
    ∃ number tx update, Request.commit 3 = .commit number ∧
      (run 0 staleHistory).handles number = some tx ∧
      tx.update? (Message.fruit.processed .epoch).id = some update ∧
      update ≠ Message.fruit.processed .epoch := by
  have there : (run 0 staleHistory).store.rows[0]? = some (Message.fruit.processed .epoch) := by
    rfl
  have after : (run 0 (staleHistory ++ [.commit 3])).store.rows[0]? =
      some { Message.fruit with retryCount := 1 } := by
    rfl
  have moved : (run 0 (staleHistory ++ [.commit 3])).store.rows[0]? ≠
      some (Message.fruit.processed .epoch) := by
    rw [after]
    decide
  obtain ⟨number, tx, update, same, opened, updated, different, _⟩ :=
    (ended_row_moves_iff 0 staleHistory (.commit 3) 0 _ there (by rfl)).1.mp moved
  exact ⟨there, rfl, number, tx, update, same, opened, updated, different⟩

end Sessions

end Outbox
