import Outbox.Proofs.Store.Sessions

/-!
# Ids that are given once

If no id is given to two new rows, a new row that is not yet committed has an id that is neither
committed nor that of a new row of another open transaction.
-/

set_option autoImplicit false

namespace Outbox

def Request.issued? (request : Request) : Option Uuid :=
  request.created?.map fun created => created.2.id

/-- The ids that a history gives to new rows. -/
def issuedIds (requests : List Request) : List Uuid :=
  requests.filterMap Request.issued?

theorem issuedIds_concat (past : List Request) (request : Request) :
    issuedIds (past ++ [request]) = issuedIds past ++ request.issued?.toList := by
  rw [issuedIds, List.filterMap_append, List.filterMap_cons]
  cases request.issued? <;> rfl

namespace Sessions

structure Issued (issued : List Uuid) (sessions : Sessions) : Prop where
  distinct : (sessions.store.rows.map Message.id).Nodup
  rows_issued : ∀ id ∈ sessions.store.rows.map Message.id, id ∈ issued
  new : ∀ number tx, sessions.handles number = some tx → ∀ id ∈ tx.inserts.map Message.id,
    id ∈ issued ∧ id ∉ sessions.store.rows.map Message.id
  apart : ∀ number other tx otherTx, sessions.handles number = some tx →
    sessions.handles other = some otherTx → number ≠ other →
    ∀ id ∈ tx.inserts.map Message.id, id ∉ otherTx.inserts.map Message.id

theorem issued_empty (home : StoreId) : Issued [] (empty home) where
  distinct := List.nodup_nil
  rows_issued := by simp [empty]
  new := by
    intro number tx opened
    cases opened
  apart := by
    intro number other tx otherTx opened
    cases opened

/-- Ids of new rows after a change are from the same transaction before it, or were given by the
request. -/
theorem Change.insertId_origin {sessions after : Sessions} {request : Request}
    (change : Change sessions request after) {number : Nat} {tx : Transaction}
    (opened : after.handles number = some tx) {id : Uuid}
    (inserted : id ∈ tx.inserts.map Message.id) :
    (∃ old, sessions.handles number = some old ∧ id ∈ old.inserts.map Message.id) ∨
    (request.issued? = some id ∧ id ∉ sessions.store.rows.map Message.id ∧
      ∃ message, request.created? = some (number, message)) := by
  rcases change.origin opened with
    kept | ⟨_, begun⟩ | ⟨old, message, old_opened, asked, uncommitted, _, created⟩ |
    ⟨old, save, messages, old_opened, _, saved⟩
  · exact Or.inl ⟨tx, kept, inserted⟩
  · subst begun
    cases inserted
  · subst created
    rw [List.map_append, List.mem_append] at inserted
    rcases inserted with earlier | now
    · exact Or.inl ⟨old, old_opened, earlier⟩
    · have same : id = message.id := by simpa using now
      subst same
      refine Or.inr ⟨by simp [Request.issued?, asked], ?_, message, asked⟩
      exact (find?_id_eq_none _ _).mp uncommitted
  · subst saved
    rw [Store.insertIds_settleAll] at inserted
    exact Or.inl ⟨old, old_opened, inserted⟩

/-- What is committed after a change was committed before, or was a new row of the transaction that
the request commits. -/
theorem Change.rowId_origin {sessions after : Sessions} {request : Request}
    (change : Change sessions request after) {id : Uuid}
    (committed : id ∈ after.store.rows.map Message.id) :
    id ∈ sessions.store.rows.map Message.id ∨
    ∃ number tx, request = .commit number ∧ sessions.handles number = some tx ∧
      id ∈ tx.inserts.map Message.id := by
  cases change with
  | @committed number tx opened =>
      simp only [leave, Store.map_id_rows_installed, List.mem_append] at committed
      rcases committed with earlier | inserted
      · exact Or.inl earlier
      · exact Or.inr ⟨number, tx, rfl, opened, inserted⟩
  | _ => exact Or.inl committed

theorem Change.closed_of_commit {sessions after : Sessions} {number : Nat}
    (change : Change sessions (.commit number) after) {id : Uuid}
    (uncommitted : id ∉ sessions.store.rows.map Message.id)
    (committed : id ∈ after.store.rows.map Message.id) : after.handles number = none := by
  cases change with
  | nothing => exact absurd committed uncommitted
  | created asked => cases asked
  | saved asked => cases asked
  | committed opened => simp [leave]
  | ended asked => cases asked

theorem Change.issued {sessions after : Sessions} {request : Request}
    (change : Change sessions request after) (sound : sessions.Sound) {issued : List Uuid}
    (known : Issued issued sessions) (fresh : ∀ id, request.issued? = some id → id ∉ issued) :
    Issued (issued ++ request.issued?.toList) after where
  distinct := by
    cases change with
    | @committed number tx opened =>
        simp only [leave, Store.map_id_rows_installed, List.nodup_append']
        refine ⟨known.distinct, (sound number tx opened).2.inserts_distinct, ?_⟩
        intro id committed inserted
        exact (known.new number tx opened id inserted).2 committed
    | _ => exact known.distinct
  rows_issued := by
    intro id committed
    rw [List.mem_append]
    rcases change.rowId_origin committed with earlier | ⟨number, tx, _, opened, inserted⟩
    · exact Or.inl (known.rows_issued id earlier)
    · exact Or.inl (known.new number tx opened id inserted).1
  new := by
    intro number tx opened id inserted
    rw [List.mem_append]
    rcases change.insertId_origin opened inserted with
      ⟨old, old_opened, earlier⟩ | ⟨given, uncommitted, message, asked⟩
    · obtain ⟨was_given, was_uncommitted⟩ := known.new number old old_opened id earlier
      refine ⟨Or.inl was_given, ?_⟩
      intro committed
      rcases change.rowId_origin committed with there | ⟨other, otherTx, rfl, other_opened, again⟩
      · exact was_uncommitted there
      · by_cases same : number = other
        · subst same
          rw [change.closed_of_commit was_uncommitted committed] at opened
          cases opened
        · exact known.apart number other old otherTx old_opened other_opened same id earlier again
    · refine ⟨Or.inr (by simp [given]), ?_⟩
      intro committed
      rcases change.rowId_origin committed with there | ⟨other, otherTx, rfl, _⟩
      · exact uncommitted there
      · cases asked
  apart := by
    intro number other tx otherTx opened other_opened different id inserted again
    rcases change.insertId_origin opened inserted with
      ⟨old, old_opened, earlier⟩ | ⟨given, _, message, asked⟩
    · rcases change.insertId_origin other_opened again with
        ⟨otherOld, otherOld_opened, other_earlier⟩ | ⟨given, _⟩
      · exact known.apart number other old otherOld old_opened otherOld_opened different id earlier
          other_earlier
      · exact fresh id given (known.new number old old_opened id earlier).1
    · rcases change.insertId_origin other_opened again with
        ⟨otherOld, otherOld_opened, other_earlier⟩ | ⟨_, _, otherMessage, other_asked⟩
      · exact fresh id given (known.new other otherOld otherOld_opened id other_earlier).1
      · rw [asked, Option.some.injEq, Prod.mk.injEq] at other_asked
        exact different other_asked.1

theorem issued_run (home : StoreId) (requests : List Request)
    (fresh : (issuedIds requests).Nodup) : Issued (issuedIds requests) (run home requests) := by
  induction requests using List.reverseRecOn with
  | nil => exact issued_empty home
  | append_singleton past request ih =>
      rw [issuedIds_concat] at fresh ⊢
      obtain ⟨earlier, _, apart⟩ := List.nodup_append'.mp fresh
      apply (run_change home past request).issued (sound_run home past) (ih earlier)
      intro id given known
      exact apart known (by simp [given])

end Sessions

end Outbox
