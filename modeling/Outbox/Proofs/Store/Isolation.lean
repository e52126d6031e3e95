import Outbox.Proofs.Store.Commits
import Outbox.Proofs.Store.Erasure

/-!
# Isolation

What a transaction does is seen by others at its commit and not before, all at once.  One that has
claimed nothing and is rolled back or dropped might as well not have been: without it every other
request has the same reply, up to the numbers of transactions, and the same rows are shown at every
point.
-/

set_option autoImplicit false

namespace Outbox

/-- A reply to a request for a new row by which the row was taken. -/
def Reply.accepts : Reply → Bool
  | .done => true
  | .enqueued _ => true
  | _ => false

namespace Sessions

/-! ## New rows in the order of their creation -/

/-- The id of the row that a request creates in a transaction. -/
def createdId? (sessions : Sessions) (number : Nat) (request : Request) : Option Uuid :=
  match request.created? with
  | some (owner, message) =>
    if owner = number ∧ (sessions.step request).2.accepts then some message.id else none
  | none => none

def createdFrom (number : Nat) : Sessions → List Request → List Uuid
  | _, [] => []
  | sessions, request :: rest =>
    (sessions.createdId? number request).toList ++ createdFrom number (sessions.step request).1 rest

/-- The ids of the rows that a history creates in a transaction, in the order of their creation. -/
def createdIds (home : StoreId) (number : Nat) (history : List Request) : List Uuid :=
  createdFrom number (empty home) history

theorem createdFrom_append (number : Nat) (sessions : Sessions) (past future : List Request) :
    createdFrom number sessions (past ++ future) =
      createdFrom number sessions past ++ createdFrom number (sessions.play past) future := by
  induction past generalizing sessions with
  | nil => rfl
  | cons request rest ih =>
      rw [List.cons_append, createdFrom, createdFrom, ih, List.append_assoc]
      rfl

theorem createdIds_concat (home : StoreId) (number : Nat) (past : List Request)
    (request : Request) :
    createdIds home number (past ++ [request]) =
      createdIds home number past ++ ((run home past).createdId? number request).toList := by
  rw [createdIds, createdFrom_append]
  simp [createdFrom, createdIds, run]

theorem step_created {sessions : Sessions} (sound : sessions.Sound) {request : Request}
    {owner : Nat} {message : Message} (asked : request.created? = some (owner, message)) :
    (∃ tx, sessions.handles owner = some tx ∧
      (sessions.step request).1 =
        sessions.put owner { tx with inserts := tx.inserts ++ [message] } ∧
      (sessions.step request).2.accepts = true) ∨
    ((sessions.step request).1 = sessions ∧ (sessions.step request).2.accepts = false) := by
  cases request with
  | create number created =>
      cases asked
      cases opened : sessions.handles owner with
      | none =>
          simp only [step, on_of_closed opened]
          exact Or.inr ⟨trivial, rfl⟩
      | some tx =>
          simp only [step, on_of_open opened]
          rcases create_cases (sound _ _ opened).2.owned message with
            ⟨_, _, result⟩ | ⟨_, result⟩
          · rw [result]
            exact Or.inl ⟨tx, rfl, rfl, rfl⟩
          · rw [result]
            exact Or.inr ⟨rfl, rfl⟩
  | enqueue number id now topic submission =>
      simp only [Request.created?] at asked
      split at asked
      · rename_i accepted_message accepted
        cases asked
        cases opened : sessions.handles owner with
        | none =>
            simp only [step, on_of_closed opened]
            exact Or.inr ⟨trivial, rfl⟩
        | some tx =>
            simp only [step, on_of_open opened, Store.enqueue, accepted]
            rcases create_cases (sound _ _ opened).2.owned message with
              ⟨_, _, result⟩ | ⟨_, result⟩
            · rw [result]
              exact Or.inl ⟨tx, rfl, rfl, rfl⟩
            · rw [result]
              exact Or.inr ⟨rfl, rfl⟩
      · cases asked
  | _ => cases asked

theorem createdIds_of_unbegun (home : StoreId) (past : List Request) {number : Nat}
    (unbegun : (run home past).store.begun < number) : createdIds home number past = [] := by
  induction past using List.reverseRecOn with
  | nil => rfl
  | append_singleton past request ih =>
      have sound := sound_run home past
      have earlier : (run home past).store.begun < number :=
        Nat.lt_of_le_of_lt (run_change home past request).older.begun unbegun
      rw [createdIds_concat, ih earlier, List.nil_append, createdId?]
      cases asked : request.created? with
      | none => rfl
      | some created =>
          obtain ⟨owner, message⟩ := created
          rcases step_created sound asked with ⟨tx, opened, _⟩ | ⟨_, refused⟩
          · obtain ⟨own, lawful⟩ := sound owner tx opened
            have bounded := lawful.number_le
            have different : owner ≠ number := by omega
            simp [different]
          · simp [refused]

/-- The new rows of an open transaction stand in the order of their creation. -/
theorem insertIds_eq_createdIds (home : StoreId) (past : List Request) :
    ∀ number tx, (run home past).handles number = some tx →
      tx.inserts.map Message.id = createdIds home number past := by
  induction past using List.reverseRecOn with
  | nil =>
      intro number tx opened
      cases opened
  | append_singleton past request ih =>
      intro number tx opened
      have sound := sound_run home past
      rw [createdIds_concat, createdId?]
      cases asked : request.created? with
      | none =>
          rw [Option.toList_none, List.append_nil]
          rcases (run_change home past request).origin opened with
            kept | ⟨next, begun⟩ | ⟨old, message, _, created, _⟩ |
            ⟨old, save, messages, was, _, saved⟩
          · exact ih number tx kept
          · rw [begun, createdIds_of_unbegun home past (by omega)]
            rfl
          · rw [asked] at created
            cases created
          · rw [saved, Store.insertIds_settleAll]
            exact ih number old was
      | some created =>
          obtain ⟨owner, message⟩ := created
          rw [run_concat] at opened
          rcases step_created sound asked with ⟨old, was, result, accepted⟩ | ⟨result, refused⟩
          · rw [result] at opened
            rcases handles_put opened with ⟨same, changed⟩ | ⟨other, kept⟩
            · subst same
              rw [changed, List.map_append, ih number old was]
              simp [accepted]
            · rw [ih number tx kept]
              simp [Ne.symm other]
          · rw [result] at opened
            rw [ih number tx opened]
            simp [refused]

/-! ## Isolated transactions -/

/-- A history in which the requests of one transaction may be left out.  All others have the same
replies without them, and the same rows are shown at every point. -/
structure Erasable (home : StoreId) (history : List Request) (gone : Nat) : Prop where
  rows : ∀ past future, history = past ++ future →
    (run home (without gone past)).store.rows = (run home past).store.rows
  replies : ∀ past request future, history = past ++ request :: future →
    request.belongsTo gone (run home past).store.begun = false →
    without gone (past ++ [request]) = without gone past ++ [request.renumbered gone] ∧
    ((run home (without gone past)).step (request.renumbered gone)).2 =
      ((run home past).step request).2.renumbered gone

theorem erasable_of_unclaiming (home : StoreId) (history : List Request) {gone : Nat}
    (begins : 0 < gone) (unfetched : ∀ limit, .fetch gone limit ∉ history)
    (uncommitted : .commit gone ∉ history) : Erasable home history gone where
  rows := by
    rintro past future rfl
    have twin := twin_run home begins past
      (fun limit member => unfetched limit (List.mem_append_left _ member))
      (fun member => uncommitted (List.mem_append_left _ member))
    rw [twin.store]
    rfl
  replies := by
    rintro past request future rfl other
    have twin := twin_run home begins past
      (fun limit member => unfetched limit (List.mem_append_left _ member))
      (fun member => uncommitted (List.mem_append_left _ member))
    refine ⟨?_, (twin.step (sound_run home past) begins other).2⟩
    rw [without_concat home, other]
    rfl

structure Isolated (home : StoreId) (history : List Request) : Prop where
  /-- Only a commit changes what the store shows. -/
  shown : ∀ request, (∀ number, request ≠ .commit number) →
    (run home (history ++ [request])).store.rows = (run home history).store.rows ∧
    (∀ id, (run home (history ++ [request])).store.find? id = (run home history).store.find? id) ∧
    (run home (history ++ [request])).store.size = (run home history).store.size
  /-- A commit installs everything at once that the transaction has staged. -/
  installed : ∀ number tx, (run home history).handles number = some tx →
    ((run home history).step (.commit number)).2 = .done ∧
    (run home history).store.Installs tx (run home (history ++ [.commit number])).store
  created : ∀ number tx, (run home history).handles number = some tx →
    tx.inserts.map Message.id = createdIds home number history
  /-- In which order a commit goes through the updates makes no difference. -/
  unordered : ∀ number tx, (run home history).handles number = some tx →
    ∀ updates : List Message, updates.Perm tx.updates →
      (run home history).store.commit { tx with updates } = (run home history).store.commit tx
  /-- A transaction that never fetches and never commits may be left out. -/
  erasable : ∀ number, 0 < number → (∀ limit, .fetch number limit ∉ history) →
    .commit number ∉ history → Erasable home history number
  /-- To drop a transaction is to roll it back. -/
  dropped : ∀ number,
    (run home history).step (.drop number) = (run home history).step (.rollback number)

/-- In every interleaving of the operations of any number of transactions each of them is
isolated. -/
theorem transactions_are_isolated (home : StoreId) (history : List Request) :
    Isolated home history where
  shown := by
    intro request uncommitted
    have same : (run home (history ++ [request])).store.rows = (run home history).store.rows := by
      have change := run_change home history request
      generalize run home (history ++ [request]) = after at change
      cases change with
      | committed opened => exact absurd rfl (uncommitted _)
      | _ => rfl
    exact ⟨same, fun id => by rw [Store.find?, same, Store.find?],
      by rw [Store.size, same, Store.size]⟩
  installed := by
    intro number tx opened
    have sound := sound_run home history
    rw [run_concat, step_commit sound opened]
    exact ⟨rfl, Store.installs_installed (sound number tx opened).2⟩
  created := insertIds_eq_createdIds home history
  unordered := by
    intro number tx opened updates perm
    exact Store.commit_of_perm (sound_run home history number tx opened).2 perm
  erasable := fun number begins unfetched uncommitted =>
    erasable_of_unclaiming home history begins unfetched uncommitted
  dropped := by
    intro number
    cases opened : (run home history).handles number with
    | none => simp only [step, on_of_closed opened]
    | some tx =>
        have owned := (sound_run home history number tx opened).2.owned
        simp only [step, on_of_open opened, Store.rollback_eq owned, Store.drop_eq owned]
        rfl

def draftHistory : List Request :=
  [.begin, .begin, .create 1 .fruit, .create 2 .fruit, .drop 1, .commit 2]

/-- The dropped transaction may be left out, and the row of the other one is shown all the same. -/
theorem draftHistory_without_its_draft :
    without 1 draftHistory = [.begin, .create 1 .fruit, .commit 1] ∧
    Erasable 0 draftHistory 1 ∧
    (run 0 [.begin, .create 1 .fruit, .commit 1]).store.rows = (run 0 draftHistory).store.rows := by
  have left : without 1 draftHistory = [.begin, .create 1 .fruit, .commit 1] := by rfl
  have erasable : Erasable 0 draftHistory 1 := by
    apply (transactions_are_isolated 0 draftHistory).erasable 1 (by decide)
    · simp [draftHistory]
    · simp [draftHistory]
  have same := erasable.rows draftHistory [] (by simp)
  rw [left] at same
  exact ⟨left, erasable, same⟩

end Sessions

end Outbox
