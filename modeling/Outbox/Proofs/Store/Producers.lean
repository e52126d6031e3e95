import Outbox.Proofs.Store.Issued

/-!
# Producers

A producer uses the store in one way only: it begins a transaction, hands submissions to the service
and ends the transaction.  As long as no id is given twice, what producers have created and not yet
committed consists of new rows whose ids nobody else has, and a commit appends them as they are.
-/

set_option autoImplicit false

namespace Outbox

structure Message.IsNew (message : Message) : Prop where
  status : message.status = .pending
  retryCount : message.retryCount = 0
  maxRetries : message.maxRetries = Message.defaultMaxRetries

namespace Request

def isProducer : Request → Bool
  | .begin => true
  | .enqueue _ _ _ _ _ => true
  | .commit _ => true
  | .rollback _ => true
  | .drop _ => true
  | _ => false

theorem isNew_of_created {request : Request} (producer : request.isProducer = true)
    {number : Nat} {message : Message} (created : request.created? = some (number, message)) :
    message.IsNew := by
  cases request with
  | enqueue other id now topic submission =>
      simp only [created?, Submission.accept] at created
      cases checked : submission.validate with
      | error error => simp [checked] at created
      | ok done =>
          simp only [checked, Option.some.injEq, Prod.mk.injEq] at created
          obtain ⟨_, rfl⟩ := created
          exact ⟨rfl, rfl, rfl⟩
  | create => cases producer
  | _ => cases created

end Request

namespace Sessions

/-- What holds while only producers use the handles and no id is given twice. -/
structure Producing (issued : List Uuid) (sessions : Sessions) : Prop where
  distinct : (sessions.store.rows.map Message.id).Nodup
  rows_issued : ∀ id ∈ sessions.store.rows.map Message.id, id ∈ issued
  no_updates : ∀ number tx, sessions.handles number = some tx → tx.updates = []
  new : ∀ number tx, sessions.handles number = some tx → ∀ message ∈ tx.inserts,
    message.IsNew ∧ message.id ∈ issued ∧ message.id ∉ sessions.store.rows.map Message.id
  apart : ∀ number other tx otherTx, sessions.handles number = some tx →
    sessions.handles other = some otherTx → number ≠ other →
    ∀ message ∈ tx.inserts, message.id ∉ otherTx.inserts.map Message.id

theorem producing_empty (home : StoreId) : Producing [] (empty home) where
  distinct := List.nodup_nil
  rows_issued := by simp [empty]
  no_updates := by
    intro number tx opened
    cases opened
  new := by
    intro number tx opened
    cases opened
  apart := by
    intro number other tx otherTx opened
    cases opened

theorem Producing.more {issued more : List Uuid} {sessions : Sessions}
    (producing : Producing issued sessions) (subset : issued ⊆ more) :
    Producing more sessions where
  distinct := producing.distinct
  rows_issued := fun id member => subset (producing.rows_issued id member)
  no_updates := producing.no_updates
  new := by
    intro number tx opened message member
    obtain ⟨is_new, given, uncommitted⟩ := producing.new number tx opened message member
    exact ⟨is_new, subset given, uncommitted⟩
  apart := producing.apart

theorem Producing.congr {issued : List Uuid} {sessions after : Sessions}
    (producing : Producing issued sessions) (handles : after.handles = sessions.handles)
    (ids : after.store.rows.map Message.id = sessions.store.rows.map Message.id) :
    Producing issued after where
  distinct := ids ▸ producing.distinct
  rows_issued := ids ▸ producing.rows_issued
  no_updates := handles ▸ producing.no_updates
  new := by
    rw [handles, ids]
    exact producing.new
  apart := handles ▸ producing.apart

theorem Producing.known {issued : List Uuid} {sessions : Sessions}
    (producing : Producing issued sessions) : Issued issued sessions where
  distinct := producing.distinct
  rows_issued := producing.rows_issued
  new := by
    intro number tx opened id inserted
    obtain ⟨message, member, rfl⟩ := List.mem_map.mp inserted
    exact (producing.new number tx opened message member).2
  apart := by
    intro number other tx otherTx opened other_opened different id inserted
    obtain ⟨message, member, rfl⟩ := List.mem_map.mp inserted
    exact producing.apart number other tx otherTx opened other_opened different message member

theorem Producing.rows_installed {issued : List Uuid} {sessions : Sessions}
    (producing : Producing issued sessions) {number : Nat} {tx : Transaction}
    (opened : sessions.handles number = some tx) :
    (sessions.store.installed tx).rows = sessions.store.rows ++ tx.inserts := by
  simp [Store.installed, producing.no_updates number tx opened]

/-- A producer stages nothing but new rows as they were created. -/
theorem Change.staged_by_producer {sessions after : Sessions} {request : Request}
    (change : Change sessions request after) (producer : request.isProducer = true)
    (no_updates : ∀ number tx, sessions.handles number = some tx → tx.updates = [])
    (new : ∀ number tx, sessions.handles number = some tx → ∀ message ∈ tx.inserts, message.IsNew)
    {number : Nat} {tx : Transaction} (opened : after.handles number = some tx) :
    tx.updates = [] ∧ ∀ message ∈ tx.inserts, message.IsNew := by
  rcases change.origin opened with
    kept | ⟨_, begun⟩ | ⟨old, message, old_opened, asked, _, _, created⟩ |
    ⟨old, save, messages, old_opened, asked, _⟩
  · exact ⟨no_updates number tx kept, new number tx kept⟩
  · subst begun
    exact ⟨rfl, by simp⟩
  · subst created
    refine ⟨no_updates number old old_opened, ?_⟩
    intro other member
    rcases List.mem_append.mp member with earlier | now
    · exact new number old old_opened other earlier
    · rw [List.mem_singleton] at now
      subst now
      exact Request.isNew_of_created producer asked
  · cases request with
    | saveProcessed => cases producer
    | saveFailed => cases producer
    | _ => cases asked

/-- The request of a producer gives away one id at most, and keeps to its own ids. -/
theorem Change.producing {sessions after : Sessions} {request : Request}
    (change : Change sessions request after) (sound : sessions.Sound) {issued : List Uuid}
    (producing : Producing issued sessions) (producer : request.isProducer = true)
    (fresh : ∀ id, request.issued? = some id → id ∉ issued) :
    Producing (issued ++ request.issued?.toList) after := by
  have known := change.issued sound producing.known fresh
  have staged (number : Nat) (tx : Transaction) (opened : after.handles number = some tx) :=
    change.staged_by_producer producer producing.no_updates
      (fun number tx opened message member => (producing.new number tx opened message member).1)
      opened
  refine ⟨known.distinct, known.rows_issued, fun number tx opened => (staged number tx opened).1,
    ?_, ?_⟩
  · intro number tx opened message member
    exact ⟨(staged number tx opened).2 message member,
      known.new number tx opened message.id (List.mem_map_of_mem member)⟩
  · intro number other tx otherTx opened other_opened different message member
    exact known.apart number other tx otherTx opened other_opened different message.id
      (List.mem_map_of_mem member)

end Sessions

end Outbox
