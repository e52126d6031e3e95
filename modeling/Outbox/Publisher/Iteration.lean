import Outbox.Message.Event
import Outbox.Metrics.Increment
import Outbox.Store.Call

/-!
# Iterations

One iteration of a publisher: in one transaction it claims a batch of pending rows, publishes them
one after the other, saves what became of them and commits.  An error of the store ends the
iteration with a rollback.

An iteration stands between two calls to its surroundings.  `perform` makes its next call to the
store, which may be answered by an injected error instead, and `answer` takes the result of a
publication.  So every interleaving of iterations, transactions, errors and abandoned iterations is
a sequence of these steps.
-/

set_option autoImplicit false

namespace Outbox.Publisher

open Time (Instant)

/-- What an iteration did. -/
structure Report where
  /-- Rows that were claimed. -/
  fetched : Nat := 0
  /-- Rows that were published. -/
  processed : Nat := 0
  /-- Rows whose publication failed and will be tried again. -/
  retried : Nat := 0
  /-- Rows whose publication failed for the last time. -/
  failed : Nat := 0
  deriving DecidableEq, Repr

/-- The attempts that an iteration has made. -/
structure Attempts where
  /-- Rows that were claimed. -/
  fetched : Nat
  /-- Rows that were published, in this order. -/
  published : List Message := []
  /-- Rows whose publication failed, with the failure recorded, in this order. -/
  refused : List Message := []
  deriving DecidableEq

/-- The report of the attempts. -/
def Attempts.report (attempts : Attempts) : Report where
  fetched := attempts.fetched
  processed := attempts.published.length
  retried := attempts.refused.countP fun message => message.status != .failed
  failed := attempts.refused.countP fun message => message.status == .failed

/-- An iteration, by the call that it makes next. -/
inductive Iteration where
  /-- Begins the transaction. -/
  | starting
  /-- Claims a batch. -/
  | fetching (tx : Transaction)
  /-- Publishes `message`; the rows of `waiting` come after it. -/
  | publishing (tx : Transaction) (attempts : Attempts) (message : Message)
      (waiting : List Message)
  /-- Saves the rows that were published. -/
  | savingProcessed (tx : Transaction) (attempts : Attempts)
  /-- Saves the rows whose publication failed. -/
  | savingFailed (tx : Transaction) (attempts : Attempts)
  | committing (tx : Transaction) (report : Report)
  /-- Rolls back because of an error. -/
  | undoing (tx : Transaction) (error : Error)
  | ended (result : Except Error Report)

/-- What an iteration does next. -/
inductive Action where
  /-- Calls the store. -/
  | call (call : Call)
  /-- Sends an event to the bus. -/
  | publish (topic : String) (event : Bytes)
  /-- Nothing: it has ended. -/
  | stop (result : Except Error Report)

namespace Iteration

/-- The iteration before its rows that still wait. -/
def publishNext (tx : Transaction) (attempts : Attempts) : List Message → Iteration
  | message :: waiting => .publishing tx attempts message waiting
  | [] =>
    if !attempts.published.isEmpty then .savingProcessed tx attempts
    else if !attempts.refused.isEmpty then .savingFailed tx attempts
    else .committing tx attempts.report

/-- The iteration after the published rows were saved. -/
def afterProcessed (tx : Transaction) (attempts : Attempts) : Iteration :=
  if !attempts.refused.isEmpty then .savingFailed tx attempts
  else .committing tx attempts.report

/-- What an iteration does next.  A claim is for at most `batchSize` rows. -/
def action (batchSize : Nat) : Iteration → Action
  | .starting => .call ⟨.begin, none⟩
  | .fetching _ => .call ⟨.fetch, some batchSize⟩
  | .publishing _ _ message _ => .publish message.topic (Event.ofMessage message).encode
  | .savingProcessed _ attempts => .call ⟨.saveProcessed, some attempts.published.length⟩
  | .savingFailed _ attempts => .call ⟨.saveFailed, some attempts.refused.length⟩
  | .committing _ _ => .call ⟨.commit, none⟩
  | .undoing _ _ => .call ⟨.rollback, none⟩
  | .ended result => .stop result

/-- The open transaction of an iteration. -/
def transaction? : Iteration → Option Transaction
  | .starting => none
  | .fetching tx => some tx
  | .publishing tx _ _ _ => some tx
  | .savingProcessed tx _ => some tx
  | .savingFailed tx _ => some tx
  | .committing tx _ => some tx
  | .undoing tx _ => some tx
  | .ended _ => none

/-- Makes the next call to the store.  An injected error is the answer of a call that did not take
place; the handle of a failed commit or rollback is dropped. -/
def perform (batchSize : Nat) (now : Instant) (injected : Option Error) (store : Store) :
    Iteration → Iteration × Store
  | .starting =>
    match injected with
    | some error => (.ended (.error error), store)
    | none =>
      let (tx, store) := store.begin
      (.fetching tx, store)
  | .fetching tx =>
    match injected with
    | some error => (.undoing tx error, store)
    | none =>
      match store.fetch tx batchSize with
      | .error error => (.undoing tx error, store)
      | .ok (batch, store) => (publishNext tx { fetched := batch.length } batch, store)
  | .savingProcessed tx attempts =>
    match injected with
    | some error => (.undoing tx error, store)
    | none =>
      match store.saveProcessed tx now attempts.published with
      | .error error => (.undoing tx error, store)
      | .ok tx => (afterProcessed tx attempts, store)
  | .savingFailed tx attempts =>
    match injected with
    | some error => (.undoing tx error, store)
    | none =>
      match store.saveFailed tx attempts.refused with
      | .error error => (.undoing tx error, store)
      | .ok tx => (.committing tx attempts.report, store)
  | .committing tx report =>
    match injected with
    | some error => (.ended (.error error), store.drop tx)
    | none =>
      match store.commit tx with
      | .error error => (.ended (.error error), store.drop tx)
      | .ok store => (.ended (.ok report), store)
  | .undoing tx error =>
    match injected with
    | some _ => (.ended (.error error), store.drop tx)
    | none =>
      match store.rollback tx with
      | .error _ => (.ended (.error error), store.drop tx)
      | .ok store => (.ended (.error error), store)
  | .publishing tx attempts message waiting => (.publishing tx attempts message waiting, store)
  | .ended result => (.ended result, store)

/-- Takes the result of a publication, and tells what is to be counted. -/
def answer (result : Except Error Unit) : Iteration → Iteration × List Increment
  | .publishing tx attempts message waiting =>
    match result with
    | .ok () =>
      (publishNext tx { attempts with published := attempts.published ++ [message] } waiting,
        [.published])
    | .error error =>
      match message.recordFailure error.message with
      | .error error => (.undoing tx error, [])
      | .ok message =>
        (publishNext tx { attempts with refused := attempts.refused ++ [message] } waiting,
          [.publisherError, .failed])
  | iteration => (iteration, [])

/-- The store after an iteration is abandoned: its transaction ends as if dropped. -/
def abandon (iteration : Iteration) (store : Store) : Store :=
  match iteration.transaction? with
  | some tx => store.drop tx
  | none => store

/-! ## Every step comes nearer to the end -/

/-- How far an iteration is from its end: the stage, and within a stage the rows that wait. -/
def rank : Iteration → Nat × Nat
  | .starting => (6, 0)
  | .fetching _ => (5, 0)
  | .publishing _ _ _ waiting => (4, waiting.length)
  | .savingProcessed _ _ => (3, 0)
  | .savingFailed _ _ => (2, 0)
  | .committing _ _ => (1, 0)
  | .undoing _ _ => (1, 0)
  | .ended _ => (0, 0)

/-- One iteration is nearer to its end than another. -/
def Nearer (a b : Iteration) : Prop :=
  Prod.Lex (· < ·) (· < ·) a.rank b.rank

theorem nearer_of_stage {a b : Iteration} (less : a.rank.1 < b.rank.1) : a.Nearer b :=
  Prod.Lex.left _ _ less

theorem stage_publishNext_le (tx : Transaction) (attempts : Attempts) (waiting : List Message) :
    (publishNext tx attempts waiting).rank.1 ≤ 4 := by
  unfold publishNext
  split
  · simp [rank]
  · split
    · simp [rank]
    · split <;> simp [rank]

theorem stage_afterProcessed_le (tx : Transaction) (attempts : Attempts) :
    (afterProcessed tx attempts).rank.1 ≤ 2 := by
  unfold afterProcessed
  split <;> simp [rank]

theorem publishNext_nearer (tx other : Transaction) (attempts earlier : Attempts)
    (message : Message) (waiting : List Message) :
    (publishNext tx attempts waiting).Nearer (.publishing other earlier message waiting) := by
  cases waiting with
  | nil =>
    apply nearer_of_stage
    simp only [publishNext]
    split
    · simp [rank]
    · split <;> simp [rank]
  | cons next rest => exact Prod.Lex.right _ (Nat.lt_succ_self rest.length)

/-- A call to the store brings an iteration nearer to its end. -/
theorem perform_nearer {batchSize : Nat} {iteration : Iteration} {call : Call}
    (calls : iteration.action batchSize = .call call) (now : Instant) (injected : Option Error)
    (store : Store) : (iteration.perform batchSize now injected store).1.Nearer iteration := by
  apply nearer_of_stage
  cases iteration with
  | starting => cases injected <;> simp [perform, rank]
  | fetching tx =>
    cases injected with
    | some error => simp [perform, rank]
    | none =>
      simp only [perform]
      split
      · simp [rank]
      · exact Nat.lt_of_le_of_lt (stage_publishNext_le _ _ _) (by simp [rank])
  | savingProcessed tx attempts =>
    cases injected with
    | some error => simp [perform, rank]
    | none =>
      simp only [perform]
      split
      · simp [rank]
      · exact Nat.lt_of_le_of_lt (stage_afterProcessed_le _ _) (by simp [rank])
  | savingFailed tx attempts =>
    cases injected with
    | some error => simp [perform, rank]
    | none =>
      simp only [perform]
      split <;> simp [rank]
  | committing tx report =>
    cases injected with
    | some error => simp [perform, rank]
    | none =>
      simp only [perform]
      split <;> simp [rank]
  | undoing tx error =>
    cases injected with
    | some other => simp [perform, rank]
    | none =>
      simp only [perform]
      split <;> simp [rank]
  | publishing tx attempts message waiting => simp [action] at calls
  | ended result => simp [action] at calls

/-- The result of a publication brings an iteration nearer to its end. -/
theorem answer_nearer {batchSize : Nat} {iteration : Iteration} {topic : String} {event : Bytes}
    (publishes : iteration.action batchSize = .publish topic event) (result : Except Error Unit) :
    (iteration.answer result).1.Nearer iteration := by
  cases iteration with
  | publishing tx attempts message waiting =>
    cases result with
    | ok done => exact publishNext_nearer _ _ _ _ _ _
    | error error =>
      simp only [answer]
      split
      · exact nearer_of_stage (by simp [rank])
      · exact publishNext_nearer _ _ _ _ _ _
  | _ => simp [action] at publishes

end Iteration

end Outbox.Publisher
