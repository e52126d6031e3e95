import Outbox.Proofs.Store.Sessions
import Outbox.Publisher.Iteration

/-!
# Calls of an iteration

What one call to the store does to an iteration and to the store, with and without an injected
error, and what an answer of the bus does to an iteration.  The transaction of an iteration is the
same from its beginning to its end.
-/

set_option autoImplicit false

namespace Outbox.Message

def refused (message : Message) (reason : String) : Message :=
  { message with
    retryCount := message.retryCount + 1
    lastError := reason
    status := if message.maxRetries ≤ message.retryCount + 1 then .failed else message.status }

theorem recordFailure_of_pending {message : Message} (pending : message.isPending = true)
    (reason : String) : message.recordFailure reason = .ok (message.refused reason) := by
  simp [recordFailure, refused, pending]

end Outbox.Message

namespace Outbox.Publisher.Iteration

open Time (Instant)

/-! ## Views of an iteration -/

/-- Rows that were claimed and not yet tried, the current one first. -/
def untried : Iteration → List Message
  | .publishing _ _ message waiting => message :: waiting
  | _ => []

/-- The transaction of an iteration whose next call is neither a begin nor an end. -/
def working? : Iteration → Option Transaction
  | .fetching tx => some tx
  | .savingProcessed tx _ => some tx
  | .savingFailed tx _ => some tx
  | _ => none

/-- The iteration is past its fetch. -/
def hasFetched : Iteration → Bool
  | .starting => false
  | .fetching _ => false
  | _ => true

def error? : Iteration → Option Error
  | .undoing _ error => some error
  | .ended (.error error) => some error
  | _ => none

theorem transaction?_of_working? {iteration : Iteration} {tx : Transaction}
    (working : iteration.working? = some tx) : iteration.transaction? = some tx := by
  cases iteration with
  | fetching own => exact working
  | savingProcessed own attempts => exact working
  | savingFailed own attempts => exact working
  | _ => simp [working?] at working

theorem ended_of_stop {iteration : Iteration} {batchSize : Nat} {result : Except Error Report}
    (stops : iteration.action batchSize = .stop result) : iteration = .ended result := by
  cases iteration with
  | ended own => exact congrArg Iteration.ended (Action.stop.inj stops)
  | _ => cases stops

/-! ## Before the rows that wait -/

theorem publishNext_cases (tx : Transaction) (attempts : Attempts) (waiting : List Message) :
    (∃ message rest, waiting = message :: rest ∧
      publishNext tx attempts waiting = .publishing tx attempts message rest) ∨
    (waiting = [] ∧ publishNext tx attempts waiting = .savingProcessed tx attempts) ∨
    (waiting = [] ∧ attempts.published = [] ∧
      publishNext tx attempts waiting = .savingFailed tx attempts) ∨
    (waiting = [] ∧ attempts.published = [] ∧ attempts.refused = [] ∧
      publishNext tx attempts waiting = .committing tx attempts.report) := by
  cases waiting with
  | cons message rest => exact Or.inl ⟨message, rest, rfl, rfl⟩
  | nil =>
      refine Or.inr ?_
      by_cases none_published : attempts.published = []
      · by_cases none_refused : attempts.refused = []
        · simp [publishNext, none_published, none_refused]
        · simp [publishNext, none_published, none_refused]
      · simp [publishNext, none_published]

theorem afterProcessed_cases (tx : Transaction) (attempts : Attempts) :
    afterProcessed tx attempts = .savingFailed tx attempts ∨
    (attempts.refused = [] ∧
      afterProcessed tx attempts = .committing tx attempts.report) := by
  by_cases none_refused : attempts.refused = []
  · simp [afterProcessed, none_refused]
  · simp [afterProcessed, none_refused]

@[simp] theorem transaction?_publishNext (tx : Transaction) (attempts : Attempts)
    (waiting : List Message) : (publishNext tx attempts waiting).transaction? = some tx := by
  rcases publishNext_cases tx attempts waiting with
    ⟨message, rest, _, next⟩ | ⟨_, next⟩ | ⟨_, _, next⟩ | ⟨_, _, _, next⟩ <;>
    rw [next] <;> rfl

@[simp] theorem untried_publishNext (tx : Transaction) (attempts : Attempts)
    (waiting : List Message) : (publishNext tx attempts waiting).untried = waiting := by
  rcases publishNext_cases tx attempts waiting with
    ⟨message, rest, there, next⟩ | ⟨there, next⟩ | ⟨there, _, next⟩ | ⟨there, _, _, next⟩ <;>
    rw [next, there] <;> rfl

@[simp] theorem hasFetched_publishNext (tx : Transaction) (attempts : Attempts)
    (waiting : List Message) : (publishNext tx attempts waiting).hasFetched = true := by
  rcases publishNext_cases tx attempts waiting with
    ⟨message, rest, _, next⟩ | ⟨_, next⟩ | ⟨_, _, next⟩ | ⟨_, _, _, next⟩ <;>
    rw [next] <;> rfl

@[simp] theorem error?_publishNext (tx : Transaction) (attempts : Attempts)
    (waiting : List Message) : (publishNext tx attempts waiting).error? = none := by
  rcases publishNext_cases tx attempts waiting with
    ⟨message, rest, _, next⟩ | ⟨_, next⟩ | ⟨_, _, next⟩ | ⟨_, _, _, next⟩ <;>
    rw [next] <;> rfl

@[simp] theorem transaction?_afterProcessed (tx : Transaction) (attempts : Attempts) :
    (afterProcessed tx attempts).transaction? = some tx := by
  rcases afterProcessed_cases tx attempts with next | ⟨_, next⟩ <;> rw [next] <;> rfl

@[simp] theorem untried_afterProcessed (tx : Transaction) (attempts : Attempts) :
    (afterProcessed tx attempts).untried = [] := by
  rcases afterProcessed_cases tx attempts with next | ⟨_, next⟩ <;> rw [next] <;> rfl

@[simp] theorem hasFetched_afterProcessed (tx : Transaction) (attempts : Attempts) :
    (afterProcessed tx attempts).hasFetched = true := by
  rcases afterProcessed_cases tx attempts with next | ⟨_, next⟩ <;> rw [next] <;> rfl

@[simp] theorem error?_afterProcessed (tx : Transaction) (attempts : Attempts) :
    (afterProcessed tx attempts).error? = none := by
  rcases afterProcessed_cases tx attempts with next | ⟨_, next⟩ <;> rw [next] <;> rfl

/-! ## Calls -/

/-- The effect of a call, which may be answered by an injected error, on an iteration and on the
store. -/
inductive Called (batchSize : Nat) (now : Instant) (store : Store) :
    Option Error → Iteration → Iteration → Store → Prop where
  | refused (error : Error) :
      Called batchSize now store (some error) .starting (.ended (.error error)) store
  | begun :
      Called batchSize now store none .starting
        (.fetching { home := store.id, number := store.begun + 1 })
        { store with begun := store.begun + 1 }
  | failed {iteration : Iteration} {tx : Transaction} (error : Error)
      (working : iteration.working? = some tx) :
      Called batchSize now store (some error) iteration (.undoing tx error) store
  | fetched (tx : Transaction) :
      Called batchSize now store none (.fetching tx)
        (publishNext tx { fetched := (store.batch tx batchSize).length }
          (store.batch tx batchSize))
        (store.claimAll tx ((store.batch tx batchSize).map Message.id))
  | savedProcessed (tx : Transaction) (attempts : Attempts) :
      Called batchSize now store none (.savingProcessed tx attempts)
        (afterProcessed (store.settleAll (.processed now) tx attempts.published) attempts) store
  | savedFailed (tx : Transaction) (attempts : Attempts) :
      Called batchSize now store none (.savingFailed tx attempts)
        (.committing (store.settleAll .failed tx attempts.refused) attempts.report) store
  | uncommitted (tx : Transaction) (report : Report) (error : Error) :
      Called batchSize now store (some error) (.committing tx report) (.ended (.error error))
        (store.release tx.number)
  | committed (tx : Transaction) (report : Report) :
      Called batchSize now store none (.committing tx report) (.ended (.ok report))
        (store.installed tx)
  | undone (injected : Option Error) (tx : Transaction) (error : Error) :
      Called batchSize now store injected (.undoing tx error) (.ended (.error error))
        (store.release tx.number)
  /-- The iteration waits for the bus or has ended. -/
  | idle (injected : Option Error) (iteration : Iteration)
      (uncalled : ∀ call, iteration.action batchSize ≠ .call call) :
      Called batchSize now store injected iteration iteration store

/-- Every call has such an effect if the transaction was begun in the store. -/
theorem perform_called {iteration : Iteration} {store : Store}
    (owned : ∀ tx, iteration.transaction? = some tx → store.owns tx = true) (batchSize : Nat)
    (now : Instant) (injected : Option Error) :
    Called batchSize now store injected iteration
      (iteration.perform batchSize now injected store).1
      (iteration.perform batchSize now injected store).2 := by
  cases iteration with
  | starting =>
      cases injected with
      | some error => exact .refused error
      | none => exact .begun
  | fetching tx =>
      cases injected with
      | some error => exact .failed error rfl
      | none =>
          simp only [perform, Store.fetch_eq (owned tx rfl)]
          exact .fetched tx
  | publishing tx attempts message waiting => exact .idle injected _ (by simp [action])
  | savingProcessed tx attempts =>
      cases injected with
      | some error => exact .failed error rfl
      | none =>
          simp only [perform, Store.saveProcessed_eq (owned tx rfl)]
          exact .savedProcessed tx attempts
  | savingFailed tx attempts =>
      cases injected with
      | some error => exact .failed error rfl
      | none =>
          simp only [perform, Store.saveFailed_eq (owned tx rfl)]
          exact .savedFailed tx attempts
  | committing tx report =>
      cases injected with
      | some error =>
          simp only [perform, Store.drop_eq (owned tx rfl)]
          exact .uncommitted tx report error
      | none =>
          simp only [perform, Store.commit_eq (owned tx rfl)]
          exact .committed tx report
  | undoing tx error =>
      cases injected with
      | some other =>
          simp only [perform, Store.drop_eq (owned tx rfl)]
          exact .undone _ tx error
      | none =>
          simp only [perform, Store.rollback_eq (owned tx rfl)]
          exact .undone _ tx error
  | ended result => exact .idle injected _ (by simp [action])

/-- The transaction of an iteration after a call: it has just begun, or it is the one from before,
perhaps with more updates. -/
theorem Called.origin {batchSize : Nat} {now : Instant} {store later : Store}
    {injected : Option Error} {iteration next : Iteration}
    (called : Called batchSize now store injected iteration next later) {tx : Transaction}
    (opened : next.transaction? = some tx) :
    (iteration = .starting ∧ later = { store with begun := store.begun + 1 } ∧
      tx = { home := store.id, number := store.begun + 1 }) ∨
    iteration.transaction? = some tx ∨
    (∃ old save messages, iteration.transaction? = some old ∧
      tx = store.settleAll save old messages) := by
  cases called with
  | refused => simp [transaction?] at opened
  | begun =>
      simp only [transaction?, Option.some.injEq] at opened
      exact Or.inl ⟨rfl, rfl, opened.symm⟩
  | failed error working =>
      simp only [transaction?, Option.some.injEq] at opened
      subst opened
      exact Or.inr (Or.inl (transaction?_of_working? working))
  | fetched own =>
      rw [transaction?_publishNext] at opened
      exact Or.inr (Or.inl opened)
  | savedProcessed own attempts =>
      rw [transaction?_afterProcessed, Option.some.injEq] at opened
      exact Or.inr (Or.inr ⟨own, _, _, rfl, opened.symm⟩)
  | savedFailed own attempts =>
      simp only [transaction?, Option.some.injEq] at opened
      exact Or.inr (Or.inr ⟨own, _, _, rfl, opened.symm⟩)
  | uncommitted => simp [transaction?] at opened
  | committed => simp [transaction?] at opened
  | undone => simp [transaction?] at opened
  | idle => exact Or.inr (Or.inl opened)

theorem Called.older {batchSize : Nat} {now : Instant} {store later : Store}
    {injected : Option Error} {iteration next : Iteration}
    (called : Called batchSize now store injected iteration next later) : store.Older later := by
  cases called with
  | begun => exact ⟨rfl, Nat.le_succ _, List.prefix_rfl⟩
  | fetched => exact Store.older_claimAll _ _ _
  | uncommitted => exact Store.older_release _ _
  | committed => exact Store.older_installed _ _
  | undone => exact Store.older_release _ _
  | _ => exact Store.Older.refl _

theorem Called.ids_of_rows {batchSize : Nat} {now : Instant} {store later : Store}
    {injected : Option Error} {iteration next : Iteration}
    (called : Called batchSize now store injected iteration next later)
    (no_inserts : ∀ tx, iteration.transaction? = some tx → tx.inserts = []) :
    later.rows.map Message.id = store.rows.map Message.id := by
  cases called with
  | committed tx report =>
      rw [Store.map_id_rows_installed, no_inserts tx rfl, List.map_nil, List.append_nil]
  | _ => rfl

theorem Called.pending_untried {batchSize : Nat} {now : Instant} {store later : Store}
    {injected : Option Error} {iteration next : Iteration}
    (called : Called batchSize now store injected iteration next later)
    (pending : ∀ message ∈ iteration.untried, message.isPending = true) :
    ∀ message ∈ next.untried, message.isPending = true := by
  cases called with
  | fetched tx =>
      intro message member
      rw [untried_publishNext] at member
      exact (Store.mem_batch member).1
  | savedProcessed tx attempts =>
      intro message member
      rw [untried_afterProcessed] at member
      cases member
  | idle => exact pending
  | _ =>
      intro message member
      cases member

theorem Called.single {batchSize : Nat} {now : Instant} {store later : Store}
    {injected : Option Error} {iteration next : Iteration}
    (called : Called batchSize now store injected iteration next later)
    (single : store.OneLockEach) : later.OneLockEach := by
  cases called with
  | fetched => exact Store.oneLockEach_claimAll single _ _
  | uncommitted => exact Store.oneLockEach_release single _
  | committed => exact Store.oneLockEach_installed single _
  | undone => exact Store.oneLockEach_release single _
  | _ => exact single

/-- An iteration that has not fetched yet after a call has just begun its transaction. -/
theorem Called.starting_of_unfetched {batchSize : Nat} {now : Instant} {store later : Store}
    {injected : Option Error} {iteration next : Iteration}
    (called : Called batchSize now store injected iteration next later)
    (early : next.hasFetched = false) : iteration = .starting := by
  cases called with
  | begun => rfl
  | fetched tx =>
      rw [hasFetched_publishNext] at early
      cases early
  | savedProcessed tx attempts =>
      rw [hasFetched_afterProcessed] at early
      cases early
  | idle injected iteration uncalled =>
      cases iteration with
      | starting => exact absurd rfl (uncalled _)
      | fetching tx => exact absurd rfl (uncalled _)
      | _ => cases early
  | _ => cases early

/-- A lock after a call belongs to the transaction of the iteration, which is still open, or it was
there before and belongs to another transaction. -/
theorem Called.lock_origin {batchSize : Nat} {now : Instant} {store later : Store}
    {injected : Option Error} {iteration next : Iteration}
    (called : Called batchSize now store injected iteration next later) {lock : Lock}
    (member : lock ∈ later.locks) :
    (∃ tx, next.transaction? = some tx ∧ lock.owner = tx.number) ∨
    (lock ∈ store.locks ∧ ∀ tx, iteration.transaction? = some tx → lock.owner ≠ tx.number) := by
  -- While the transaction stays open its number stays the same.
  have of_open (number : Nat) (there : lock ∈ store.locks)
      (before : ∀ tx, iteration.transaction? = some tx → tx.number = number)
      (after : ∃ tx, next.transaction? = some tx ∧ tx.number = number) :
      (∃ tx, next.transaction? = some tx ∧ lock.owner = tx.number) ∨
      (lock ∈ store.locks ∧ ∀ tx, iteration.transaction? = some tx → lock.owner ≠ tx.number) := by
    obtain ⟨tx, opened, own⟩ := after
    by_cases held : lock.owner = tx.number
    · exact Or.inl ⟨tx, opened, held⟩
    · refine Or.inr ⟨there, ?_⟩
      intro old old_opened
      rw [before old old_opened, ← own]
      exact held
  cases called with
  | refused error => exact Or.inr ⟨member, by simp [transaction?]⟩
  | begun => exact Or.inr ⟨member, by simp [transaction?]⟩
  | @failed _ tx error working =>
      apply of_open tx.number member
      · intro old opened
        rw [transaction?_of_working? working, Option.some.injEq] at opened
        rw [opened]
      · exact ⟨tx, rfl, rfl⟩
  | fetched tx =>
      rcases Store.mem_locks_claimAll member with own | there
      · exact Or.inl ⟨tx, transaction?_publishNext _ _ _, own⟩
      · exact of_open tx.number there (by simp [transaction?])
          ⟨tx, transaction?_publishNext _ _ _, rfl⟩
  | savedProcessed tx attempts =>
      exact of_open tx.number member (by simp [transaction?])
        ⟨_, transaction?_afterProcessed _ _, Store.number_settleAll _ _ _ _⟩
  | savedFailed tx attempts =>
      exact of_open tx.number member (by simp [transaction?])
        ⟨_, rfl, Store.number_settleAll _ _ _ _⟩
  | uncommitted tx report error =>
      obtain ⟨there, other⟩ := Store.mem_locks_release.mp member
      exact Or.inr ⟨there, by simpa [transaction?] using other⟩
  | committed tx report =>
      rw [Store.locks_installed] at member
      obtain ⟨there, other⟩ := Store.mem_locks_release.mp member
      exact Or.inr ⟨there, by simpa [transaction?] using other⟩
  | undone injected tx error =>
      obtain ⟨there, other⟩ := Store.mem_locks_release.mp member
      exact Or.inr ⟨there, by simpa [transaction?] using other⟩
  | idle =>
      cases opened : iteration.transaction? with
      | none => exact Or.inr ⟨member, by simp⟩
      | some tx =>
          by_cases held : lock.owner = tx.number
          · exact Or.inl ⟨tx, rfl, held⟩
          · refine Or.inr ⟨member, ?_⟩
            intro old same
            cases same
            exact held

/-- What a fetch for a transaction without new rows claims is held by nobody else. -/
theorem free_of_batch {store : Store} {tx : Transaction} (no_inserts : tx.inserts = [])
    (limit : Nat) :
    ∀ id ∈ (store.batch tx limit).map Message.id, store.isHeldByOther tx id = false := by
  intro id claimed
  rcases Sessions.committed_or_own_of_batch claimed with ⟨_, free⟩ | own
  · exact free
  · simp [no_inserts] at own

theorem Called.locksOf_other {batchSize : Nat} {now : Instant} {store later : Store}
    {injected : Option Error} {iteration next : Iteration}
    (called : Called batchSize now store injected iteration next later)
    (single : store.OneLockEach)
    (no_inserts : ∀ tx, iteration.transaction? = some tx → tx.inserts = []) {number : Nat}
    (foreign : ∀ tx, iteration.transaction? = some tx → tx.number ≠ number) :
    later.locksOf number = store.locksOf number := by
  cases called with
  | fetched tx =>
      exact Store.locksOf_claimAll single (free_of_batch (no_inserts tx rfl) _)
        (Ne.symm (foreign tx rfl))
  | uncommitted tx report error => exact Store.locksOf_release (Ne.symm (foreign tx rfl))
  | committed tx report =>
      simp only [Store.locksOf, Store.locks_installed]
      exact Store.locksOf_release (Ne.symm (foreign tx rfl))
  | undone injected tx error => exact Store.locksOf_release (Ne.symm (foreign tx rfl))
  | _ => rfl

/-! ## Answers of the bus -/

inductive Answered : Except Error Unit → Iteration → Iteration → Prop where
  | published (tx : Transaction) (attempts : Attempts) (message : Message)
      (waiting : List Message) :
      Answered (.ok ()) (.publishing tx attempts message waiting)
        (publishNext tx { attempts with published := attempts.published ++ [message] } waiting)
  | refused (tx : Transaction) (attempts : Attempts) (message : Message)
      (waiting : List Message) (error : Error) :
      Answered (.error error) (.publishing tx attempts message waiting)
        (publishNext tx
          { attempts with refused := attempts.refused ++ [message.refused error.message] } waiting)

theorem answer_answered {tx : Transaction} {attempts : Attempts} {message : Message}
    {waiting : List Message} (pending : message.isPending = true) (result : Except Error Unit) :
    Answered result (.publishing tx attempts message waiting)
      ((Iteration.publishing tx attempts message waiting).answer result).1 := by
  cases result with
  | ok done => exact .published tx attempts message waiting
  | error error =>
      simp only [answer, Message.recordFailure_of_pending pending]
      exact .refused tx attempts message waiting error

section Answered
variable {result : Except Error Unit} {iteration next : Iteration}

theorem Answered.transaction? (answered : Answered result iteration next) :
    next.transaction? = iteration.transaction? := by
  cases answered with
  | published => exact transaction?_publishNext _ _ _
  | refused => exact transaction?_publishNext _ _ _

theorem Answered.untried (answered : Answered result iteration next) :
    next.untried = iteration.untried.tail := by
  cases answered with
  | published => exact untried_publishNext _ _ _
  | refused => exact untried_publishNext _ _ _

theorem Answered.hasFetched (answered : Answered result iteration next) :
    next.hasFetched = true := by
  cases answered with
  | published => exact hasFetched_publishNext _ _ _
  | refused => exact hasFetched_publishNext _ _ _

theorem Answered.error? (answered : Answered result iteration next) : next.error? = none := by
  cases answered with
  | published => exact error?_publishNext _ _ _
  | refused => exact error?_publishNext _ _ _

end Answered

end Outbox.Publisher.Iteration
