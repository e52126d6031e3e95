import Outbox.Proofs.Publisher.Calls

/-!
# Fleets of iterations

Any number of iterations and any number of other users work on one store.  A history is a list of
moves: a request of another user, a call of an iteration, which may be answered by an injected
error, the result of a publication, which may be the error of its time limit, or the end of an
iteration that is abandoned where it stands.  So every interleaving of calls and publications is a
list of moves.

`Moved` says once what a move can do.  `Sound` is what every history leaves behind: open
transactions have numbers of their own, and every lock belongs to one of them.
-/

set_option autoImplicit false

namespace Outbox.Publisher

open Time (Instant)

structure Trial where
  message : Message
  result : Except Error Unit

/-- What an iteration has done, for the record. -/
structure Journal where
  batch : List Message := []
  trials : List Trial := []

/-- A store, its open transactions, and iterations on it.  An iteration that was abandoned is no
longer there. -/
structure Fleet where
  sessions : Sessions
  iterations : Nat → Option Iteration
  journals : Nat → Journal
  /-- The iterations that have committed, in this order. -/
  committed : List Nat

inductive Move where
  /-- Somebody else asks the store or its service. -/
  | request (request : Request)
  /-- An iteration makes its next call to the store. -/
  | call (run batchSize : Nat) (now : Instant) (injected : Option Error)
  /-- A publication of an iteration comes to its result. -/
  | answer (run : Nat) (result : Except Error Unit)
  /-- An iteration that is not at its end is abandoned. -/
  | abandon (run : Nat)

def Move.run? : Move → Option Nat
  | .request _ => none
  | .call run _ _ _ => some run
  | .answer run _ => some run
  | .abandon run => some run

/-- The journal after a call: a fetch tells what was claimed. -/
def Journal.called (journal : Journal) : Iteration → Iteration → Journal
  | .fetching _, next => { journal with batch := next.untried }
  | _, _ => journal

@[simp] theorem Journal.trials_called (journal : Journal) (iteration next : Iteration) :
    (journal.called iteration next).trials = journal.trials := by
  cases iteration <;> rfl

/-- A call that took an iteration from one state to another was a commit that took place. -/
def Iteration.commits : Iteration → Iteration → Bool
  | .committing _ _, .ended (.ok _) => true
  | _, _ => false

namespace Fleet

/-- An empty store; all iterations are still to be started. -/
def empty (home : StoreId) : Fleet where
  sessions := .empty home
  iterations := fun _ => some .starting
  journals := fun _ => {}
  committed := []

def store (fleet : Fleet) : Store :=
  fleet.sessions.store

def transaction? (fleet : Fleet) (run : Nat) : Option Transaction :=
  (fleet.iterations run).bind Iteration.transaction?

def batch (fleet : Fleet) (run : Nat) : List Message :=
  (fleet.journals run).batch

def trials (fleet : Fleet) (run : Nat) : List Trial :=
  (fleet.journals run).trials

def afterCall (fleet : Fleet) (run : Nat) (iteration next : Iteration) (store : Store) : Fleet where
  sessions := { fleet.sessions with store }
  iterations := Function.update fleet.iterations run (some next)
  journals := Function.update fleet.journals run ((fleet.journals run).called iteration next)
  committed := if iteration.commits next then fleet.committed ++ [run] else fleet.committed

def afterAnswer (fleet : Fleet) (run : Nat) (trial : Trial) (next : Iteration) : Fleet :=
  { fleet with
    iterations := Function.update fleet.iterations run (some next)
    journals := Function.update fleet.journals run
      { fleet.journals run with trials := fleet.trials run ++ [trial] } }

def without (fleet : Fleet) (run : Nat) (store : Store) : Fleet :=
  { fleet with
    sessions := { fleet.sessions with store }
    iterations := Function.update fleet.iterations run none }

@[simp] theorem batch_afterCall_self (fleet : Fleet) (run : Nat) (iteration next : Iteration)
    (store : Store) : (fleet.afterCall run iteration next store).batch run =
      ((fleet.journals run).called iteration next).batch := by
  simp [batch, afterCall]

@[simp] theorem trials_afterCall (fleet : Fleet) (run : Nat) (iteration next : Iteration)
    (store : Store) (other : Nat) :
    (fleet.afterCall run iteration next store).trials other = fleet.trials other := by
  by_cases same : other = run
  · subst same
    simp [trials, afterCall]
  · simp [trials, afterCall, same]

@[simp] theorem batch_afterAnswer (fleet : Fleet) (run : Nat) (trial : Trial) (next : Iteration)
    (other : Nat) : (fleet.afterAnswer run trial next).batch other = fleet.batch other := by
  by_cases same : other = run
  · subst same
    simp [batch, afterAnswer]
  · simp [batch, afterAnswer, same]

@[simp] theorem trials_afterAnswer_self (fleet : Fleet) (run : Nat) (trial : Trial)
    (next : Iteration) :
    (fleet.afterAnswer run trial next).trials run = fleet.trials run ++ [trial] := by
  simp [trials, afterAnswer]

/-- Makes one move.  Nothing happens if it does not fit. -/
def step (fleet : Fleet) : Move → Fleet
  | .request request => { fleet with sessions := (fleet.sessions.step request).1 }
  | .call run batchSize now injected =>
    match fleet.iterations run with
    | some iteration =>
      let (next, store) := iteration.perform batchSize now injected fleet.store
      fleet.afterCall run iteration next store
    | none => fleet
  | .answer run result =>
    match fleet.iterations run with
    | some (.publishing tx attempts message waiting) =>
      fleet.afterAnswer run ⟨message, result⟩
        ((Iteration.publishing tx attempts message waiting).answer result).1
    | _ => fleet
  | .abandon run =>
    match fleet.iterations run with
    | none => fleet
    | some (.ended _) => fleet
    | some iteration => fleet.without run (iteration.abandon fleet.store)

def run (home : StoreId) (moves : List Move) : Fleet :=
  moves.foldl step (empty home)

theorem run_concat (home : StoreId) (past : List Move) (move : Move) :
    run home (past ++ [move]) = (run home past).step move := by
  simp [run]

/-! ## What a move can do -/

inductive Moved (fleet : Fleet) : Move → Fleet → Prop where
  /-- The iteration that should call is not there, or the move is no call. -/
  | nothing {move : Move} (unfit : ∀ run batchSize now injected,
      move = .call run batchSize now injected → fleet.iterations run = none) :
      Moved fleet move fleet
  | requested {request : Request} {after : Sessions}
      (change : Sessions.Change fleet.sessions request after) :
      Moved fleet (.request request) { fleet with sessions := after }
  | called {run batchSize : Nat} {now : Instant} {injected : Option Error}
      {iteration next : Iteration} {store : Store}
      (running : fleet.iterations run = some iteration)
      (called : Iteration.Called batchSize now fleet.store injected iteration next store) :
      Moved fleet (.call run batchSize now injected) (fleet.afterCall run iteration next store)
  | answered {run : Nat} {result : Except Error Unit} {tx : Transaction} {attempts : Attempts}
      {message : Message} {waiting : List Message} {next : Iteration}
      (running : fleet.iterations run = some (.publishing tx attempts message waiting))
      (answered : Iteration.Answered result (.publishing tx attempts message waiting) next) :
      Moved fleet (.answer run result) (fleet.afterAnswer run ⟨message, result⟩ next)
  | withdrawn {run : Nat} (running : fleet.iterations run = some .starting) :
      Moved fleet (.abandon run) (fleet.without run fleet.store)
  | abandoned {run : Nat} {tx : Transaction} (opened : fleet.transaction? run = some tx) :
      Moved fleet (.abandon run) (fleet.without run (fleet.store.release tx.number))

/-! ## Sound fleets -/

/-- What holds after every history. -/
structure Sound (fleet : Fleet) : Prop where
  sessions : fleet.sessions.Sound
  /-- The transaction of an iteration has no new rows, and nobody has a handle of its number. -/
  lawful : ∀ run tx, fleet.transaction? run = some tx →
    tx.Lawful fleet.store ∧ tx.inserts = [] ∧ fleet.sessions.handles tx.number = none
  /-- Iterations have transactions of their own. -/
  apart : ∀ run other tx otherTx, fleet.transaction? run = some tx →
    fleet.transaction? other = some otherTx → tx.number = otherTx.number → run = other
  single : fleet.store.OneLockEach
  /-- Every lock belongs to an open transaction. -/
  held : ∀ lock ∈ fleet.store.locks, (fleet.sessions.handles lock.owner).isSome = true ∨
    ∃ run tx, fleet.transaction? run = some tx ∧ lock.owner = tx.number
  pending : ∀ run iteration, fleet.iterations run = some iteration →
    ∀ message ∈ iteration.untried, message.isPending = true
  /-- An iteration that has not fetched yet has done nothing. -/
  unfetched : ∀ run iteration, fleet.iterations run = some iteration →
    iteration.hasFetched = false → fleet.batch run = [] ∧ fleet.trials run = []
  committed : ∀ run, run ∈ fleet.committed ↔
    ∃ report, fleet.iterations run = some (.ended (.ok report))
  committed_distinct : fleet.committed.Nodup

theorem sound_empty (home : StoreId) : (empty home).Sound where
  sessions := Sessions.sound_empty home
  lawful := by
    intro run tx opened
    cases opened
  apart := by
    intro run other tx otherTx opened
    cases opened
  single := List.nodup_nil
  held := by
    intro lock member
    cases member
  pending := by
    intro run iteration running message member
    cases running
    cases member
  unfetched := fun _ _ _ _ => ⟨rfl, rfl⟩
  committed := by
    intro run
    simp [empty]
  committed_distinct := List.nodup_nil

/-- Every move on a sound fleet has such an effect. -/
theorem step_moved {fleet : Fleet} (sound : fleet.Sound) (move : Move) :
    Moved fleet move (fleet.step move) := by
  cases move with
  | request request => exact .requested (Sessions.step_change sound.sessions request)
  | call run batchSize now injected =>
      cases running : fleet.iterations run with
      | none =>
          simp only [step, running]
          apply Moved.nothing
          intro caller _ _ _ same
          cases same
          exact running
      | some iteration =>
          simp only [step, running]
          apply Moved.called running
          apply Iteration.perform_called
          intro tx opened
          exact (sound.lawful run tx (by simp [transaction?, running, opened])).1.owned
  | answer run result =>
      cases running : fleet.iterations run with
      | none =>
          simp only [step, running]
          exact .nothing (by simp)
      | some iteration =>
          cases iteration with
          | publishing tx attempts message waiting =>
              simp only [step, running]
              have pending := sound.pending run _ running message (List.mem_cons_self ..)
              exact .answered running (Iteration.answer_answered pending result)
          | _ =>
              simp only [step, running]
              exact .nothing (by simp)
  | abandon run =>
      cases running : fleet.iterations run with
      | none =>
          simp only [step, running]
          exact .nothing (by simp)
      | some iteration =>
          cases opened : iteration.transaction? with
          | some tx =>
              have held : fleet.transaction? run = some tx := by
                simp [transaction?, running, opened]
              have released : iteration.abandon fleet.store = fleet.store.release tx.number := by
                simp [Iteration.abandon, opened,
                  Store.drop_eq (sound.lawful run tx held).1.owned]
              have left : fleet.step (.abandon run) =
                  fleet.without run (fleet.store.release tx.number) := by
                rw [← released]
                cases iteration with
                | ended result => simp [Iteration.transaction?] at opened
                | _ => simp only [step, running]
              rw [left]
              exact .abandoned held
          | none =>
              cases iteration with
              | starting =>
                  simp only [step, running]
                  exact .withdrawn running
              | ended result =>
                  simp only [step, running]
                  exact .nothing (by simp)
              | _ => simp [Iteration.transaction?] at opened

/-! ### Transactions after a move -/

theorem transaction?_afterCall (fleet : Fleet) (run : Nat) (iteration next : Iteration)
    (store : Store) (other : Nat) :
    (fleet.afterCall run iteration next store).transaction? other =
      if other = run then next.transaction? else fleet.transaction? other := by
  by_cases same : other = run
  · subst same
    simp [transaction?, afterCall]
  · simp [transaction?, afterCall, same]

theorem transaction?_afterAnswer (fleet : Fleet) (run : Nat) (trial : Trial) (next : Iteration)
    (other : Nat) :
    (fleet.afterAnswer run trial next).transaction? other =
      if other = run then next.transaction? else fleet.transaction? other := by
  by_cases same : other = run
  · subst same
    simp [transaction?, afterAnswer]
  · simp [transaction?, afterAnswer, same]

theorem transaction?_without (fleet : Fleet) (run : Nat) (store : Store) (other : Nat) :
    (fleet.without run store).transaction? other =
      if other = run then none else fleet.transaction? other := by
  by_cases same : other = run
  · subst same
    simp [transaction?, without]
  · simp [transaction?, without, same]

theorem transaction?_of_running {fleet : Fleet} {run : Nat} {iteration : Iteration}
    (running : fleet.iterations run = some iteration) :
    fleet.transaction? run = iteration.transaction? := by
  simp [transaction?, running]

/-- A move leaves the iterations alone that do not make it, and their journals. -/
theorem Moved.others {fleet after : Fleet} {move : Move} (moved : Moved fleet move after)
    {run : Nat} (foreign : move.run? ≠ some run) :
    after.iterations run = fleet.iterations run ∧ after.journals run = fleet.journals run := by
  have different {caller : Nat} (made : move.run? = some caller) : run ≠ caller := by
    rintro rfl
    exact foreign made
  cases moved with
  | nothing => exact ⟨rfl, rfl⟩
  | requested change => exact ⟨rfl, rfl⟩
  | called running called => simp [afterCall, different rfl]
  | answered running answered => simp [afterAnswer, different rfl]
  | withdrawn running => simp [without, different rfl]
  | abandoned opened => simp [without, different rfl]

theorem Moved.transaction?_other {fleet after : Fleet} {move : Move}
    (moved : Moved fleet move after) {run : Nat} (foreign : move.run? ≠ some run) :
    after.transaction? run = fleet.transaction? run := by
  rw [transaction?, (moved.others foreign).1]
  rfl

theorem Moved.batch_other {fleet after : Fleet} {move : Move} (moved : Moved fleet move after)
    {run : Nat} (foreign : move.run? ≠ some run) : after.batch run = fleet.batch run := by
  rw [batch, (moved.others foreign).2]
  rfl

/-- What a move is to an iteration that is there after it: the move of another one, or nothing, or a
call of the iteration, or the result of its attempt. -/
theorem Moved.iteration_cases {fleet after : Fleet} {move : Move}
    (moved : Moved fleet move after) {run : Nat} {next : Iteration}
    (running : after.iterations run = some next) :
    move.run? ≠ some run ∨
    (after = fleet ∧ ∀ batchSize now injected, move ≠ .call run batchSize now injected) ∨
    (∃ batchSize now injected iteration store,
      move = .call run batchSize now injected ∧ fleet.iterations run = some iteration ∧
      Iteration.Called batchSize now fleet.store injected iteration next store ∧
      after = fleet.afterCall run iteration next store) ∨
    (∃ result tx attempts message waiting, move = .answer run result ∧
      fleet.iterations run = some (.publishing tx attempts message waiting) ∧
      Iteration.Answered result (.publishing tx attempts message waiting) next ∧
      after = fleet.afterAnswer run ⟨message, result⟩ next) := by
  by_cases own : move.run? = some run
  · refine Or.inr ?_
    cases moved with
    | nothing unfit =>
        refine Or.inl ⟨rfl, ?_⟩
        intro batchSize now injected same
        have absent := unfit _ _ _ _ same
        rw [running] at absent
        cases absent
    | requested change => cases own
    | called was_running called =>
        cases own
        simp only [afterCall, Function.update_self, Option.some.injEq] at running
        subst running
        exact Or.inr (Or.inl ⟨_, _, _, _, _, rfl, was_running, called, rfl⟩)
    | answered was_running answered =>
        cases own
        simp only [afterAnswer, Function.update_self, Option.some.injEq] at running
        subst running
        exact Or.inr (Or.inr ⟨_, _, _, _, _, rfl, was_running, answered, rfl⟩)
    | withdrawn was_running =>
        cases own
        simp [without] at running
    | abandoned opened =>
        cases own
        simp [without] at running
  · exact Or.inl own

theorem iteration_of_transaction {fleet : Fleet} {run : Nat} {tx : Transaction}
    (opened : fleet.transaction? run = some tx) :
    ∃ iteration, fleet.iterations run = some iteration ∧ iteration.transaction? = some tx := by
  cases running : fleet.iterations run with
  | none => simp [transaction?, running] at opened
  | some iteration => exact ⟨iteration, rfl, (transaction?_of_running running).symm.trans opened⟩

/-- Where the transaction of an iteration comes from that is open after a move. -/
theorem Moved.transaction_origin {fleet after : Fleet} {move : Move}
    (moved : Moved fleet move after) {run : Nat} {tx : Transaction}
    (opened : after.transaction? run = some tx) :
    (fleet.transaction? run = none ∧
      tx = { home := fleet.store.id, number := fleet.store.begun + 1 } ∧
      after.store = { fleet.store with begun := fleet.store.begun + 1 } ∧
      after.sessions.handles = fleet.sessions.handles ∧
      ∀ other, other ≠ run → after.transaction? other = fleet.transaction? other) ∨
    fleet.transaction? run = some tx ∨
    (∃ old save messages, fleet.transaction? run = some old ∧
      tx = fleet.store.settleAll save old messages) := by
  obtain ⟨next, running, next_opened⟩ := iteration_of_transaction opened
  rcases moved.iteration_cases running with
    foreign | ⟨rfl, _⟩ | ⟨_, _, _, iteration, _, _, was_running, called, rfl⟩ |
    ⟨_, _, _, _, _, _, was_running, answered, _⟩
  · rw [moved.transaction?_other foreign] at opened
    exact Or.inr (Or.inl opened)
  · exact Or.inr (Or.inl opened)
  · rw [transaction?_of_running was_running]
    rcases called.origin next_opened with ⟨rfl, begun, new⟩ | origin
    · refine Or.inl ⟨rfl, new, begun, rfl, ?_⟩
      intro other different
      rw [transaction?_afterCall, if_neg different]
    · exact Or.inr origin
  · rw [answered.transaction?] at next_opened
    exact Or.inr (Or.inl ((transaction?_of_running was_running).trans next_opened))

theorem Moved.number_origin {fleet after : Fleet} {move : Move} (moved : Moved fleet move after)
    {run : Nat} {tx : Transaction} (opened : after.transaction? run = some tx) :
    (∃ old, fleet.transaction? run = some old ∧ old.number = tx.number) ∨
    (fleet.transaction? run = none ∧ tx.number = fleet.store.begun + 1 ∧
      ∀ other, other ≠ run → after.transaction? other = fleet.transaction? other) := by
  rcases moved.transaction_origin opened with
    ⟨closed, new, _, _, others⟩ | kept | ⟨old, save, messages, old_opened, saved⟩
  · exact Or.inr ⟨closed, by rw [new], others⟩
  · exact Or.inl ⟨tx, kept, rfl⟩
  · exact Or.inl ⟨old, old_opened, by simp [saved]⟩

theorem Moved.older {fleet after : Fleet} {move : Move} (moved : Moved fleet move after) :
    fleet.store.Older after.store := by
  cases moved with
  | nothing => exact Store.Older.refl _
  | requested change => exact change.older
  | called running called => exact called.older
  | answered => exact Store.Older.refl _
  | withdrawn => exact Store.Older.refl _
  | abandoned => exact Store.older_release _ _

theorem Moved.handle_origin {fleet after : Fleet} {move : Move} (moved : Moved fleet move after)
    {number : Nat} (opened : (after.sessions.handles number).isSome = true) :
    (fleet.sessions.handles number).isSome = true ∨ number = fleet.store.begun + 1 := by
  cases moved with
  | requested change => exact change.number_origin opened
  | _ => exact Or.inl opened

/-! ### Sound fleets stay sound -/

theorem Sound.number_le {fleet : Fleet} (sound : fleet.Sound) {run : Nat} {tx : Transaction}
    (opened : fleet.transaction? run = some tx) : tx.number ≤ fleet.store.begun :=
  (sound.lawful run tx opened).1.number_le

theorem Sound.handle_le {fleet : Fleet} (sound : fleet.Sound) {number : Nat}
    (opened : (fleet.sessions.handles number).isSome = true) : number ≤ fleet.store.begun := by
  obtain ⟨tx, found⟩ := Option.isSome_iff_exists.mp opened
  obtain ⟨own, lawful⟩ := sound.sessions number tx found
  exact own ▸ lawful.number_le

theorem Moved.lawful {fleet after : Fleet} {move : Move} (moved : Moved fleet move after)
    (sound : fleet.Sound) {run : Nat} {tx : Transaction}
    (opened : after.transaction? run = some tx) :
    tx.Lawful after.store ∧ tx.inserts = [] ∧ after.sessions.handles tx.number = none := by
  have unhandled (old : Transaction) (old_opened : fleet.transaction? run = some old) :
      after.sessions.handles old.number = none := by
    by_contra found
    rcases moved.handle_origin (Option.isSome_iff_ne_none.mpr found) with earlier | next
    · simp [(sound.lawful run old old_opened).2.2] at earlier
    · have bounded := sound.number_le old_opened
      omega
  rcases moved.transaction_origin opened with
    ⟨_, new, begun, handles, _⟩ | kept | ⟨old, save, messages, old_opened, saved⟩
  · subst new
    refine ⟨?_, rfl, ?_⟩
    · rw [begun]
      exact Transaction.lawful_begin fleet.store
    · rw [handles]
      by_contra found
      have bounded := sound.handle_le (Option.isSome_iff_ne_none.mpr found)
      exact Nat.not_succ_le_self _ bounded
  · obtain ⟨lawful, no_inserts, _⟩ := sound.lawful run tx kept
    exact ⟨lawful.later moved.older, no_inserts, unhandled tx kept⟩
  · obtain ⟨lawful, no_inserts, _⟩ := sound.lawful run old old_opened
    subst saved
    refine ⟨(lawful.settleAll save messages).later moved.older,
      Store.inserts_settleAll _ _ no_inserts _, ?_⟩
    rw [Store.number_settleAll]
    exact unhandled old old_opened

theorem Moved.apart {fleet after : Fleet} {move : Move} (moved : Moved fleet move after)
    (sound : fleet.Sound) {run other : Nat} {tx otherTx : Transaction}
    (opened : after.transaction? run = some tx)
    (other_opened : after.transaction? other = some otherTx)
    (same : tx.number = otherTx.number) : run = other := by
  rcases moved.number_origin opened with ⟨old, old_opened, number⟩ | ⟨_, new, others⟩
  · rcases moved.number_origin other_opened with
      ⟨otherOld, otherOld_opened, other_number⟩ | ⟨_, other_new, _⟩
    · exact sound.apart run other old otherOld old_opened otherOld_opened
        (by rw [number, other_number, same])
    · have bounded := sound.number_le old_opened
      omega
  · by_contra different
    rw [others other (Ne.symm different)] at other_opened
    have bounded := sound.number_le other_opened
    omega

theorem Moved.held {fleet after : Fleet} {move : Move} (moved : Moved fleet move after)
    (sound : fleet.Sound) {lock : Lock} (member : lock ∈ after.store.locks) :
    (after.sessions.handles lock.owner).isSome = true ∨
      ∃ run tx, after.transaction? run = some tx ∧ lock.owner = tx.number := by
  cases moved with
  | nothing => exact sound.held lock member
  | requested change =>
      rcases change.lock_origin sound.sessions member with opened | ⟨there, foreign⟩
      · exact Or.inl opened
      · rcases sound.held lock there with opened | held
        · simp [foreign] at opened
        · exact Or.inr held
  | @called caller _ _ _ iteration next store running called =>
      rcases called.lock_origin member with ⟨tx, opened, own⟩ | ⟨there, foreign⟩
      · refine Or.inr ⟨caller, tx, ?_, own⟩
        rw [transaction?_afterCall, if_pos rfl, opened]
      · rcases sound.held lock there with opened | ⟨holder, tx, opened, own⟩
        · exact Or.inl opened
        · have different : holder ≠ caller := by
            rintro rfl
            rw [transaction?_of_running running] at opened
            exact foreign tx opened own
          refine Or.inr ⟨holder, tx, ?_, own⟩
          rw [transaction?_afterCall, if_neg different, opened]
  | @answered caller _ _ _ _ _ next running answered =>
      rcases sound.held lock member with opened | ⟨holder, tx, opened, own⟩
      · exact Or.inl opened
      · refine Or.inr ⟨holder, tx, ?_, own⟩
        rw [transaction?_afterAnswer, answered.transaction?, ← transaction?_of_running running]
        by_cases same : holder = caller
        · rw [if_pos same, ← same, opened]
        · rw [if_neg same, opened]
  | @withdrawn caller running =>
      rcases sound.held lock member with opened | ⟨holder, tx, opened, own⟩
      · exact Or.inl opened
      · have different : holder ≠ caller := by
          rintro rfl
          simp [transaction?_of_running running, Iteration.transaction?] at opened
        exact Or.inr ⟨holder, tx, by rw [transaction?_without, if_neg different, opened], own⟩
  | @abandoned caller own_tx own_opened =>
      obtain ⟨there, foreign⟩ := Store.mem_locks_release.mp member
      rcases sound.held lock there with opened | ⟨holder, tx, opened, own⟩
      · exact Or.inl opened
      · have different : holder ≠ caller := by
          rintro rfl
          rw [own_opened, Option.some.injEq] at opened
          exact foreign (by rw [own, opened])
        exact Or.inr ⟨holder, tx, by rw [transaction?_without, if_neg different, opened], own⟩

theorem Moved.pending {fleet after : Fleet} {move : Move} (moved : Moved fleet move after)
    (sound : fleet.Sound) {run : Nat} {iteration : Iteration}
    (running : after.iterations run = some iteration) :
    ∀ message ∈ iteration.untried, message.isPending = true := by
  rcases moved.iteration_cases running with
    foreign | ⟨rfl, _⟩ | ⟨_, _, _, before, _, _, was_running, called, _⟩ |
    ⟨_, _, _, _, _, _, was_running, answered, _⟩
  · rw [(moved.others foreign).1] at running
    exact sound.pending run iteration running
  · exact sound.pending run iteration running
  · exact called.pending_untried (sound.pending run before was_running)
  · rw [answered.untried]
    intro message member
    exact sound.pending run _ was_running message (List.mem_of_mem_tail member)

end Fleet

namespace Iteration

theorem commits_cases {iteration next : Iteration} (commits : iteration.commits next = true) :
    (∃ tx report, iteration = .committing tx report) ∧ ∃ report, next = .ended (.ok report) := by
  cases iteration with
  | committing tx report =>
      cases next with
      | ended result =>
          cases result with
          | ok other => exact ⟨⟨tx, report, rfl⟩, other, rfl⟩
          | error error => simp [Iteration.commits] at commits
      | _ => simp [Iteration.commits] at commits
  | _ => simp [Iteration.commits] at commits

/-- An iteration has ended with a report after a call if the call was a commit that took place, or
if it had ended so before. -/
theorem Called.reports_iff {batchSize : Nat} {now : Instant} {store later : Store}
    {injected : Option Error} {iteration next : Iteration}
    (called : Called batchSize now store injected iteration next later) :
    (∃ report, next = .ended (.ok report)) ↔
      iteration.commits next = true ∨ ∃ report, iteration = .ended (.ok report) := by
  have unreported {tx : Transaction} (opened : next.transaction? = some tx) :
      ¬ ∃ report, next = .ended (.ok report) := by
    rintro ⟨report, rfl⟩
    simp [transaction?] at opened
  constructor
  · intro reported
    cases called with
    | refused error => simp at reported
    | begun => simp at reported
    | failed error working => simp at reported
    | fetched tx => exact absurd reported (unreported (transaction?_publishNext _ _ _))
    | savedProcessed tx attempts =>
        exact absurd reported (unreported (transaction?_afterProcessed _ _))
    | savedFailed tx attempts => simp at reported
    | uncommitted tx report error => simp at reported
    | committed tx report => exact Or.inl rfl
    | undone injected tx error => simp at reported
    | idle => exact Or.inr reported
  · rintro (commits | ⟨report, rfl⟩)
    · exact (commits_cases commits).2
    · cases called with
      | failed error working => simp [working?] at working
      | idle => exact ⟨report, rfl⟩

/-- What an iteration has claimed after a call while its transaction is open: nothing, or what the
call has just fetched, or what it had claimed before a call that left the store as it was. -/
theorem Called.batch_cases {batchSize : Nat} {now : Instant} {store later : Store}
    {injected : Option Error} {iteration next : Iteration}
    (called : Called batchSize now store injected iteration next later) {journal : Journal}
    (unfetched : iteration.hasFetched = false → journal.batch = []) {tx : Transaction}
    (opened : next.transaction? = some tx) :
    (journal.called iteration next).batch = [] ∨
    (iteration = .fetching tx ∧
      (journal.called iteration next).batch = store.batch tx batchSize ∧
      later = store.claimAll tx ((store.batch tx batchSize).map Message.id)) ∨
    (∃ old, iteration.transaction? = some old ∧ old.number = tx.number ∧ later = store ∧
      (journal.called iteration next).batch = journal.batch) := by
  cases called with
  | refused error => cases opened
  | begun => exact Or.inl (unfetched rfl)
  | @failed _ own error working =>
      cases opened
      have before := transaction?_of_working? working
      cases iteration with
      | fetching => exact Or.inl rfl
      | savingProcessed => exact Or.inr (Or.inr ⟨tx, before, rfl, rfl, rfl⟩)
      | savingFailed => exact Or.inr (Or.inr ⟨tx, before, rfl, rfl, rfl⟩)
      | _ => cases working
  | fetched own =>
      rw [transaction?_publishNext] at opened
      cases opened
      exact Or.inr (Or.inl ⟨rfl, untried_publishNext _ _ _, rfl⟩)
  | savedProcessed own attempts =>
      rw [transaction?_afterProcessed] at opened
      cases opened
      exact Or.inr (Or.inr ⟨own, rfl, (Store.number_settleAll _ _ _ _).symm, rfl, rfl⟩)
  | savedFailed own attempts =>
      cases opened
      exact Or.inr (Or.inr ⟨own, rfl, (Store.number_settleAll _ _ _ _).symm, rfl, rfl⟩)
  | uncommitted => cases opened
  | committed => cases opened
  | undone => cases opened
  | idle injected iteration uncalled =>
      cases iteration with
      | fetching => exact absurd rfl (uncalled _)
      | _ => exact Or.inr (Or.inr ⟨tx, opened, rfl, rfl, rfl⟩)

/-- Only a commit that takes place changes committed rows. -/
theorem Called.rows_of_uncommitted {batchSize : Nat} {now : Instant} {store later : Store}
    {injected : Option Error} {iteration next : Iteration}
    (called : Called batchSize now store injected iteration next later)
    (uncommitted : iteration.commits next = false) : later.rows = store.rows := by
  cases called with
  | committed tx report => cases uncommitted
  | _ => rfl

end Iteration

namespace Fleet

theorem Moved.unfetched {fleet after : Fleet} {move : Move} (moved : Moved fleet move after)
    (sound : fleet.Sound) {run : Nat} {iteration : Iteration}
    (running : after.iterations run = some iteration) (early : iteration.hasFetched = false) :
    after.batch run = [] ∧ after.trials run = [] := by
  rcases moved.iteration_cases running with
    foreign | ⟨rfl, _⟩ | ⟨_, _, _, before, _, _, was_running, called, rfl⟩ |
    ⟨_, _, _, _, _, _, _, answered, _⟩
  · rw [(moved.others foreign).1] at running
    rw [batch, trials, (moved.others foreign).2]
    exact sound.unfetched run iteration running early
  · exact sound.unfetched run iteration running early
  · obtain rfl := called.starting_of_unfetched early
    rw [batch_afterCall_self, trials_afterCall]
    exact sound.unfetched run _ was_running rfl
  · rw [answered.hasFetched] at early
    cases early

theorem Moved.committed_other {fleet after : Fleet} {move : Move} (moved : Moved fleet move after)
    {run : Nat} (foreign : move.run? ≠ some run) :
    run ∈ after.committed ↔ run ∈ fleet.committed := by
  cases moved with
  | @called caller _ _ _ iteration next store running called =>
      have different : run ≠ caller := by
        rintro rfl
        exact foreign rfl
      simp only [afterCall]
      split
      · simp [different]
      · rfl
  | _ => rfl

theorem Moved.committed {fleet after : Fleet} {move : Move} (moved : Moved fleet move after)
    (sound : fleet.Sound) (run : Nat) :
    run ∈ after.committed ↔ ∃ report, after.iterations run = some (.ended (.ok report)) := by
  by_cases own : move.run? = some run
  · have before := sound.committed run
    cases moved with
    | nothing => exact before
    | requested change => cases own
    | @called caller _ _ _ iteration next store running called =>
        cases own
        simp only [running, Option.some.injEq] at before
        simp only [afterCall, Function.update_self, Option.some.injEq]
        rw [called.reports_iff, ← before]
        by_cases commits : iteration.commits next = true
        · simp [commits]
        · simp [commits]
    | @answered caller _ tx attempts message waiting next running answered =>
        cases own
        simp only [running, Option.some.injEq, reduceCtorEq, exists_false, iff_false] at before
        simp only [afterAnswer, Function.update_self, Option.some.injEq]
        refine iff_of_false before ?_
        rintro ⟨report, rfl⟩
        simpa [Iteration.transaction?] using answered.transaction?
    | withdrawn running =>
        cases own
        simpa [without, running] using before
    | abandoned opened =>
        cases own
        simp only [without, Function.update_self, reduceCtorEq, exists_false, iff_false]
        rw [before]
        rintro ⟨report, ended⟩
        simp [transaction?_of_running ended, Iteration.transaction?] at opened
  · rw [moved.committed_other own, (moved.others own).1]
    exact sound.committed run

theorem Moved.committed_distinct {fleet after : Fleet} {move : Move}
    (moved : Moved fleet move after) (sound : fleet.Sound) : after.committed.Nodup := by
  cases moved with
  | @called caller _ _ _ iteration next store running called =>
      simp only [afterCall]
      split
      · rename_i commits
        obtain ⟨⟨tx, report, rfl⟩, _⟩ := Iteration.commits_cases commits
        have new : caller ∉ fleet.committed := by
          rw [sound.committed caller, running]
          simp
        have extended := sound.committed_distinct.concat new
        simpa using extended
      · exact sound.committed_distinct
  | _ => exact sound.committed_distinct

theorem Moved.sound {fleet after : Fleet} {move : Move} (moved : Moved fleet move after)
    (sound : fleet.Sound) : after.Sound where
  sessions := by
    cases moved with
    | nothing => exact sound.sessions
    | requested change => exact change.sound sound.sessions
    | called running called => exact Sessions.sound_later sound.sessions called.older
    | answered => exact sound.sessions
    | withdrawn => exact sound.sessions
    | abandoned => exact Sessions.sound_later sound.sessions (Store.older_release _ _)
  lawful := fun _ _ opened => moved.lawful sound opened
  apart := fun _ _ _ _ opened other_opened same => moved.apart sound opened other_opened same
  single := by
    cases moved with
    | requested change => exact change.single sound.single
    | called running called => exact called.single sound.single
    | abandoned => exact Store.oneLockEach_release sound.single _
    | _ => exact sound.single
  held := fun _ member => moved.held sound member
  pending := fun _ _ running => moved.pending sound running
  unfetched := fun _ _ running early => moved.unfetched sound running early
  committed := moved.committed sound
  committed_distinct := moved.committed_distinct sound

theorem sound_step {fleet : Fleet} (sound : fleet.Sound) (move : Move) :
    (fleet.step move).Sound :=
  (step_moved sound move).sound sound

theorem sound_run (home : StoreId) (moves : List Move) : (run home moves).Sound := by
  induction moves using List.reverseRecOn with
  | nil => exact sound_empty home
  | append_singleton past move ih =>
      rw [run_concat]
      exact sound_step ih move

theorem run_moved (home : StoreId) (past : List Move) (move : Move) :
    Moved (run home past) move (run home (past ++ [move])) := by
  rw [run_concat]
  exact step_moved (sound_run home past) move

/-! ## What a move leaves to the others -/

theorem Moved.locksOf_other {fleet after : Fleet} {move : Move} (moved : Moved fleet move after)
    (sound : fleet.Sound) {run number : Nat} (own : move.run? = some run)
    (foreign : ∀ tx, fleet.transaction? run = some tx → tx.number ≠ number) :
    after.store.locksOf number = fleet.store.locksOf number := by
  cases moved with
  | requested change => cases own
  | @called caller _ _ _ iteration next store running called =>
      cases own
      have opened := transaction?_of_running running
      refine called.locksOf_other sound.single ?_ ?_
      · intro tx held
        exact (sound.lawful run tx (opened.trans held)).2.1
      · intro tx held
        exact foreign tx (opened.trans held)
  | @abandoned caller tx opened =>
      cases own
      exact Store.locksOf_release (Ne.symm (foreign tx opened))
  | _ => rfl

/-- What others do leaves a row with the iteration that holds it, unless the row is fetched by
somebody who has created a row under the same id himself. -/
theorem Moved.owner_kept {fleet after : Fleet} {move : Move} (moved : Moved fleet move after)
    (sound : fleet.Sound) {run : Nat} {tx : Transaction}
    (opened : fleet.transaction? run = some tx) (foreign : move.run? ≠ some run) {id : Uuid}
    (held : fleet.store.owner? id = some tx.number) :
    after.store.owner? id = some tx.number ∨
      ∃ number limit other, move = .request (.fetch number limit) ∧
        fleet.sessions.handles number = some other ∧ id ∈ other.inserts.map Message.id := by
  have single := (moved.sound sound).single
  cases mover : move.run? with
  | some caller =>
      refine Or.inl ?_
      rw [Store.owner?_eq_some_iff_mem_locksOf sound.single] at held
      rw [Store.owner?_eq_some_iff_mem_locksOf single, moved.locksOf_other sound mover ?_]
      · exact held
      · intro otherTx other_opened same
        have own := sound.apart caller run otherTx tx other_opened opened same
        exact foreign (own ▸ mover)
  | none =>
      cases moved with
      | nothing => exact Or.inl held
      | requested change =>
          rcases change.owner_kept sound.sessions held (sound.lawful run tx opened).2.2 with
            kept | ⟨number, limit, other, rfl, other_opened, created⟩
          · exact Or.inl kept
          · exact Or.inr ⟨number, limit, other, rfl, other_opened, created⟩
      | _ => cases mover

theorem Moved.committed_subset {fleet after : Fleet} {move : Move}
    (moved : Moved fleet move after) {run : Nat} (committed : run ∈ fleet.committed) :
    run ∈ after.committed := by
  cases moved with
  | called running called =>
      simp only [afterCall]
      split
      · exact List.mem_append_left _ committed
      · exact committed
  | _ => exact committed

/-- An iteration that is over claims nothing more. -/
theorem Moved.batch_of_closed {fleet after : Fleet} {move : Move} (moved : Moved fleet move after)
    {run : Nat} (closed : after.transaction? run = none) : after.batch run = fleet.batch run := by
  by_cases own : move.run? = some run
  · cases moved with
    | @called caller _ _ _ iteration next store running called =>
        cases own
        rw [transaction?_afterCall, if_pos rfl] at closed
        rw [batch_afterCall_self]
        cases iteration with
        | fetching tx =>
            cases called with
            | failed => cases closed
            | fetched =>
                rw [Iteration.transaction?_publishNext] at closed
                cases closed
            | idle => cases closed
        | _ => rfl
    | answered running answered => exact batch_afterAnswer _ _ _ _ _
    | _ => rfl
  · exact moved.batch_other own

/-! ## Histories -/

/-- Whatever every move preserves is still there at a later point of a history. -/
theorem run_kept {property : Fleet → Prop}
    (kept : ∀ fleet move after, fleet.Sound → Moved fleet move after → property fleet →
      property after)
    (home : StoreId) (past future : List Move) (holds : property (run home past)) :
    property (run home (past ++ future)) := by
  induction future using List.reverseRecOn with
  | nil => simpa using holds
  | append_singleton before move ih =>
      rw [← List.append_assoc]
      exact kept _ move _ (sound_run home _) (run_moved home _ move) ih

end Fleet

end Outbox.Publisher
