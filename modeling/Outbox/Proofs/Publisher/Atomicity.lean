import Outbox.Proofs.Publisher.Fleet

/-!
# Iterations that fail

An iteration fails if it ends with an error or is abandoned before its end.  It has then changed no
committed row and nothing that others hold, all its locks are given back, and its error is the one
of the call that failed, whatever its rollback was answered.  The rows that it had claimed are free
for the next iteration; the one exception is a row that somebody else had created under the same id
and fetched as a new row of his own meanwhile.
-/

set_option autoImplicit false

namespace Outbox.Publisher

open Time (Instant)

/-! ## What one call leaves as it was -/

namespace Iteration

/-- An iteration fails if its next call fails: every call to the store but the rollback. -/
def isAtRisk : Iteration → Bool
  | .starting => true
  | .fetching _ => true
  | .savingProcessed _ _ => true
  | .savingFailed _ _ => true
  | .committing _ _ => true
  | _ => false

/-- The error of an iteration after a call is the one from before, or the injected one. -/
theorem Called.error_iff {batchSize : Nat} {now : Instant} {store later : Store}
    {injected : Option Error} {iteration next : Iteration}
    (called : Called batchSize now store injected iteration next later) (error : Error) :
    next.error? = some error ↔
      iteration.error? = some error ∨ (injected = some error ∧ iteration.isAtRisk = true) := by
  cases called with
  | refused => simp [error?, isAtRisk]
  | begun => simp [error?]
  | @failed _ tx failure working =>
      cases iteration with
      | fetching => simp [error?, isAtRisk]
      | savingProcessed => simp [error?, isAtRisk]
      | savingFailed => simp [error?, isAtRisk]
      | _ => simp [working?] at working
  | fetched =>
      rw [error?_publishNext]
      simp [error?]
  | savedProcessed =>
      rw [error?_afterProcessed]
      simp [error?]
  | savedFailed => simp [error?]
  | uncommitted => simp [error?, isAtRisk]
  | committed => simp [error?]
  | undone => simp [error?, isAtRisk]
  | idle injected iteration uncalled =>
      cases iteration with
      | publishing => simp [isAtRisk]
      | ended => simp [isAtRisk]
      | starting => exact absurd rfl (uncalled _)
      | fetching => exact absurd rfl (uncalled _)
      | savingProcessed => exact absurd rfl (uncalled _)
      | savingFailed => exact absurd rfl (uncalled _)
      | committing => exact absurd rfl (uncalled _)
      | undoing => exact absurd rfl (uncalled _)

theorem Called.failing {batchSize : Nat} {now : Instant} {store later : Store}
    {injected : Option Error} {iteration next : Iteration}
    (called : Called batchSize now store injected iteration next later) {error : Error}
    (ended : next = .ended (.error error)) (working : iteration ≠ .ended (.error error)) :
    iteration = .starting ∨
      ∃ tx, iteration.transaction? = some tx ∧ later = store.release tx.number := by
  cases called with
  | refused other => exact Or.inl rfl
  | fetched tx =>
      have still := congrArg Iteration.transaction? ended
      rw [transaction?_publishNext] at still
      cases still
  | savedProcessed tx attempts =>
      have still := congrArg Iteration.transaction? ended
      rw [transaction?_afterProcessed] at still
      cases still
  | uncommitted tx report other => exact Or.inr ⟨tx, rfl, rfl⟩
  | undone injected tx other => exact Or.inr ⟨tx, rfl, rfl⟩
  | idle => exact absurd ended working
  | _ => cases ended

end Iteration

namespace Fleet

/-- An iteration has failed: it was abandoned before its end, or it has ended with an error. -/
def Failed (fleet : Fleet) (run : Nat) : Prop :=
  fleet.iterations run = none ∨ ∃ error, fleet.iterations run = some (.ended (.error error))

/-- The committed rows, and everything that others than an iteration hold or have staged, are as
before. -/
structure Unaffected (run : Nat) (before after : Fleet) : Prop where
  rows : after.store.rows = before.store.rows
  handles : after.sessions.handles = before.sessions.handles
  iterations : ∀ other, other ≠ run → after.iterations other = before.iterations other
  locks : ∀ number, (∀ tx, before.transaction? run = some tx → tx.number ≠ number) →
    after.store.locksOf number = before.store.locksOf number

theorem Moved.unaffected {fleet after : Fleet} {move : Move} (moved : Moved fleet move after)
    (sound : fleet.Sound) {run : Nat} (own : move.run? = some run)
    (uncommitted : run ∉ after.committed) : Unaffected run fleet after where
  rows := by
    cases moved with
    | requested change => cases own
    | called running called =>
        cases own
        apply called.rows_of_uncommitted
        by_contra commits
        rw [Bool.not_eq_false] at commits
        exact uncommitted (by simp [afterCall, commits])
    | _ => rfl
  handles := by
    cases moved with
    | requested change => cases own
    | _ => rfl
  iterations := by
    intro other different
    refine (moved.others ?_).1
    rw [own, ne_eq, Option.some.injEq]
    exact Ne.symm different
  locks := fun _ foreign => moved.locksOf_other sound own foreign

/-! ## Numbers that are used up -/

/-- A number was given to a transaction that has ended. -/
def Closed (fleet : Fleet) (number : Nat) : Prop :=
  number ≤ fleet.store.begun ∧ fleet.sessions.handles number = none ∧
    ∀ run tx, fleet.transaction? run = some tx → tx.number ≠ number

theorem Moved.closed {fleet after : Fleet} {move : Move} (moved : Moved fleet move after)
    {number : Nat} (closed : fleet.Closed number) : after.Closed number := by
  obtain ⟨bounded, unhandled, unused⟩ := closed
  refine ⟨Nat.le_trans bounded moved.older.begun, ?_, ?_⟩
  · by_contra found
    rcases moved.handle_origin (Option.isSome_iff_ne_none.mpr found) with earlier | next
    · simp [unhandled] at earlier
    · omega
  · intro run tx opened
    rcases moved.number_origin opened with ⟨old, old_opened, same⟩ | ⟨_, next, _⟩
    · rw [← same]
      exact unused run old old_opened
    · omega

theorem Moved.number_kept {fleet after : Fleet} {move : Move} (moved : Moved fleet move after)
    (sound : fleet.Sound) {run : Nat} {tx : Transaction}
    (opened : fleet.transaction? run = some tx) :
    (∃ later, after.transaction? run = some later ∧ later.number = tx.number) ∨
      after.Closed tx.number := by
  cases after_move : after.transaction? run with
  | some later =>
      rcases moved.number_origin after_move with ⟨old, old_opened, same⟩ | ⟨closed, _⟩
      · rw [opened, Option.some.injEq] at old_opened
        exact Or.inl ⟨later, rfl, by rw [old_opened, same]⟩
      · simp [opened] at closed
  | none =>
      have bounded := sound.number_le opened
      refine Or.inr ⟨Nat.le_trans bounded moved.older.begun, ?_, ?_⟩
      · by_contra found
        rcases moved.handle_origin (Option.isSome_iff_ne_none.mpr found) with earlier | next
        · simp [(sound.lawful run tx opened).2.2] at earlier
        · omega
      · intro other otherTx other_opened same
        rcases moved.number_origin other_opened with ⟨old, old_opened, number⟩ | ⟨_, next, _⟩
        · have own := sound.apart other run old tx old_opened opened (number.trans same)
          rw [own, after_move] at other_opened
          cases other_opened
        · omega

theorem Closed.unlocked {fleet : Fleet} (sound : fleet.Sound) {number : Nat}
    (closed : fleet.Closed number) : fleet.store.locksOf number = [] := by
  obtain ⟨_, unhandled, unused⟩ := closed
  simp only [Store.locksOf, List.filter_eq_nil_iff, decide_eq_true_eq]
  rintro lock member rfl
  rcases sound.held lock member with handled | ⟨run, tx, opened, own⟩
  · simp [unhandled] at handled
  · exact unused run tx opened own.symm

/-! ## Claimed rows stay claimed -/

/-- A row that an iteration had claimed was fetched by somebody else who had created a row under the
same id and not committed it. -/
def Seized (home : StoreId) (history : List Move) (run : Nat) (id : Uuid) : Prop :=
  ∃ before number limit after tx,
    history = before ++ .request (.fetch number limit) :: after ∧
    (Fleet.run home before).sessions.handles number = some tx ∧ id ∈ tx.inserts.map Message.id ∧
    id ∈ ((Fleet.run home before).batch run).map Message.id

theorem Seized.later {home : StoreId} {history : List Move} {run : Nat} {id : Uuid}
    (seized : Seized home history run id) (move : Move) :
    Seized home (history ++ [move]) run id := by
  obtain ⟨before, number, limit, after, tx, split, rest⟩ := seized
  exact ⟨before, number, limit, after ++ [move], tx, by simp [split], rest⟩

/-- The rows that an iteration has claimed are held by its transaction after a call if they were
before, and so are those that the call claims. -/
theorem owner?_of_called {batchSize : Nat} {now : Instant} {store later : Store}
    {injected : Option Error} {iteration next : Iteration}
    (called : Iteration.Called batchSize now store injected iteration next later)
    (journal : Journal) (early : iteration.hasFetched = false → journal.batch = [])
    {lost : Uuid → Prop}
    (held : ∀ tx, iteration.transaction? = some tx → ∀ id ∈ journal.batch.map Message.id,
      store.owner? id = some tx.number ∨ lost id)
    {tx : Transaction} (opened : next.transaction? = some tx) :
    ∀ id ∈ (journal.called iteration next).batch.map Message.id,
      later.owner? id = some tx.number ∨ lost id := by
  intro id claimed
  rcases called.batch_cases early opened with
    empty | ⟨_, fetched, rfl⟩ | ⟨old, old_opened, same, rfl, kept⟩
  · rw [empty] at claimed
    cases claimed
  · rw [fetched] at claimed
    rw [Store.owner?_claimAll, if_pos claimed]
    exact Or.inl rfl
  · rw [kept] at claimed
    rw [← same]
    exact held old old_opened id claimed

theorem claimed_held (home : StoreId) (history : List Move) (run : Nat) :
    ∀ tx, (Fleet.run home history).transaction? run = some tx →
      ∀ id ∈ ((Fleet.run home history).batch run).map Message.id,
        (Fleet.run home history).store.owner? id = some tx.number ∨
          Seized home history run id := by
  induction history using List.reverseRecOn with
  | nil =>
      intro tx opened
      cases opened
  | append_singleton past move ih =>
      intro tx opened id claimed
      have sound := sound_run home past
      have moved := run_moved home past move
      generalize Fleet.run home (past ++ [move]) = after at *
      obtain ⟨next, running, next_opened⟩ := iteration_of_transaction opened
      rcases moved.iteration_cases running with
        foreign | ⟨rfl, _⟩ | ⟨_, _, _, iteration, store, _, was_running, called, rfl⟩ |
        ⟨_, _, _, message, _, _, was_running, answered, rfl⟩
      · rw [moved.transaction?_other foreign] at opened
        rw [moved.batch_other foreign] at claimed
        rcases ih tx opened id claimed with held | seized
        · rcases moved.owner_kept sound opened foreign held with
            kept | ⟨number, limit, other, rfl, other_opened, created⟩
          · exact Or.inl kept
          · exact Or.inr ⟨past, number, limit, [], other, rfl, other_opened, created, claimed⟩
        · exact Or.inr (seized.later move)
      · rcases ih tx opened id claimed with held | seized
        · exact Or.inl held
        · exact Or.inr (seized.later move)
      · rw [batch_afterCall_self] at claimed
        refine owner?_of_called called _ ?_ ?_ next_opened id claimed
        · intro early
          exact (sound.unfetched run iteration was_running early).1
        · intro old old_opened other other_claimed
          have before := (transaction?_of_running was_running).trans old_opened
          rcases ih old before other other_claimed with held | seized
          · exact Or.inl held
          · exact Or.inr (seized.later move)
      · rw [answered.transaction?, ← transaction?_of_running was_running] at next_opened
        rw [batch_afterAnswer] at claimed
        rcases ih tx next_opened id claimed with held | seized
        · exact Or.inl held
        · exact Or.inr (seized.later move)

/-- An iteration that has not begun yet had not begun before. -/
theorem Moved.starting {fleet after : Fleet} {move : Move} (moved : Moved fleet move after)
    {run : Nat} (running : after.iterations run = some .starting) :
    fleet.iterations run = some .starting := by
  rcases moved.iteration_cases running with
    foreign | ⟨rfl, _⟩ | ⟨_, _, _, _, _, _, was_running, called, _⟩ |
    ⟨_, _, _, _, _, _, _, answered, _⟩
  · rw [(moved.others foreign).1] at running
    exact running
  · exact running
  · obtain rfl := called.starting_of_unfetched rfl
    exact was_running
  · cases answered.hasFetched

/-- Nobody seizes a row of an iteration that works alone from its beginning on. -/
theorem not_seized_of_alone (home : StoreId) (before own : List Move) {run : Nat}
    (starting : (Fleet.run home before).iterations run = some .starting)
    (alone : ∀ move ∈ own, move.run? = some run) (id : Uuid) :
    ¬ Seized home (before ++ own) run id := by
  rintro ⟨earlier, number, limit, later, tx, split, _, _, claimed⟩
  rcases List.append_eq_append_iff.mp split with ⟨middle, _, rest⟩ | ⟨middle, rfl, _⟩
  · have fetched : Move.request (.fetch number limit) ∈ own := by simp [rest]
    cases alone _ fetched
  · have already : (Fleet.run home earlier).iterations run = some .starting := by
      by_contra begun
      have kept (fleet : Fleet) (move : Move) (after : Fleet) (_ : fleet.Sound)
          (moved : Moved fleet move after) (begun : fleet.iterations run ≠ some .starting) :
          after.iterations run ≠ some .starting := by
        intro running
        exact begun (moved.starting running)
      exact run_kept kept home earlier middle begun starting
    rw [((sound_run home earlier).unfetched run _ already rfl).1] at claimed
    cases claimed

/-! ## How an iteration fails -/

theorem transaction?_of_failed {fleet : Fleet} {run : Nat} (failed : fleet.Failed run) :
    fleet.transaction? run = none := by
  rcases failed with gone | ⟨error, ended⟩
  · simp [transaction?, gone]
  · exact transaction?_of_running ended

/-- The move by which an iteration fails gives its locks back, if it has claimed anything. -/
theorem Moved.failing {fleet after : Fleet} {move : Move} (moved : Moved fleet move after)
    (sound : fleet.Sound) {run : Nat} (working : ¬ fleet.Failed run) (failed : after.Failed run) :
    fleet.batch run = [] ∨
      ∃ tx, fleet.transaction? run = some tx ∧ after.store = fleet.store.release tx.number := by
  by_cases own : move.run? = some run
  · cases moved with
    | nothing => exact absurd failed working
    | requested change => cases own
    | @called _ _ _ _ iteration _ _ running called =>
        cases own
        simp only [Failed, afterCall, Function.update_self, Option.some.injEq, reduceCtorEq,
          false_or] at failed
        obtain ⟨error, ended⟩ := failed
        have not_ended : iteration ≠ .ended (.error error) := by
          rintro rfl
          exact working (Or.inr ⟨error, running⟩)
        rcases called.failing ended not_ended with rfl | ⟨tx, opened, released⟩
        · exact Or.inl (sound.unfetched run _ running rfl).1
        · exact Or.inr ⟨tx, (transaction?_of_running running).trans opened, released⟩
    | answered running answered =>
        cases own
        have closed := transaction?_of_failed failed
        rw [transaction?_afterAnswer, if_pos rfl, answered.transaction?] at closed
        cases closed
    | withdrawn running =>
        cases own
        exact Or.inl (sound.unfetched run _ running rfl).1
    | abandoned opened =>
        cases own
        exact Or.inr ⟨_, opened, rfl⟩
  · rw [Failed, (moved.others own).1] at failed
    exact absurd failed working

/-! ## The error of an iteration -/

/-- A call of an iteration failed with an error, and it was not its rollback. -/
def FailedCall (home : StoreId) (history : List Move) (run : Nat) (error : Error) : Prop :=
  ∃ before batchSize now after iteration,
    history = before ++ .call run batchSize now (some error) :: after ∧
    (Fleet.run home before).iterations run = some iteration ∧ iteration.isAtRisk = true

theorem failedCall_concat (home : StoreId) (past : List Move) (move : Move) (run : Nat)
    (error : Error) :
    FailedCall home (past ++ [move]) run error ↔
      FailedCall home past run error ∨
        ∃ batchSize now iteration, move = .call run batchSize now (some error) ∧
          (Fleet.run home past).iterations run = some iteration ∧ iteration.isAtRisk = true := by
  constructor
  · rintro ⟨before, batchSize, now, after, iteration, split, running, risk⟩
    rcases List.eq_nil_or_concat after with rfl | ⟨rest, last, rfl⟩
    · obtain ⟨rfl, same⟩ := List.append_inj' split rfl
      cases same
      exact Or.inr ⟨batchSize, now, iteration, rfl, running, risk⟩
    · rw [List.concat_eq_append, ← List.cons_append, ← List.append_assoc] at split
      obtain ⟨rfl, _⟩ := List.append_inj' split rfl
      exact Or.inl ⟨before, batchSize, now, rest, iteration, rfl, running, risk⟩
  · rintro (⟨before, batchSize, now, after, iteration, rfl, running, risk⟩ |
      ⟨batchSize, now, iteration, rfl, running, risk⟩)
    · exact ⟨before, batchSize, now, after ++ [move], iteration, by simp, running, risk⟩
    · exact ⟨past, batchSize, now, [], iteration, rfl, running, risk⟩

theorem error_iff_failedCall (home : StoreId) (history : List Move) (run : Nat) :
    ∀ iteration, (Fleet.run home history).iterations run = some iteration →
      ∀ error, FailedCall home history run error ↔ iteration.error? = some error := by
  induction history using List.reverseRecOn with
  | nil =>
      intro iteration running error
      cases running
      refine iff_of_false ?_ (by simp [Iteration.error?])
      rintro ⟨before, batchSize, now, after, iteration, split, _⟩
      simp at split
  | append_singleton past move ih =>
      intro iteration running error
      rw [failedCall_concat]
      have moved := run_moved home past move
      generalize after_eq : Fleet.run home (past ++ [move]) = after at running moved
      -- Only a call of the iteration itself can be the call that failed.
      have of_kept (kept : (Fleet.run home past).iterations run = some iteration)
          (uncalled : ∀ batchSize now injected, move ≠ .call run batchSize now injected) :
          (FailedCall home past run error ∨
            ∃ batchSize now iteration, move = .call run batchSize now (some error) ∧
              (Fleet.run home past).iterations run = some iteration ∧
              iteration.isAtRisk = true) ↔ iteration.error? = some error := by
        rw [ih iteration kept error]
        constructor
        · rintro (earlier | ⟨batchSize, now, _, same, _⟩)
          · exact earlier
          · exact absurd same (uncalled batchSize now _)
        · exact Or.inl
      rcases moved.iteration_cases running with
        foreign | ⟨rfl, uncalled⟩ |
        ⟨batchSize, now, injected, before, _, rfl, was_running, called, _⟩ |
        ⟨_, _, _, _, _, rfl, was_running, answered, _⟩
      · rw [(moved.others foreign).1] at running
        apply of_kept running
        rintro batchSize now injected rfl
        exact foreign rfl
      · exact of_kept running uncalled
      · rw [ih before was_running error, called.error_iff error]
        constructor
        · rintro (earlier | ⟨_, _, other, same, found, risk⟩)
          · exact Or.inl earlier
          · cases same
            rw [was_running, Option.some.injEq] at found
            exact Or.inr ⟨rfl, found ▸ risk⟩
        · rintro (earlier | ⟨rfl, risk⟩)
          · exact Or.inl earlier
          · exact Or.inr ⟨batchSize, now, before, rfl, was_running, risk⟩
      · rw [ih _ was_running error, answered.error?]
        simp [Iteration.error?]

/-! ## The next iteration -/

/-- What an iteration claims that begins and fetches without errors and without anything in
between. -/
theorem batch_of_next {fleet : Fleet} {next : Nat}
    (running : fleet.iterations next = some .starting) (batchSize : Nat)
    (begins fetches : Instant) :
    ((fleet.step (.call next batchSize begins none)).step
        (.call next batchSize fetches none)).batch next =
      fleet.store.batch { home := fleet.store.id, number := fleet.store.begun + 1 } batchSize := by
  have begun : fleet.step (.call next batchSize begins none) =
      fleet.afterCall next .starting
        (.fetching { home := fleet.store.id, number := fleet.store.begun + 1 })
        { fleet.store with begun := fleet.store.begun + 1 } := by
    simp [step, running, Iteration.perform, Store.begin]
  have owned : Store.owns { fleet.store with begun := fleet.store.begun + 1 }
      { home := fleet.store.id, number := fleet.store.begun + 1 } = true := by
    simp [Store.owns]
  have fetching : (fleet.afterCall next .starting
      (.fetching { home := fleet.store.id, number := fleet.store.begun + 1 })
      { fleet.store with begun := fleet.store.begun + 1 }).iterations next =
      some (.fetching { home := fleet.store.id, number := fleet.store.begun + 1 }) := by
    simp [afterCall]
  have same_store : (fleet.afterCall next .starting
      (.fetching { home := fleet.store.id, number := fleet.store.begun + 1 })
      { fleet.store with begun := fleet.store.begun + 1 }).store =
      { fleet.store with begun := fleet.store.begun + 1 } :=
    rfl
  rw [begun]
  simp only [step, fetching, same_store, Iteration.perform, Store.fetch_eq owned]
  simp only [batch, afterCall, Function.update_self, Journal.called,
    Iteration.untried_publishNext]
  rfl

/-! ## No trace is left -/

/-- What an iteration leaves behind that has just failed. -/
structure NoTrace (home : StoreId) (history : List Move) (run : Nat) : Prop where
  /-- Each of its moves changed no committed row and nothing that others hold or have staged. -/
  unaffected : ∀ before move after, history = before ++ move :: after → move.run? = some run →
    Unaffected run (Fleet.run home before) (Fleet.run home (before ++ [move]))
  /-- No lock is left of the transaction that it had at any time. -/
  unlocked : ∀ before after tx, history = before ++ after →
    (Fleet.run home before).transaction? run = some tx →
    (Fleet.run home history).store.locksOf tx.number = []
  /-- An iteration that follows at once, without errors and with a sufficient batch size, claims all
  rows that this one had claimed and that are pending, unless somebody has seized them meanwhile. -/
  refetched : ∀ next batchSize begins fetches,
    (Fleet.run home history).iterations next = some .starting →
    (Fleet.run home history).store.rows.countP Message.isPending ≤ batchSize →
    ∀ row ∈ (Fleet.run home history).store.rows, row.isPending = true →
      row.id ∈ ((Fleet.run home history).batch run).map Message.id →
      ¬ Seized home history run row.id →
      row ∈ (Fleet.run home (history ++ [.call next batchSize begins none,
        .call next batchSize fetches none])).batch next
  /-- Nobody has if the iteration worked alone, whatever others had in hand. -/
  unseized : ∀ before own, history = before ++ own →
    (Fleet.run home before).iterations run = some .starting →
    (∀ move ∈ own, move.run? = some run) → ∀ id, ¬ Seized home history run id
  /-- Its error is that of the one call, other than its rollback, that failed. -/
  error : ∀ error, (Fleet.run home history).iterations run = some (.ended (.error error)) →
    ∀ other, FailedCall home history run other ↔ other = error

/-- The number of an iteration's transaction is still its own at a later point of the history, or is
used up. -/
theorem number_fate (home : StoreId) (past future : List Move) {run : Nat} {tx : Transaction}
    (opened : (Fleet.run home past).transaction? run = some tx) :
    (∃ later, (Fleet.run home (past ++ future)).transaction? run = some later ∧
      later.number = tx.number) ∨
    (Fleet.run home (past ++ future)).Closed tx.number := by
  refine @run_kept (fun fleet => (∃ later, fleet.transaction? run = some later ∧
    later.number = tx.number) ∨ fleet.Closed tx.number) ?_ home past future
    (Or.inl ⟨tx, opened, rfl⟩)
  intro fleet move after sound moved fate
  rcases fate with ⟨later, still_opened, same⟩ | closed
  · rw [← same]
    exact moved.number_kept sound still_opened
  · exact Or.inr (moved.closed closed)

/-- A row that an iteration had claimed is free as soon as the iteration fails. -/
theorem unowned_of_failed (home : StoreId) (past : List Move) (last : Move) (run : Nat)
    (working : ¬ (Fleet.run home past).Failed run)
    (failed : (Fleet.run home (past ++ [last])).Failed run) {id : Uuid}
    (claimed : id ∈ ((Fleet.run home (past ++ [last])).batch run).map Message.id)
    (unseized : ¬ Seized home (past ++ [last]) run id) :
    (Fleet.run home (past ++ [last])).store.owner? id = none := by
  have sound := sound_run home past
  have moved := run_moved home past last
  rw [moved.batch_of_closed (transaction?_of_failed failed)] at claimed
  rcases moved.failing sound working failed with empty | ⟨tx, opened, released⟩
  · rw [empty] at claimed
    cases claimed
  · rcases claimed_held home past run tx opened id claimed with held | seized
    · rw [released]
      exact Store.owner?_release_self sound.single held
    · exact absurd (seized.later last) unseized

/-- Whatever an iteration does until it fails, by an error of any of its calls or because it is
abandoned, and whatever others do meanwhile: it leaves no trace. -/
theorem failed_iteration_leaves_no_trace (home : StoreId) (past : List Move) (last : Move)
    (run : Nat) (working : ¬ (Fleet.run home past).Failed run)
    (failed : (Fleet.run home (past ++ [last])).Failed run) :
    NoTrace home (past ++ [last]) run where
  unaffected := by
    intro before move after split own
    refine (run_moved home before move).unaffected (sound_run home before) own ?_
    intro committed
    have still := run_kept (fun _ _ _ _ moved => moved.committed_subset) home
      (before ++ [move]) after committed
    rw [List.append_assoc, List.singleton_append, ← split] at still
    obtain ⟨report, ended⟩ := ((sound_run home (past ++ [last])).committed run).mp still
    rcases failed with gone | ⟨error, other⟩
    · simp [gone] at ended
    · simp [other] at ended
  unlocked := by
    intro before after tx split opened
    have fate := number_fate home before after opened
    rw [← split] at fate
    rcases fate with ⟨later, still_opened, _⟩ | closed
    · rw [transaction?_of_failed failed] at still_opened
      cases still_opened
    · exact closed.unlocked (sound_run home (past ++ [last]))
  refetched := by
    intro next batchSize begins fetches running enough row member pending claimed unseized
    have unowned := unowned_of_failed home past last run working failed claimed unseized
    have split : past ++ [last] ++ [.call next batchSize begins none,
        .call next batchSize fetches none] =
        past ++ [last] ++ [.call next batchSize begins none] ++
          [.call next batchSize fetches none] := by
      simp
    rw [split, run_concat home (past ++ [last] ++ _), run_concat home (past ++ [last]),
      batch_of_next running]
    exact Store.mem_batch_of_free rfl rfl member pending unowned enough
  unseized := by
    intro before own split starting alone
    rw [split]
    exact not_seized_of_alone home before own starting alone
  error := by
    intro error ended other
    rw [error_iff_failedCall home _ run _ ended other]
    simp [Iteration.error?, eq_comm]

def brokenHistory : List Move :=
  [.request .begin, .request (.create 1 .fruit), .request (.commit 1),
    .call 0 10 .epoch none, .call 0 10 .epoch none, .answer 0 (.ok ()),
    .call 0 10 .epoch (some (.repository "save"))]

/-- The rollback of that iteration fails as well; its error is that of the save, and the row is
claimed again. -/
theorem brokenHistory_leaves_no_trace :
    ¬ (Fleet.run 0 brokenHistory).Failed 0 ∧
    NoTrace 0 (brokenHistory ++ [.call 0 10 .epoch (some (.repository "rollback"))]) 0 ∧
    (Fleet.run 0 (brokenHistory ++
      [.call 0 10 .epoch (some (.repository "rollback"))])).iterations 0 =
        some (.ended (.error (.repository "save"))) ∧
    (Fleet.run 0 (brokenHistory ++ [.call 0 10 .epoch (some (.repository "rollback"))] ++
      [.call 1 1 .epoch none, .call 1 1 .epoch none])).batch 1 = [.fruit] := by
  have opened : (Fleet.run 0 brokenHistory).transaction? 0 ≠ none := by decide
  have working : ¬ (Fleet.run 0 brokenHistory).Failed 0 := by
    intro failed
    exact opened (transaction?_of_failed failed)
  have ended : (Fleet.run 0 (brokenHistory ++
      [.call 0 10 .epoch (some (.repository "rollback"))])).iterations 0 =
        some (.ended (.error (.repository "save"))) := by
    rfl
  exact ⟨working, failed_iteration_leaves_no_trace 0 brokenHistory _ 0 working
    (Or.inr ⟨_, ended⟩), ended, by rfl⟩

end Fleet

end Outbox.Publisher
