import Mathlib.Algebra.GroupWithZero.Nat
import Mathlib.Algebra.Order.BigOperators.Group.List
import Mathlib.Algebra.Order.Group.Nat
import Outbox.Proofs.Publisher.Accounting
import Outbox.Proofs.Simulation.Rounds
import Outbox.Proofs.Store.Fetching

/-!
# Draining a backlog

Rows that fail stay at the head of the table and are fetched again before all others, so a round may
spend its whole batch on them.  What every round uses up is chances: a pending row has as many of
them as it may still have attempts, an attempt takes one or all of them, and a round with a pending
row makes an attempt.  So a backlog of pending rows is gone after three rounds for each of them, for
all batch sizes and all answers of the bus, and every further round finds nothing to do.
-/

set_option autoImplicit false

namespace Outbox

/-! ## Chances -/

namespace Message

/-- How many attempts on a row there can be before it ends. -/
def chances (row : Message) : Nat :=
  if row.isPending then (row.maxRetries.toInt - row.retryCount.toInt).toNat else 0

/-- A row as a service accepts it, or as failed attempts have left it. -/
structure Accepted (row : Message) : Prop where
  limit : row.maxRetries = defaultMaxRetries
  count : row.isPending = true → 0 ≤ row.retryCount ∧ row.retryCount < row.maxRetries

variable {row : Message}

theorem Accepted.count_cases (accepted : row.Accepted) (pending : row.isPending = true) :
    row.retryCount = 0 ∨ row.retryCount = 1 ∨ row.retryCount = 2 := by
  obtain ⟨least, most⟩ := accepted.count pending
  rw [accepted.limit, Int32.lt_iff_toInt_lt] at most
  rw [Int32.le_iff_toInt_le] at least
  have limit : defaultMaxRetries.toInt = 3 := rfl
  have zero : (0 : Int32).toInt = 0 := rfl
  obtain first | second | third :
      row.retryCount.toInt = 0 ∨ row.retryCount.toInt = 1 ∨ row.retryCount.toInt = 2 := by omega
  · exact Or.inl (Int32.toInt_inj.mp first)
  · exact Or.inr (Or.inl (Int32.toInt_inj.mp second))
  · exact Or.inr (Or.inr (Int32.toInt_inj.mp third))

theorem Accepted.chances_le (accepted : row.Accepted) :
    row.chances ≤ if row.isPending then 3 else 0 := by
  unfold chances
  by_cases pending : row.isPending = true
  · rw [if_pos pending, if_pos pending, accepted.limit]
    rcases accepted.count_cases pending with count | count | count <;> rw [count] <;> decide
  · rw [if_neg pending, if_neg pending]

theorem Accepted.chances_pos (accepted : row.Accepted) (pending : row.isPending = true) :
    0 < row.chances := by
  unfold chances
  rw [if_pos pending, accepted.limit]
  rcases accepted.count_cases pending with count | count | count <;> rw [count] <;> decide

theorem chances_processed (row : Message) (moment : Time.Instant) :
    (row.processed moment).chances = 0 :=
  rfl

theorem Accepted.processed (accepted : row.Accepted) (moment : Time.Instant) :
    (row.processed moment).Accepted where
  limit := accepted.limit
  count := by
    intro pending
    cases pending

/-- A failed attempt takes one chance. -/
theorem Accepted.refused (accepted : row.Accepted) (pending : row.isPending = true)
    (reason : String) :
    (row.refused reason).Accepted ∧ (row.refused reason).chances + 1 = row.chances := by
  have limit := accepted.limit
  have counts := accepted.count_cases pending
  rcases row with ⟨id, aggregateId, aggregateType, topic, payload, createdAt, processedAt, status,
    retryCount, maxRetries, lastError, metadata⟩
  cases status with
  | pending =>
      simp only at limit counts
      subst limit
      rcases counts with rfl | rfl | rfl
      · have count : 0 ≤ (0 : Int32) + 1 ∧ (0 : Int32) + 1 < defaultMaxRetries := by decide
        exact ⟨⟨rfl, fun _ => count⟩, rfl⟩
      · have count : 0 ≤ (1 : Int32) + 1 ∧ (1 : Int32) + 1 < defaultMaxRetries := by decide
        exact ⟨⟨rfl, fun _ => count⟩, rfl⟩
      · exact ⟨⟨rfl, fun still_open => by cases still_open⟩, rfl⟩
  | processed => cases pending
  | failed => cases pending

end Message

/-- A store that nobody works on, with rows that a service has accepted. -/
structure Store.Backlog (store : Store) : Prop where
  distinct : (store.rows.map Message.id).Nodup
  accepted : ∀ row ∈ store.rows, row.Accepted
  unlocked : store.locks = []

theorem Store.Backlog.orderly {store : Store} (backlog : store.Backlog) : store.Orderly where
  distinct := backlog.distinct
  begun := by simp [backlog.unlocked]

namespace Store

def pendingCount (store : Store) : Nat :=
  store.rows.countP Message.isPending

def chances (store : Store) : Nat :=
  (store.rows.map Message.chances).sum

theorem Backlog.chances_le {store : Store} (backlog : store.Backlog) :
    store.chances ≤ 3 * store.pendingCount := by
  have bounds := fun row member => (backlog.accepted row member).chances_le
  unfold chances pendingCount
  generalize store.rows = rows at bounds
  induction rows with
  | nil => rfl
  | cons row rest ih =>
      have first := bounds row (List.mem_cons_self ..)
      have others := ih fun other member => bounds other (List.mem_cons_of_mem _ member)
      rw [List.map_cons, List.sum_cons, List.countP_cons]
      split at first
      · rename_i pending
        rw [if_pos pending]
        omega
      · rename_i ended
        rw [if_neg ended]
        omega

end Store

namespace Publisher

/-! ## One round -/

def Journal.tries (journal : Journal) (id : Uuid) : Nat :=
  (journal.trials.map fun trial => trial.message.id).count id

theorem Journal.tries_eq (journal : Journal)
    (distinct : (journal.trials.map fun trial => trial.message.id).Nodup) (id : Uuid) :
    journal.tries id = if (journal.trial? id).isSome then 1 else 0 := by
  have found : id ∈ journal.trials.map (fun trial => trial.message.id) ↔
      (journal.trial? id).isSome = true := by
    simp [Journal.trial?, List.find?_isSome]
  rw [Journal.tries, distinct.count]
  simp only [found]

section Round
variable {round : Round} {origin : Store} {solo : Solo}

theorem Completed.part (completed : Completed round origin solo) :
    solo.journal.batch.Sublist origin.rows := by
  rw [completed.batch]
  exact (List.take_sublist _ _).trans List.filter_sublist

/-- In a store that nobody has locked rows of, a round tries the first pending rows. -/
theorem Completed.batch_of_unlocked (completed : Completed round origin solo)
    (unlocked : origin.locks = []) :
    solo.journal.batch = origin.pendingRows.take round.batchSize := by
  rw [completed.batch, Store.pendingRows]
  congr 1
  apply List.filter_congr
  intro row _
  simp [Store.isHeldByOther, Store.owner?, unlocked]

theorem Completed.claimed (completed : Completed round origin solo)
    (distinct : (origin.rows.map Message.id).Nodup) : Claimed origin solo.journal.batch := by
  rw [completed.batch]
  exact claimed_of_free _ distinct round.batchSize

theorem Completed.trials_distinct (completed : Completed round origin solo)
    (distinct : (origin.rows.map Message.id).Nodup) :
    (solo.journal.trials.map fun trial => trial.message.id).Nodup :=
  (completed.claimed distinct).trials_distinct completed.tried.symm

/-- An attempt is on a pending row of the store. -/
theorem Completed.row_of_trial (completed : Completed round origin solo)
    (distinct : (origin.rows.map Message.id).Nodup) {row : Message} (member : row ∈ origin.rows)
    {trial : Trial} (found : solo.journal.trial? row.id = some trial) :
    trial.message = row ∧ row.isPending = true :=
  (completed.claimed distinct).row_of_trial distinct completed.tried.symm member found

/-- What a round makes of a row, and which of its chances it uses up. -/
theorem Completed.settled_row (completed : Completed round origin solo)
    (backlog : origin.Backlog) (moment : Time.Instant) {row : Message}
    (member : row ∈ origin.rows) :
    (solo.journal.settled moment row).Accepted ∧
    (solo.journal.settled moment row).chances + solo.journal.tries row.id ≤ row.chances ∧
    (solo.journal.tries row.id = 0 → solo.journal.settled moment row = row) := by
  have accepted := backlog.accepted row member
  rw [Journal.tries_eq _ (completed.trials_distinct backlog.distinct), Journal.settled]
  cases found : solo.journal.trial? row.id with
  | none => exact ⟨accepted, Nat.le_refl _, fun _ => rfl⟩
  | some trial =>
      obtain ⟨same, pending⟩ := completed.row_of_trial backlog.distinct member found
      have left := accepted.chances_pos pending
      rcases trial with ⟨message, error | done⟩
      · cases same
        obtain ⟨still, fewer⟩ := accepted.refused pending error.message
        exact ⟨still, Nat.le_of_eq fewer, by simp⟩
      · cases same
        refine ⟨accepted.processed moment, ?_, by simp⟩
        rw [Option.map_some, Option.getD_some, Trial.outcome, Message.chances_processed]
        simp only [Option.isSome_some, if_true, Nat.zero_add]
        exact left

theorem Completed.backlog (completed : Completed round origin solo) (backlog : origin.Backlog) :
    solo.store.Backlog := by
  obtain ⟨moment, left⟩ := completed.store
  rw [left]
  constructor
  · have same : Message.id ∘ solo.journal.settled moment = Message.id := by
      funext row
      exact solo.journal.id_settled moment row
    simp only [List.map_map, same]
    exact backlog.distinct
  · intro row member
    obtain ⟨old, there, rfl⟩ := List.mem_map.mp member
    exact (completed.settled_row backlog moment there).1
  · exact backlog.unlocked

theorem Completed.tries_of_batch (completed : Completed round origin solo)
    (distinct : (origin.rows.map Message.id).Nodup) {row : Message}
    (member : row ∈ solo.journal.batch) : solo.journal.tries row.id = 1 := by
  rw [← completed.tried] at member
  obtain ⟨trial, tried, rfl⟩ := List.mem_map.mp member
  have found : (solo.journal.trial? trial.message.id).isSome = true := by
    rw [Journal.trial?, List.find?_isSome]
    exact ⟨trial, tried, by simp⟩
  rw [Journal.tries_eq _ (completed.trials_distinct distinct), if_pos found]

theorem Completed.exists_mem_batch (completed : Completed round origin solo)
    (backlog : origin.Backlog) (positive : 0 < round.batchSize) {row : Message}
    (member : row ∈ origin.rows) (pending : row.isPending = true) :
    ∃ tried, tried ∈ solo.journal.batch := by
  have chosen : row ∈ origin.pendingRows := List.mem_filter.mpr ⟨member, pending⟩
  rw [completed.batch_of_unlocked backlog.unlocked]
  apply List.exists_mem_of_length_pos
  rw [List.length_take]
  have some_chosen := List.length_pos_of_mem chosen
  omega

/-- A round with a pending row uses up a chance. -/
theorem Completed.chances_lt (completed : Completed round origin solo) (backlog : origin.Backlog)
    (positive : 0 < round.batchSize) {row : Message} (member : row ∈ origin.rows)
    (pending : row.isPending = true) : solo.store.chances < origin.chances := by
  obtain ⟨tried, claimed⟩ := completed.exists_mem_batch backlog positive member pending
  have there := completed.part.subset claimed
  have once := completed.tries_of_batch backlog.distinct claimed
  obtain ⟨moment, left⟩ := completed.store
  rw [left]
  simp only [Store.chances, List.map_map]
  apply List.sum_lt_sum
  · intro other there
    exact Nat.le_of_add_right_le (completed.settled_row backlog moment there).2.1
  · refine ⟨tried, there, ?_⟩
    have used := (completed.settled_row backlog moment there).2.1
    rw [once] at used
    exact used

/-- A round without a pending row does nothing at all. -/
theorem Completed.idle (completed : Completed round origin solo)
    (ended : ∀ row ∈ origin.rows, row.isPending = false) :
    solo.iteration = .ended (.ok {}) ∧ solo.sent = [] ∧ solo.journal.trials = [] ∧
      solo.store = { origin with begun := origin.begun + 1 } := by
  have nothing : solo.journal.batch = [] := by
    rw [completed.batch]
    have unchosen : (origin.rows.filter fun row =>
        !origin.isHeldByOther origin.begin.1 row.id && row.isPending) = [] := by
      rw [List.filter_eq_nil_iff]
      intro row member
      simp [ended row member]
    rw [unchosen, List.take_nil]
  have untried : solo.journal.trials = [] := by
    rw [← List.map_eq_nil_iff, completed.tried, nothing]
  refine ⟨?_, ?_, untried, ?_⟩
  · rw [completed.result, Journal.attempts, nothing, untried]
    rfl
  · rw [completed.sent, nothing]
    rfl
  · obtain ⟨moment, left⟩ := completed.store
    have same : solo.journal.settled moment = id := by
      funext row
      simp [Journal.settled, Journal.trial?, untried]
    rw [left, same, List.map_id]

end Round

/-! ## Round after round -/

def storeAfter (rounds : Nat → Round) (store : Store) : Nat → Store
  | 0 => store
  | count + 1 => ((rounds count).run (storeAfter rounds store count)).store

/-- The round after that many rounds. -/
def turn (rounds : Nat → Round) (store : Store) (count : Nat) : Solo :=
  (rounds count).run (storeAfter rounds store count)

/-- How often a row was tried in some rounds. -/
def attempts (rounds : Nat → Round) (store : Store) (id : Uuid) : Nat → Nat
  | 0 => 0
  | count + 1 =>
    attempts rounds store id count + (turn rounds store count).journal.tries id

section Rounds
variable {rounds : Nat → Round} {store : Store}

theorem backlog_after (rounds : Nat → Round) (backlog : store.Backlog) (count : Nat) :
    (storeAfter rounds store count).Backlog := by
  induction count with
  | zero => exact backlog
  | succ count ih => exact ((rounds count).run_completed ih.orderly).backlog ih

theorem turn_completed (rounds : Nat → Round) (backlog : store.Backlog) (count : Nat) :
    Completed (rounds count) (storeAfter rounds store count) (turn rounds store count) :=
  (rounds count).run_completed (backlog_after rounds backlog count).orderly

/-- What has become of a row, and how many of its chances are used up. -/
theorem row_after (rounds : Nat → Round) (backlog : store.Backlog) {row : Message}
    (member : row ∈ store.rows) (count : Nat) :
    ∃ later ∈ (storeAfter rounds store count).rows, later.id = row.id ∧
      later.chances + attempts rounds store row.id count ≤ row.chances ∧
      (attempts rounds store row.id count = 0 → later = row) := by
  induction count with
  | zero => exact ⟨row, member, rfl, Nat.le_refl _, fun _ => rfl⟩
  | succ count ih =>
      obtain ⟨later, there, same, used, untried⟩ := ih
      have completed := turn_completed rounds backlog count
      obtain ⟨moment, left⟩ := completed.store
      have settled := completed.settled_row (backlog_after rounds backlog count) moment there
      obtain ⟨_, fewer, kept⟩ := settled
      rw [same] at fewer kept
      refine ⟨(turn rounds store count).journal.settled moment later, ?_, ?_, ?_, ?_⟩
      · change _ ∈ (turn rounds store count).store.rows
        rw [left]
        exact List.mem_map_of_mem there
      · rw [Journal.id_settled, same]
      · rw [attempts]
        omega
      · intro never
        rw [attempts, Nat.add_eq_zero_iff] at never
        rw [kept never.2, untried never.1]

/-- Every round uses up a chance until no pending row is left. -/
theorem chances_after (rounds : Nat → Round) (backlog : store.Backlog)
    (positive : ∀ count, 0 < (rounds count).batchSize) (count : Nat) :
    (storeAfter rounds store count).chances + count ≤ store.chances ∨
      ∀ row ∈ (storeAfter rounds store count).rows, row.isPending = false := by
  induction count with
  | zero => exact Or.inl (Nat.le_refl _)
  | succ count ih =>
      have before := backlog_after rounds backlog count
      have completed := turn_completed rounds backlog count
      -- A store without a pending row stays as it is; any other loses a chance.
      by_cases ended : ∀ row ∈ (storeAfter rounds store count).rows, row.isPending = false
      · refine Or.inr ?_
        change ∀ row ∈ (turn rounds store count).store.rows, row.isPending = false
        rw [(completed.idle ended).2.2.2]
        exact ended
      · refine Or.inl ?_
        simp only [not_forall, Bool.not_eq_false] at ended
        obtain ⟨row, member, pending⟩ := ended
        have fewer := completed.chances_lt before (positive count) member pending
        change (turn rounds store count).store.chances + (count + 1) ≤ store.chances
        rcases ih with used | none_pending
        · omega
        · rw [none_pending row member] at pending
          cases pending

theorem ended_after (rounds : Nat → Round) (backlog : store.Backlog)
    (positive : ∀ count, 0 < (rounds count).batchSize) {count : Nat}
    (enough : 3 * store.pendingCount ≤ count) :
    ∀ row ∈ (storeAfter rounds store count).rows, row.isPending = false := by
  rcases chances_after rounds backlog positive count with used | ended
  · intro row member
    by_contra still_open
    have pending : row.isPending = true := by simpa using still_open
    have left := ((backlog_after rounds backlog count).accepted row member).chances_pos pending
    have part : row.chances ≤ (storeAfter rounds store count).chances :=
      List.le_sum_of_mem (List.mem_map_of_mem member)
    have all := backlog.chances_le
    omega
  · exact ended

/-- What becomes of a backlog, round after round. -/
structure Drained (rounds : Nat → Round) (store : Store) : Prop where
  commits : ∀ count, ∃ report, (turn rounds store count).iteration = .ended (.ok report)
  /-- The attempts are what was sent to the bus. -/
  calls : ∀ count, (turn rounds store count).sent =
    (turn rounds store count).journal.trials.map Trial.letter
  ids : ∀ count, (storeAfter rounds store count).rows.map Message.id = store.rows.map Message.id
  ended : ∀ count, 3 * store.pendingCount ≤ count →
    ∀ row ∈ (storeAfter rounds store count).rows, row.isPending = false
  attempted : ∀ count, 3 * store.pendingCount ≤ count →
    ∀ row ∈ store.rows, row.isPending = true →
      1 ≤ attempts rounds store row.id count ∧ attempts rounds store row.id count ≤ 3
  unattempted : ∀ count, ∀ row ∈ store.rows, row.isPending = false →
    attempts rounds store row.id count = 0
  idle : ∀ count, 3 * store.pendingCount ≤ count →
    (turn rounds store count).iteration = .ended (.ok {}) ∧
    (turn rounds store count).sent = [] ∧
    storeAfter rounds store (count + 1) =
      { storeAfter rounds store count with begun := (storeAfter rounds store count).begun + 1 }

theorem ids_after (rounds : Nat → Round) (backlog : store.Backlog) (count : Nat) :
    (storeAfter rounds store count).rows.map Message.id = store.rows.map Message.id := by
  induction count with
  | zero => rfl
  | succ count ih =>
      obtain ⟨moment, left⟩ := (turn_completed rounds backlog count).store
      change (turn rounds store count).store.rows.map Message.id = _
      rw [left, ← ih, List.map_map]
      congr 1
      funext row
      exact (turn rounds store count).journal.id_settled moment row

theorem drained (rounds : Nat → Round) (backlog : store.Backlog)
    (positive : ∀ count, 0 < (rounds count).batchSize) : Drained rounds store where
  commits := fun count => ⟨_, (turn_completed rounds backlog count).result⟩
  calls := by
    intro count
    have completed := turn_completed rounds backlog count
    rw [completed.sent, ← completed.tried, List.map_map]
    rfl
  ids := ids_after rounds backlog
  ended := fun count enough => ended_after rounds backlog positive enough
  attempted := by
    intro count enough row member pending
    obtain ⟨later, there, _, used, untried⟩ := row_after rounds backlog member count
    have few := (backlog.accepted row member).chances_le
    rw [if_pos pending] at few
    refine ⟨?_, by omega⟩
    -- A row that was never tried would still be as it was, and pending.
    by_contra never
    have same := untried (by omega)
    rw [same] at there
    rw [ended_after rounds backlog positive enough row there] at pending
    cases pending
  unattempted := by
    intro count row member ended
    obtain ⟨later, _, _, used, _⟩ := row_after rounds backlog member count
    have none_left := (backlog.accepted row member).chances_le
    rw [if_neg (by simpa using ended)] at none_left
    omega
  idle := by
    intro count enough
    obtain ⟨ended, silent, _, left⟩ := (turn_completed rounds backlog count).idle
      (ended_after rounds backlog positive enough)
    exact ⟨ended, silent, left⟩

end Rounds

/-! ## Where backlogs come from -/

structure Fleet.Quiet (fleet : Fleet) : Prop where
  sessions : ∀ number, fleet.sessions.handles number = none
  iterations : ∀ run, fleet.transaction? run = none

theorem Accounted.accepted {row : Message} {failures successes : Nat}
    (accounted : Accounted row failures successes) : row.Accepted where
  limit := accounted.limit
  count := by
    intro pending
    have few := (accounted.of_pending pending).2.1
    rw [accounted.count, accounted.limit]
    obtain rfl | rfl | rfl : failures = 0 ∨ failures = 1 ∨ failures = 2 := by omega
    all_goals decide

theorem Fleet.backlog_of_quiet (home : StoreId) (moves : List Move) (produced : Produced moves)
    (quiet : (Fleet.run home moves).Quiet) : (Fleet.run home moves).store.Backlog where
  distinct := (Fleet.books_run home moves produced).producing.distinct
  accepted := fun row member => (Fleet.allAccounted_run home moves produced row member).accepted
  unlocked := by
    rw [List.eq_nil_iff_forall_not_mem]
    intro lock member
    rcases (Fleet.sound_run home moves).held lock member with open_handle | ⟨run, tx, opened, _⟩
    · rw [quiet.sessions] at open_handle
      cases open_handle
    · rw [quiet.iterations] at opened
      cases opened

/-! ## Runs of a world -/

open Simulation (World)

def worldAfter (settings : Nat → Settings) (world : World) : Nat → World
  | 0 => world
  | count + 1 => ((worldAfter settings world count).runOnce (settings count)).2

/-- The runs of a world have the ends of rounds, and leave the stores of rounds behind. -/
structure Runs (settings : Nat → Settings) (world : World) (rounds : Nat → Round) : Prop where
  batchSize : ∀ count, (rounds count).batchSize = (settings count).batchSize
  result : ∀ count, ∃ result,
    ((worldAfter settings world count).runOnce (settings count)).1 = some result ∧
    (turn rounds world.main count).iteration = .ended result
  store : ∀ count, (worldAfter settings world count).main = storeAfter rounds world.main count

theorem calm_after (settings : Nat → Settings) {world : World} (calm : world.Calm world.current)
    (home : world.main.id = World.mainStore) (count : Nat) :
    (worldAfter settings world count).main.id = World.mainStore ∧
    (worldAfter settings world count).Calm (worldAfter settings world count).current := by
  induction count with
  | zero => exact ⟨home, calm⟩
  | succ count ih =>
      obtain ⟨_, _, _, _, _, home, calm⟩ := ih.2.runOnce ih.1 (settings count)
      exact ⟨home, calm⟩

theorem exists_runs (settings : Nat → Settings) {world : World} (calm : world.Calm world.current)
    (home : world.main.id = World.mainStore) : ∃ rounds, Runs settings world rounds := by
  have ran (count : Nat) := (calm_after settings calm home count).2.runOnce
    (calm_after settings calm home count).1 (settings count)
  choose answers result told finished left _ _ using ran
  let rounds : Nat → Round := fun count =>
    ⟨(settings count).batchSize, (worldAfter settings world count).clock, answers count⟩
  have store (count : Nat) :
      (worldAfter settings world count).main = storeAfter rounds world.main count := by
    induction count with
    | zero => rfl
    | succ count ih =>
        rw [worldAfter, left count, ih]
        rfl
  refine ⟨rounds, fun _ => rfl, ?_, store⟩
  intro count
  refine ⟨result count, told count, ?_⟩
  rw [turn, ← store count]
  exact finished count

/-- Whatever producers and iterations have done, once no transaction is open the store is a backlog,
and three rounds for each pending row drain every backlog.  Rounds are what the runs of a world are
in which no call to the store fails. -/
theorem backlogs_drain :
    (∀ home moves, Produced moves → (Fleet.run home moves).Quiet →
      (Fleet.run home moves).store.Backlog) ∧
    (∀ (rounds : Nat → Round) (store : Store), store.Backlog →
      (∀ count, 0 < (rounds count).batchSize) → Drained rounds store) ∧
    ∀ (settings : Nat → Settings) (world : World), world.Calm world.current →
      world.main.id = World.mainStore → ∃ rounds, Runs settings world rounds := by
  refine ⟨Fleet.backlog_of_quiet, ?_, ?_⟩
  · intro rounds store backlog positive
    exact drained rounds backlog positive
  · intro settings world calm home
    exact exists_runs settings calm home

def enqueued (number : UInt8) (topic : String) : Move :=
  .request (.enqueue 1 (Message.fruitNumbered number).id .epoch topic
    { aggregateId := 1, aggregateType := "fruit", payload := [0x7B, 0x7D] })

/-- Two apples, and a pear behind them. -/
def enqueuedHistory : List Move :=
  [.request .begin, enqueued 1 "apple.events", enqueued 2 "apple.events",
    enqueued 3 "pear.events", .request (.commit 1)]

/-- A world with these rows and a bus that never takes an apple. -/
def refusingWorld : World where
  clock := .epoch
  stores := Stores.empty.put (Fleet.run 0 enqueuedHistory).store
  channels :=
    [.scripted { rules := [{ topic := "apple.events", ending := .refuse (.eventBus "down") }] }]
  sink := .discard

/-- Nine runs, two rows at a time, come past the apples at the head to the pear. -/
theorem enqueuedHistory_drains :
    Produced enqueuedHistory ∧ (Fleet.run 0 enqueuedHistory).Quiet ∧
    (Fleet.run 0 enqueuedHistory).store.pendingCount = 3 ∧
    refusingWorld.Calm refusingWorld.current ∧ refusingWorld.main.id = World.mainStore ∧
    ∀ row ∈ (worldAfter (fun _ => { batchSize := 2 }) refusingWorld 9).main.rows,
      row.isPending = false := by
  have produced : Produced enqueuedHistory := by
    constructor
    · intro request member
      simp only [enqueuedHistory, enqueued, List.mem_cons, Move.request.injEq, List.not_mem_nil,
        or_false] at member
      rcases member with rfl | rfl | rfl | rfl | rfl <;> rfl
    · have given : issued enqueuedHistory =
          [(Message.fruitNumbered 1).id, (Message.fruitNumbered 2).id,
            (Message.fruitNumbered 3).id] := by rfl
      rw [given]
      decide
  have quiet : (Fleet.run 0 enqueuedHistory).Quiet := by
    constructor
    · intro number
      match number with
      | 0 => rfl
      | 1 => rfl
      | _ + 2 => rfl
    · intro run
      rfl
  have three : (Fleet.run 0 enqueuedHistory).store.pendingCount = 3 := by rfl
  have calm : refusingWorld.Calm refusingWorld.current := by
    refine ⟨rfl, ?_⟩
    intro script there
    cases there
    refine ⟨rfl, ?_⟩
    intro rule member
    rw [List.mem_singleton.mp member]
    exact ⟨by simp, rfl⟩
  have home : refusingWorld.main.id = World.mainStore := rfl
  obtain ⟨rounds, runs⟩ := backlogs_drain.2.2 (fun _ => { batchSize := 2 }) refusingWorld calm home
  have backlog := backlogs_drain.1 0 enqueuedHistory produced quiet
  have drained := backlogs_drain.2.1 rounds (Fleet.run 0 enqueuedHistory).store backlog
    (fun count => by rw [runs.batchSize]; decide)
  refine ⟨produced, quiet, three, calm, home, ?_⟩
  rw [runs.store]
  exact drained.ended 9 (by rw [three])

end Publisher

end Outbox
