import Outbox.Proofs.Publisher.Solitary

/-!
# Outcomes of attempts

What the result of a publication makes of its row, in the numbers of the row, and how a report
counts the rows of a batch by what they have become.
-/

set_option autoImplicit false

namespace Outbox

open Time (Instant)

namespace Message

theorem status_of_pending {message : Message} (pending : message.isPending = true) :
    message.status = .pending := by
  unfold isPending at pending
  cases status : message.status with
  | pending => rfl
  | processed =>
      rw [status] at pending
      cases pending
  | failed =>
      rw [status] at pending
      cases pending

theorem status_refused {message : Message} (pending : message.isPending = true) (reason : String) :
    (message.refused reason).status =
      if message.maxRetries ≤ message.retryCount + 1 then .failed else .pending := by
  rw [refused, status_of_pending pending]

/-- A count of attempts that is not the greatest one goes up by one. -/
theorem toInt_succ_of_lt {count : Int32} (spare : count < Int32.maxValue) :
    (count + 1).toInt = count.toInt + 1 := by
  have least := count.le_toInt
  have below := Int32.lt_iff_toInt_lt.mp spare
  have greatest : Int32.maxValue.toInt = 2147483647 := by rfl
  have one : (1 : Int32).toInt = 1 := by rfl
  rw [Int32.toInt_add, one]
  apply Int.bmod_eq_of_le
  · omega
  · omega

end Message

namespace Publisher

/-- What a row is after an attempt at it that had this result, if the rows that were published are
saved at a moment. -/
inductive Attempted (moment : Instant) (row : Message) : Except Error Unit → Message → Prop where
  | published :
      Attempted moment row (.ok ()) { row with status := .processed, processedAt := some moment }
  | refused (error : Error) (count : Int32) (counted : count.toInt = row.retryCount.toInt + 1) :
      Attempted moment row (.error error) { row with
        retryCount := count
        lastError := error.message
        status := if row.maxRetries.toInt ≤ row.retryCount.toInt + 1 then .failed else .pending }

theorem Trial.attempted {trial : Trial} (pending : trial.message.isPending = true)
    (spare : trial.message.retryCount < Int32.maxValue) (moment : Instant) :
    Attempted moment trial.message trial.result (trial.outcome moment) := by
  rcases trial with ⟨row, error | done⟩
  · have counted : (row.retryCount + 1).toInt = row.retryCount.toInt + 1 :=
      Message.toInt_succ_of_lt spare
    have status : (row.refused error.message).status =
        if row.maxRetries.toInt ≤ row.retryCount.toInt + 1 then .failed else .pending := by
      have status := Message.status_refused pending error.message
      simp only at status
      rw [status, ← counted]
      simp only [Int32.le_iff_toInt_le]
    have outcome : Trial.outcome moment ⟨row, .error error⟩ = { row with
        retryCount := row.retryCount + 1
        lastError := error.message
        status := if row.maxRetries.toInt ≤ row.retryCount.toInt + 1 then .failed
          else .pending } := by
      rw [← status]
      rfl
    rw [outcome]
    exact .refused error _ counted
  · exact .published

/-! ## Counts -/

section Counts
variable {trials : List Trial} (moment : Instant)

theorem length_published (trials : List Trial)
    (pending : ∀ trial ∈ trials, trial.message.isPending = true) :
    (trials.filterMap Trial.published?).length =
      (trials.map (Trial.outcome moment)).countP fun row => row.status == .processed := by
  induction trials with
  | nil => rfl
  | cons trial rest ih =>
      have later := ih fun other member => pending other (List.mem_cons_of_mem _ member)
      have first := pending trial List.mem_cons_self
      rw [List.map_cons, List.countP_cons, ← later]
      rcases trial with ⟨row, error | done⟩
      · have unpublished : ((row.refused error.message).status == .processed) = false := by
          rw [Message.status_refused first]
          split <;> rfl
        rw [List.filterMap_cons_none (show Trial.published? ⟨row, .error error⟩ = none from rfl)]
        simp [Trial.outcome, unpublished]
      · simp [Trial.published?, Trial.outcome, Message.processed]

theorem countP_refused (trials : List Trial) (wanted : Status)
    (unpublished : wanted ≠ .processed) :
    (trials.filterMap Trial.refused?).countP (fun row => row.status == wanted) =
      (trials.map (Trial.outcome moment)).countP fun row => row.status == wanted := by
  induction trials with
  | nil => rfl
  | cons trial rest ih =>
      rw [List.map_cons, List.countP_cons, ← ih]
      rcases trial with ⟨row, error | done⟩
      · simp [Trial.refused?, Trial.outcome, List.countP_cons]
      · rw [List.filterMap_cons_none (show Trial.refused? ⟨row, .ok done⟩ = none from rfl)]
        simp [Trial.outcome, Message.processed, Ne.symm unpublished]

/-- A report counts the rows of the batch by the status that they have come to. -/
structure Counts (report : Report) (batch rows : List Message) : Prop where
  fetched : report.fetched = batch.length
  processed : report.processed = rows.countP fun row => row.status == .processed
  retried : report.retried = rows.countP fun row => row.status == .pending
  failed : report.failed = rows.countP fun row => row.status == .failed
  total : report.fetched = report.processed + report.retried + report.failed

theorem countP_status_total (rows : List Message) :
    rows.length = (rows.countP fun row => row.status == .processed) +
      (rows.countP fun row => row.status == .pending) +
      rows.countP fun row => row.status == .failed := by
  induction rows with
  | nil => rfl
  | cons row rest ih =>
      rw [List.length_cons, List.countP_cons, List.countP_cons, List.countP_cons]
      cases row.status with
      | pending =>
          simp only [beq_self_eq_true, if_true, reduceCtorEq, beq_iff_eq, if_false]
          omega
      | processed =>
          simp only [beq_self_eq_true, if_true, reduceCtorEq, beq_iff_eq, if_false]
          omega
      | failed =>
          simp only [beq_self_eq_true, if_true, reduceCtorEq, beq_iff_eq, if_false]
          omega

theorem Journal.counts {journal : Journal}
    (tried : journal.batch = journal.trials.map Trial.message)
    (pending : ∀ message ∈ journal.batch, message.isPending = true) :
    Counts journal.attempts.report journal.batch
      (journal.trials.map (Trial.outcome moment)) := by
  have open_trials : ∀ trial ∈ journal.trials, trial.message.isPending = true :=
    fun trial member => pending _ (Journal.mem_batch tried member)
  have processed := length_published moment journal.trials open_trials
  have failed := countP_refused moment journal.trials .failed (by decide)
  have retried := countP_refused moment journal.trials .pending (by decide)
  have still_pending : (journal.trials.filterMap Trial.refused?).countP
      (fun row => row.status != .failed) =
      (journal.trials.filterMap Trial.refused?).countP fun row => row.status == .pending := by
    apply List.countP_congr
    intro row member
    obtain ⟨trial, tried, refused⟩ := List.mem_filterMap.mp member
    have before := open_trials trial tried
    rcases trial with ⟨old, error | done⟩
    · cases refused
      rw [Message.status_refused before]
      split <;> decide
    · cases refused
  have fetched : journal.attempts.report.fetched = journal.batch.length := rfl
  constructor
  · exact fetched
  · exact processed
  · exact still_pending.trans retried
  · exact failed
  · have total := countP_status_total (journal.trials.map (Trial.outcome moment))
    rw [List.length_map, ← processed, ← retried, ← still_pending, ← failed] at total
    rw [fetched, tried, List.length_map]
    exact total

end Counts

end Publisher

end Outbox
