import Outbox.Proofs.Publisher.Bookkeeping

/-!
# An iteration on its own

`Solo.finish` drives an iteration to its end while nobody else works on the store and no call to the
store fails; the bus answers as it likes.  Such an iteration always commits.  It sends each row of
its batch to the bus exactly once, in the order of the rows and whatever the answers are, and it
leaves behind the outcome of each attempt and nothing else.
-/

set_option autoImplicit false

namespace Outbox.Store

/-- What a store is like between the steps of its users. -/
structure Orderly (store : Store) : Prop where
  distinct : (store.rows.map Message.id).Nodup
  begun : ∀ lock ∈ store.locks, lock.owner ≤ store.begun

/-- A claim of rows that nobody holds is undone by the release of the claimant's locks. -/
theorem release_claimAll {store : Store} {tx : Transaction} {rows : List Uuid}
    (free : ∀ lock ∈ store.locks, lock.row ∈ rows → lock.owner = tx.number) :
    (store.claimAll tx rows).release tx.number = store.release tx.number := by
  induction rows generalizing store with
  | nil => rfl
  | cons first rest ih =>
      rw [claimAll_cons, ih]
      · have kept : (claim tx store.locks first).filter (fun lock => lock.owner ≠ tx.number) =
            store.locks.filter fun lock => lock.owner ≠ tx.number := by
          rw [claim, List.filter_cons_of_neg (by simp), List.filter_filter]
          apply List.filter_congr
          intro lock member
          by_cases same : lock.row = first
          · simp [free lock member (same ▸ List.mem_cons_self ..)]
          · simp [same]
        simp only [release, kept]
      · intro lock member claimed
        rcases List.mem_cons.mp member with rfl | earlier
        · rfl
        · exact free lock (List.mem_of_mem_filter earlier) (List.mem_cons_of_mem _ claimed)

end Outbox.Store

namespace Outbox.Publisher

open Time (Instant)

/-! ## Driving an iteration -/

/-- The surroundings of an undisturbed iteration: how many rows it may claim, what its clock shows,
and what the bus answers to its first publication, to its second, and so on. -/
structure Round where
  batchSize : Nat
  now : Instant
  answers : Nat → Except Error Unit

/-- An undisturbed iteration between two calls to its surroundings. -/
structure Solo where
  iteration : Iteration
  store : Store
  journal : Journal
  /-- What was sent to the bus, in this order. -/
  sent : List (String × Bytes)

namespace Solo

def start (store : Store) : Solo where
  iteration := .starting
  store := store
  journal := {}
  sent := []

def afterCall (solo : Solo) (round : Round) : Solo :=
  let (next, store) := solo.iteration.perform round.batchSize round.now none solo.store
  { solo with iteration := next, store, journal := solo.journal.called solo.iteration next }

def afterAnswer (solo : Solo) (round : Round) (topic : String) (event : Bytes) : Solo :=
  let result := round.answers solo.sent.length
  { solo with
    iteration := (solo.iteration.answer result).1
    journal := { solo.journal with
      trials := solo.journal.trials ++
        (solo.iteration.untried.take 1).map fun message => ⟨message, result⟩ }
    sent := solo.sent ++ [(topic, event)] }

def finish (round : Round) (solo : Solo) : Solo :=
  match _ : solo.iteration.action round.batchSize with
  | .stop _ => solo
  | .call _ => finish round (solo.afterCall round)
  | .publish topic event => finish round (solo.afterAnswer round topic event)
termination_by solo.iteration.rank
decreasing_by
  · exact Iteration.perform_nearer ‹_› round.now none solo.store
  · exact Iteration.answer_nearer ‹_› (round.answers solo.sent.length)

end Solo

def Round.run (round : Round) (store : Store) : Solo :=
  (Solo.start store).finish round

/-! ## What an iteration reports -/

def Trial.letter (trial : Trial) : String × Bytes :=
  (trial.message.topic, (Event.ofMessage trial.message).encode)

def Journal.attempts (journal : Journal) : Attempts where
  fetched := journal.batch.length
  published := journal.trials.filterMap Trial.published?
  refused := journal.trials.filterMap Trial.refused?

def Journal.settled (journal : Journal) (moment : Instant) (row : Message) : Message :=
  ((journal.trial? row.id).map (Trial.outcome moment)).getD row

@[simp] theorem Journal.id_settled (journal : Journal) (moment : Instant) (row : Message) :
    (journal.settled moment row).id = row.id := by
  unfold Journal.settled
  cases found : journal.trial? row.id with
  | none => rfl
  | some trial =>
      rw [Option.map_some, Option.getD_some, Trial.id_outcome]
      exact (Journal.trial?_spec found).2

/-- What an iteration reports if it makes no further attempt. -/
def Iteration.report? : Iteration → Option Report
  | .publishing _ attempts _ _ => some attempts.report
  | .savingProcessed _ attempts => some attempts.report
  | .savingFailed _ attempts => some attempts.report
  | .committing _ report => some report
  | .ended (.ok report) => some report
  | _ => none

@[simp] theorem Iteration.report?_publishNext (tx : Transaction) (attempts : Attempts)
    (waiting : List Message) :
    (Iteration.publishNext tx attempts waiting).report? = some attempts.report := by
  rcases Iteration.publishNext_cases tx attempts waiting with
    ⟨message, rest, _, next⟩ | ⟨_, next⟩ | ⟨_, _, next⟩ | ⟨_, _, _, next⟩ <;>
    rw [next] <;> rfl

@[simp] theorem Iteration.report?_afterProcessed (tx : Transaction) (attempts : Attempts) :
    (Iteration.afterProcessed tx attempts).report? = some attempts.report := by
  rcases Iteration.afterProcessed_cases tx attempts with next | ⟨_, next⟩ <;> rw [next] <;> rfl

theorem Attempts.Records.report_eq {attempts : Attempts} {journal : Journal}
    (records : attempts.Records journal.trials)
    (fetched : attempts.fetched = journal.batch.length) :
    attempts.report = journal.attempts.report := by
  have same : attempts = journal.attempts := by
    cases attempts
    cases records
    simp_all [Journal.attempts]
  rw [same]

/-! ## Its place in a store -/

/-- How the iteration stands to the store that it began with. -/
inductive Stands (origin : Store) (journal : Journal) : Iteration → Store → Prop where
  | starting : Stands origin journal .starting origin
  | fetching : Stands origin journal (.fetching origin.begin.1) origin.begin.2
  | working {iteration : Iteration} {store : Store} {tx : Transaction}
      (fetched : iteration.hasFetched = true) (unbroken : iteration.error? = none)
      (opened : iteration.transaction? = some tx) (lawful : tx.Lawful store)
      (no_inserts : tx.inserts = []) (left : store.release tx.number = origin.begin.2)
      (holds : Holds store tx.number journal.batch) : Stands origin journal iteration store
  | ended (report : Report) (moment : Instant)
      (tried : journal.batch = journal.trials.map Trial.message) :
      Stands origin journal (.ended (.ok report))
        { origin.begin.2 with rows := origin.rows.map (journal.settled moment) }

/-- What an undisturbed iteration has done so far. -/
structure Undisturbed (round : Round) (origin : Store) (solo : Solo) : Prop where
  stands : Stands origin solo.journal solo.iteration solo.store
  progress : Progress solo.journal solo.iteration
  unfetched : solo.iteration.hasFetched = false → solo.journal = {}
  fetched : solo.iteration.hasFetched = true →
    solo.journal.batch = origin.begin.2.batch origin.begin.1 round.batchSize
  report : ∀ report, solo.iteration.report? = some report →
    report = solo.journal.attempts.report
  answers : solo.journal.trials.map Trial.result =
    (List.range solo.journal.trials.length).map round.answers
  sent : solo.sent = solo.journal.trials.map Trial.letter

section Steps
variable {round : Round} {origin : Store} {solo : Solo}

theorem undisturbed_start (round : Round) (origin : Store) :
    Undisturbed round origin (Solo.start origin) where
  stands := .starting
  progress := .starting
  unfetched := fun _ => rfl
  fetched := by
    intro fetched
    cases fetched
  report := by
    intro report reported
    cases reported
  answers := rfl
  sent := rfl

theorem Stands.rows {journal : Journal} {iteration : Iteration} {store : Store}
    (stands : Stands origin journal iteration store) {batchSize : Nat} {call : Call}
    (calls : iteration.action batchSize = .call call) : store.rows = origin.rows := by
  cases stands with
  | starting => rfl
  | fetching => rfl
  | @working _ _ own fetched unbroken there lawful no_inserts left holds =>
      change (store.release own.number).rows = origin.begin.2.rows
      rw [left]
  | ended report moment tried => cases calls

/-- What the transaction of an undisturbed iteration may rely on. -/
theorem Stands.opened {journal : Journal} {iteration : Iteration} {store : Store}
    (stands : Stands origin journal iteration store)
    (unfetched : iteration.hasFetched = false → journal = {}) {tx : Transaction}
    (opened : iteration.transaction? = some tx) :
    tx.Lawful store ∧ tx.inserts = [] ∧ Holds store tx.number journal.batch := by
  cases stands with
  | starting => cases opened
  | fetching =>
      cases opened
      rw [unfetched rfl]
      exact ⟨Transaction.lawful_begin origin, rfl, by simp, by simp, by simp, List.nodup_nil⟩
  | working fetched unbroken there lawful no_inserts left holds =>
      rw [there, Option.some.injEq] at opened
      subst opened
      exact ⟨lawful, no_inserts, holds⟩
  | ended report moment tried => cases opened

/-- What the iteration claims is held by nobody, so its release gives back nothing else. -/
theorem release_of_fetch (orderly : origin.Orderly) (limit : Nat) :
    (origin.begin.2.claimAll origin.begin.1
      ((origin.begin.2.batch origin.begin.1 limit).map Message.id)).release
        origin.begin.1.number = origin.begin.2 := by
  have older (lock : Lock) (member : lock ∈ origin.begin.2.locks) :
      lock.owner ≠ origin.begin.1.number := by
    have begun := orderly.begun lock member
    change lock.owner ≠ origin.begun + 1
    omega
  rw [Store.release_claimAll]
  · have kept : origin.begin.2.locks.filter (fun lock => lock.owner ≠ origin.begin.1.number) =
        origin.begin.2.locks := by
      rw [List.filter_eq_self]
      intro lock member
      simpa using older lock member
    simp only [Store.release, kept]
  · intro lock member claimed
    have free := Iteration.free_of_batch rfl limit lock.row claimed
    rw [Store.isHeldByOther_eq_false_iff] at free
    exfalso
    cases held : origin.begin.2.owner? lock.row with
    | none =>
        simp only [Store.owner?, Option.map_eq_none_iff, List.find?_eq_none] at held
        exact held lock member (by simp)
    | some owner =>
        obtain ⟨other, there, _, rfl⟩ := Store.lock_of_owner? held
        exact older other there (free other.owner held)

/-- A commit leaves the outcomes of all attempts. -/
theorem Journal.Staged.rows_installed {store : Store} {tx : Transaction} {journal : Journal}
    {moment : Instant} (staged : journal.Staged moment tx) (lawful : tx.Lawful store)
    (no_inserts : tx.inserts = []) (unique : (store.rows.map Message.id).Nodup) :
    (store.installed tx).rows = store.rows.map (journal.settled moment) := by
  have outcomes : (fun row : Message => (tx.update? row.id).getD row) =
      journal.settled moment := by
    funext row
    rw [staged row.id]
    rfl
  rw [Store.rows_installed_of_updates lawful no_inserts unique, outcomes]

theorem Stands.called (orderly : origin.Orderly) {batchSize : Nat} {now : Instant}
    {iteration next : Iteration} {store later : Store} {journal : Journal}
    (stands : Stands origin journal iteration store) (progress : Progress journal iteration)
    (unfetched : iteration.hasFetched = false → journal = {}) {call : Call}
    (calls : iteration.action batchSize = .call call)
    (called : Iteration.Called batchSize now store none iteration next later) :
    Stands origin (journal.called iteration next) next later := by
  cases called with
  | begun =>
      cases stands with
      | starting => exact .fetching
      | working fetched => cases fetched
  | fetched tx =>
      cases stands with
      | working fetched => cases fetched
      | fetching =>
          refine .working (Iteration.hasFetched_publishNext _ _ _)
            (Iteration.error?_publishNext _ _ _) (Iteration.transaction?_publishNext _ _ _)
            ((Transaction.lawful_begin origin).later (Store.older_claimAll _ _ _)) rfl
            (release_of_fetch orderly batchSize) ?_
          simp only [Journal.called, Iteration.untried_publishNext]
          have distinct : (origin.begin.2.rows.map Message.id).Nodup := orderly.distinct
          exact holds_of_fetch rfl rfl distinct batchSize
  | savedProcessed tx attempts =>
      cases stands with
      | working fetched unbroken there lawful no_inserts left holds =>
          cases there
          refine .working (Iteration.hasFetched_afterProcessed _ _)
            (Iteration.error?_afterProcessed _ _) (Iteration.transaction?_afterProcessed _ _)
            (lawful.settleAll _ _) (Store.inserts_settleAll _ _ no_inserts _) ?_ ?_
          · rw [Store.number_settleAll, left]
          · rw [Store.number_settleAll]
            exact holds
  | savedFailed tx attempts =>
      cases stands with
      | working fetched unbroken there lawful no_inserts left holds =>
          cases there
          refine .working rfl rfl rfl (lawful.settleAll _ _)
            (Store.inserts_settleAll _ _ no_inserts _) ?_ ?_
          · rw [Store.number_settleAll, left]
          · rw [Store.number_settleAll]
            exact holds
  | committed tx report =>
      cases progress with
      | committing staged tried =>
          have rows := stands.rows calls
          cases stands with
          | working fetched unbroken there lawful no_inserts left holds =>
              cases there
              -- The commit gives the locks back, as a release does.
              have installed : store.installed tx =
                  { store.release tx.number with rows := (store.installed tx).rows } := rfl
              rw [installed, staged.rows_installed lawful no_inserts (rows ▸ orderly.distinct),
                left, rows]
              exact .ended report _ tried
  | undone injected tx error =>
      -- No call has failed, so there is no error to roll back for.
      cases stands with
      | working fetched unbroken => cases unbroken
  | idle injected iteration uncalled => exact absurd calls (uncalled call)

theorem fetched_called (undisturbed : Undisturbed round origin solo) {next : Iteration}
    {store : Store}
    (called : Iteration.Called round.batchSize round.now solo.store none solo.iteration next store)
    (fetched : next.hasFetched = true) :
    (solo.journal.called solo.iteration next).batch =
      origin.begin.2.batch origin.begin.1 round.batchSize := by
  have earlier := undisturbed.fetched
  have stands := undisturbed.stands
  generalize solo.iteration = iteration at called earlier stands ⊢
  generalize solo.store = before at called stands
  cases called with
  | begun => cases fetched
  | fetched tx =>
      simp only [Journal.called, Iteration.untried_publishNext]
      cases stands with
      | fetching => rfl
      | working late => cases late
  | idle injected iteration uncalled =>
      cases next with
      | fetching tx => cases fetched
      | _ => exact earlier fetched
  | _ => exact earlier rfl

theorem report_called {batchSize : Nat} {now : Instant} {store later : Store}
    {iteration next : Iteration} {journal : Journal}
    (called : Iteration.Called batchSize now store none iteration next later)
    (unfetched : iteration.hasFetched = false → journal = {})
    (earlier : ∀ report, iteration.report? = some report → report = journal.attempts.report)
    {report : Report} (reported : next.report? = some report) :
    report = (journal.called iteration next).attempts.report := by
  cases called with
  | begun => cases reported
  | fetched tx =>
      rw [Iteration.report?_publishNext, Option.some.injEq] at reported
      rw [unfetched rfl]
      simp only [Journal.called, Iteration.untried_publishNext]
      exact reported.symm
  | savedProcessed tx attempts =>
      rw [Iteration.report?_afterProcessed] at reported
      exact earlier report reported
  | savedFailed tx attempts => exact earlier report reported
  | committed tx own => exact earlier report reported
  | undone injected tx error => cases reported
  | idle injected iteration uncalled =>
      cases iteration with
      | fetching tx => cases reported
      | _ => exact earlier report reported

/-- A call leaves the iteration undisturbed. -/
theorem Undisturbed.afterCall (orderly : origin.Orderly)
    (undisturbed : Undisturbed round origin solo) {call : Call}
    (calls : solo.iteration.action round.batchSize = .call call) :
    Undisturbed round origin (solo.afterCall round) := by
  have opened := @Stands.opened _ _ _ _ undisturbed.stands undisturbed.unfetched
  have called := Iteration.perform_called (fun tx there => (opened there).1.owned)
    round.batchSize round.now none
  have distinct : (solo.store.rows.map Message.id).Nodup := by
    rw [undisturbed.stands.rows calls]
    exact orderly.distinct
  have trials := solo.journal.trials_called solo.iteration
    (solo.iteration.perform round.batchSize round.now none solo.store).1
  constructor
  · exact undisturbed.stands.called orderly undisturbed.progress undisturbed.unfetched calls called
  · apply progress_called called distinct
    · exact fun tx there => (opened there).2.1
    · intro early
      rw [undisturbed.unfetched early]
    · exact fun tx there => (opened there).2.2.claimed
    · exact undisturbed.progress
  · intro early
    have start := called.starting_of_unfetched early
    have nothing := undisturbed.unfetched (by rw [start]; rfl)
    simp only [Solo.afterCall, start, nothing]
    rfl
  · exact fetched_called undisturbed called
  · intro report reported
    exact report_called called undisturbed.unfetched undisturbed.report reported
  · simp only [Solo.afterCall, trials]
    exact undisturbed.answers
  · simp only [Solo.afterCall, trials]
    exact undisturbed.sent

theorem report_answered {journal : Journal} {tx : Transaction} {attempts : Attempts}
    {message : Message} {waiting : List Message} {result : Except Error Unit} {next : Iteration}
    (answered : Iteration.Answered result (.publishing tx attempts message waiting) next)
    (progress : Progress journal (.publishing tx attempts message waiting))
    (earlier : attempts.report = journal.attempts.report) :
    next.report? = some
      { journal with
        trials := journal.trials ++ [⟨message, result⟩] : Journal }.attempts.report := by
  have fetched : attempts.fetched = journal.batch.length := congrArg Report.fetched earlier
  cases progress with
  | publishing unchanged split records =>
      cases answered with
      | published =>
          rw [Iteration.report?_publishNext, Option.some.injEq]
          exact Attempts.Records.report_eq (records.publish message) fetched
      | refused _ _ _ _ error =>
          rw [Iteration.report?_publishNext, Option.some.injEq]
          exact Attempts.Records.report_eq (records.refuse message error) fetched

/-- An answer of the bus leaves the iteration undisturbed. -/
theorem Undisturbed.afterAnswer (undisturbed : Undisturbed round origin solo) {topic : String}
    {event : Bytes} (publishes : solo.iteration.action round.batchSize = .publish topic event) :
    Undisturbed round origin (solo.afterAnswer round topic event) := by
  rcases solo with ⟨iteration, store, journal, sent⟩
  obtain ⟨stands, progress, _, fetched, report, answers, letters⟩ := undisturbed
  simp only at stands progress fetched report answers letters publishes
  cases iteration with
  | publishing tx attempts message waiting =>
      simp only [Iteration.action, Action.publish.injEq] at publishes
      obtain ⟨rfl, rfl⟩ := publishes
      have numbered : sent.length = journal.trials.length := by rw [letters, List.length_map]
      cases stands with
      | working late unbroken opened lawful no_inserts left holds =>
          have pending : message.isPending = true := by
            cases progress with
            | publishing unchanged split records =>
                apply holds.pending
                rw [split]
                simp
          have answered : Iteration.Answered _ (.publishing tx attempts message waiting) _ :=
            Iteration.answer_answered pending (round.answers sent.length)
          constructor
          · exact .working answered.hasFetched answered.error?
              (answered.transaction?.trans opened) lawful no_inserts left holds
          · exact progress_answered answered progress
          · intro early
            rw [Solo.afterAnswer, answered.hasFetched] at early
            cases early
          · exact fun _ => fetched rfl
          · intro later reported
            have told := report_answered answered progress (report _ rfl)
            exact Option.some.inj (reported.symm.trans told)
          · simp only [Solo.afterAnswer, Iteration.untried]
            simp [answers, numbered, List.range_succ]
          · simp only [Solo.afterAnswer, Iteration.untried]
            simp [letters, Trial.letter]
  | _ => simp [Iteration.action] at publishes

theorem Undisturbed.finish (orderly : origin.Orderly)
    (undisturbed : Undisturbed round origin solo) :
    Undisturbed round origin (solo.finish round) ∧
      ∃ result, (solo.finish round).iteration = .ended result := by
  fun_induction Solo.finish round solo with
  | case1 solo result stops =>
      exact ⟨undisturbed, result, Iteration.ended_of_stop stops⟩
  | case2 solo call calls ih => exact ih (undisturbed.afterCall orderly calls)
  | case3 solo topic event publishes ih => exact ih (undisturbed.afterAnswer publishes)

end Steps

/-! ## What it leaves behind -/

/-- What an iteration has done when it has come to its end. -/
structure Completed (round : Round) (origin : Store) (solo : Solo) : Prop where
  batch : solo.journal.batch =
    (origin.rows.filter fun row =>
      !origin.isHeldByOther origin.begin.1 row.id && row.isPending).take round.batchSize
  /-- It tries the rows of its batch one after the other, each of them once. -/
  tried : solo.journal.trials.map Trial.message = solo.journal.batch
  answers : solo.journal.trials.map Trial.result =
    (List.range solo.journal.batch.length).map round.answers
  sent : solo.sent = solo.journal.batch.map fun row => (row.topic, (Event.ofMessage row).encode)
  result : solo.iteration = .ended (.ok solo.journal.attempts.report)
  store : ∃ moment, solo.store =
    { origin with
      begun := origin.begun + 1
      rows := origin.rows.map (solo.journal.settled moment) }

theorem Round.run_completed (round : Round) {origin : Store} (orderly : origin.Orderly) :
    Completed round origin (round.run origin) := by
  obtain ⟨undisturbed, result, ended⟩ := (undisturbed_start round origin).finish orderly
  change Undisturbed round origin (round.run origin) at undisturbed
  change (round.run origin).iteration = .ended result at ended
  obtain ⟨stands, _, _, fetched, report, answers, sent⟩ := undisturbed
  generalize round.run origin = solo at *
  rcases solo with ⟨iteration, store, journal, letters⟩
  simp only at stands fetched report answers sent ended
  subst ended
  cases stands with
  | working late unbroken opened => cases opened
  | ended own moment tried =>
      constructor
      · rw [fetched rfl]
        exact @Store.batch_of_unchanged origin.begin.2 origin.begin.1 rfl rfl round.batchSize
      · exact tried.symm
      · simp only [tried, List.length_map]
        exact answers
      · simp only [tried, List.map_map]
        exact sent
      · simp only [report own rfl]
      · exact ⟨moment, rfl⟩

end Outbox.Publisher
