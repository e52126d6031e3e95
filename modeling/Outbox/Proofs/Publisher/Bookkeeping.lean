import Outbox.Proofs.Publisher.Fleet

/-!
# What an iteration stages

An iteration turns each of its attempts into one change: a row that was published becomes a
processed row, a row that was refused gets its failure recorded.  `Progress` tells for every state
of an iteration what it has staged for the attempts in its journal; when it comes to its commit it
has staged the outcome of every attempt and nothing else.  `Holds` tells what it relies on: the rows
that it has claimed are committed and pending, and locked for it.
-/

set_option autoImplicit false

namespace Outbox.Publisher

open Time (Instant)

/-! ## Attempts and their outcomes -/

namespace Trial

def published? : Trial → Option Message
  | ⟨message, .ok _⟩ => some message
  | ⟨_, .error _⟩ => none

/-- The row with its failure recorded if it was not published. -/
def refused? : Trial → Option Message
  | ⟨_, .ok _⟩ => none
  | ⟨message, .error error⟩ => some (message.refused error.message)

/-- What becomes of the row if the published rows are saved at a moment. -/
def outcome (moment : Instant) : Trial → Message
  | ⟨message, .ok _⟩ => message.processed moment
  | ⟨message, .error error⟩ => message.refused error.message

theorem id_published? {trial : Trial} {message : Message}
    (published : trial.published? = some message) : message.id = trial.message.id := by
  rcases trial with ⟨tried, error | done⟩
  · cases published
  · cases published
    rfl

theorem id_refused? {trial : Trial} {message : Message}
    (refused : trial.refused? = some message) : message.id = trial.message.id := by
  rcases trial with ⟨tried, error | done⟩
  · cases refused
    rfl
  · cases refused

@[simp] theorem id_outcome (moment : Instant) (trial : Trial) :
    (trial.outcome moment).id = trial.message.id := by
  rcases trial with ⟨tried, error | done⟩ <;> rfl

end Trial

def Journal.trial? (journal : Journal) (id : Uuid) : Option Trial :=
  journal.trials.find? fun trial => trial.message.id = id

theorem Journal.trial?_spec {journal : Journal} {id : Uuid} {trial : Trial}
    (found : journal.trial? id = some trial) :
    trial ∈ journal.trials ∧ trial.message.id = id :=
  ⟨List.mem_of_find?_eq_some found, by simpa using List.find?_some found⟩

theorem Journal.trial?_of_mem {journal : Journal}
    (distinct : (journal.trials.map fun trial => trial.message.id).Nodup) {trial : Trial}
    (member : trial ∈ journal.trials) : journal.trial? trial.message.id = some trial := by
  cases found : journal.trial? trial.message.id with
  | none => simpa using List.find?_eq_none.mp found trial member
  | some other =>
      obtain ⟨tried, same⟩ := trial?_spec found
      rw [List.inj_on_of_nodup_map distinct tried member same]

theorem Journal.mem_batch {journal : Journal}
    (split : journal.batch = journal.trials.map Trial.message) {trial : Trial}
    (tried : trial ∈ journal.trials) : trial.message ∈ journal.batch := by
  rw [split]
  exact List.mem_map_of_mem tried

theorem Trial.ne_of_distinct {trial other : Trial} {rest : List Trial}
    (distinct : trial.message.id ∉ rest.map fun trial => trial.message.id)
    (member : other ∈ rest) : other.message.id ≠ trial.message.id := by
  intro again
  exact distinct (List.mem_map.mpr ⟨other, member, again⟩)

/-- If there is one attempt for each row, the attempt on a row tells what a list of results holds
for it. -/
theorem find?_filterMap_trials {result : Trial → Option Message}
    (keeps : ∀ trial message, result trial = some message → message.id = trial.message.id)
    {trials : List Trial} (distinct : (trials.map fun trial => trial.message.id).Nodup)
    (id : Uuid) :
    ((trials.filterMap result).find? fun message => message.id = id) =
      (trials.find? fun trial => trial.message.id = id).bind result := by
  induction trials with
  | nil => rfl
  | cons trial rest ih =>
      simp only [List.map_cons, List.nodup_cons] at distinct
      have later := ih distinct.2
      by_cases same : trial.message.id = id
      · have unmatched : (rest.find? fun other => other.message.id = id) = none := by
          rw [List.find?_eq_none]
          intro other member
          have different : other.message.id ≠ id := same ▸ Trial.ne_of_distinct distinct.1 member
          simpa using different
        rw [unmatched, Option.bind_none] at later
        rw [List.find?_cons_of_pos (by simpa using same), Option.bind_some]
        cases found : result trial with
        | none =>
            rw [List.filterMap_cons_none found]
            exact later
        | some message =>
            have own : message.id = id := (keeps trial message found).trans same
            rw [List.filterMap_cons_some found, List.find?_cons_of_pos (by simpa using own)]
      · rw [List.find?_cons_of_neg (by simpa using same)]
        cases found : result trial with
        | none =>
            rw [List.filterMap_cons_none found]
            exact later
        | some message =>
            have foreign : message.id ≠ id := by
              rw [keeps trial message found]
              exact same
            rw [List.filterMap_cons_some found,
              List.find?_cons_of_neg (by simpa using foreign)]
            exact later

theorem Journal.find?_results {journal : Journal} {result : Trial → Option Message}
    (keeps : ∀ trial message, result trial = some message → message.id = trial.message.id)
    (distinct : (journal.trials.map fun trial => trial.message.id).Nodup) (id : Uuid) :
    ((journal.trials.filterMap result).find? fun message => message.id = id) =
      (journal.trial? id).bind result :=
  find?_filterMap_trials keeps distinct id

theorem ids_filterMap_trials {result : Trial → Option Message}
    (keeps : ∀ trial message, result trial = some message → message.id = trial.message.id)
    (trials : List Trial) :
    ((trials.filterMap result).map Message.id).Sublist
      (trials.map fun trial => trial.message.id) := by
  induction trials with
  | nil => exact List.Sublist.refl []
  | cons trial rest ih =>
      cases found : result trial with
      | none =>
          rw [List.filterMap_cons_none found]
          exact ih.cons _
      | some message =>
          rw [List.filterMap_cons_some found, List.map_cons, List.map_cons,
            keeps trial message found]
          exact ih.cons_cons _

/-! ## What an iteration relies on -/

/-- Rows that are committed and pending, and locked for one transaction. -/
structure Holds (store : Store) (number : Nat) (batch : List Message) : Prop where
  committed : ∀ message ∈ batch, message ∈ store.rows
  pending : ∀ message ∈ batch, message.isPending = true
  held : ∀ message ∈ batch, store.owner? message.id = some number
  distinct : (batch.map Message.id).Nodup

/-- Rows that are committed and pending, whoever holds them by now. -/
structure Claimed (store : Store) (batch : List Message) : Prop where
  committed : ∀ message ∈ batch, message ∈ store.rows
  pending : ∀ message ∈ batch, message.isPending = true
  distinct : (batch.map Message.id).Nodup

theorem Holds.claimed {store : Store} {number : Nat} {batch : List Message}
    (holds : Holds store number batch) : Claimed store batch :=
  ⟨holds.committed, holds.pending, holds.distinct⟩

theorem Claimed.find? {store : Store} {batch : List Message} (claimed : Claimed store batch)
    (unique : (store.rows.map Message.id).Nodup) {message : Message} (member : message ∈ batch) :
    store.find? message.id = some message :=
  find?_id_of_mem unique (claimed.committed message member)

/-- The first pending rows of a store that are free, in any sense of the word. -/
theorem claimed_of_free {store : Store} (free : Message → Bool)
    (unique : (store.rows.map Message.id).Nodup) (limit : Nat) :
    Claimed store ((store.rows.filter fun row => free row && row.isPending).take limit) := by
  have part : ((store.rows.filter fun row => free row && row.isPending).take limit).Sublist
      store.rows := (List.take_sublist _ _).trans List.filter_sublist
  constructor
  · intro message member
    exact part.subset member
  · intro message member
    have chosen := (List.mem_filter.mp (List.mem_of_mem_take member)).2
    rw [Bool.and_eq_true] at chosen
    exact chosen.2
  · exact unique.sublist (part.map Message.id)

theorem holds_of_fetch {store : Store} {tx : Transaction} (no_inserts : tx.inserts = [])
    (no_updates : tx.updates = []) (unique : (store.rows.map Message.id).Nodup) (limit : Nat) :
    Holds (store.claimAll tx ((store.batch tx limit).map Message.id)) tx.number
      (store.batch tx limit) := by
  have claimed : Claimed store (store.batch tx limit) := by
    rw [Store.batch_of_unchanged no_inserts no_updates]
    exact claimed_of_free _ unique limit
  refine ⟨claimed.committed, claimed.pending, ?_, claimed.distinct⟩
  intro message member
  rw [Store.owner?_claimAll, if_pos (List.mem_map_of_mem member)]

/-! ## What an iteration has staged -/

/-- The attempts of an iteration are those in its journal. -/
structure Attempts.Records (attempts : Attempts) (trials : List Trial) : Prop where
  published : attempts.published = trials.filterMap Trial.published?
  refused : attempts.refused = trials.filterMap Trial.refused?

theorem Attempts.Records.publish {attempts : Attempts} {trials : List Trial}
    (records : attempts.Records trials) (message : Message) :
    Attempts.Records { attempts with published := attempts.published ++ [message] }
      (trials ++ [⟨message, .ok ()⟩]) where
  published := by simp [records.published, Trial.published?]
  refused := by simp [records.refused, Trial.refused?]

theorem Attempts.Records.refuse {attempts : Attempts} {trials : List Trial}
    (records : attempts.Records trials) (message : Message) (error : Error) :
    Attempts.Records
      { attempts with refused := attempts.refused ++ [message.refused error.message] }
      (trials ++ [⟨message, .error error⟩]) where
  published := by simp [records.published, Trial.published?]
  refused := by simp [records.refused, Trial.refused?]

/-- The published rows are staged as processed at a moment, and nothing else is. -/
def Journal.HalfStaged (journal : Journal) (moment : Instant) (tx : Transaction) : Prop :=
  ∀ id, tx.update? id =
    ((journal.trial? id).bind Trial.published?).map fun message => message.processed moment

/-- The outcomes of all attempts are staged, and nothing else is. -/
def Journal.Staged (journal : Journal) (moment : Instant) (tx : Transaction) : Prop :=
  ∀ id, tx.update? id = (journal.trial? id).map (Trial.outcome moment)

/-- What an iteration has staged for the attempts in its journal, and what it has still to try. -/
inductive Progress (journal : Journal) : Iteration → Prop where
  | starting : Progress journal .starting
  | fetching {tx : Transaction} (unchanged : tx.updates = []) : Progress journal (.fetching tx)
  | publishing {tx : Transaction} {attempts : Attempts} {message : Message}
      {waiting : List Message} (unchanged : tx.updates = [])
      (split : journal.batch = journal.trials.map Trial.message ++ message :: waiting)
      (records : attempts.Records journal.trials) :
      Progress journal (.publishing tx attempts message waiting)
  | savingProcessed {tx : Transaction} {attempts : Attempts} (unchanged : tx.updates = [])
      (split : journal.batch = journal.trials.map Trial.message)
      (records : attempts.Records journal.trials) :
      Progress journal (.savingProcessed tx attempts)
  | savingFailed {tx : Transaction} {attempts : Attempts} {moment : Instant}
      (staged : journal.HalfStaged moment tx)
      (split : journal.batch = journal.trials.map Trial.message)
      (records : attempts.Records journal.trials) : Progress journal (.savingFailed tx attempts)
  | committing {tx : Transaction} {report : Report} {moment : Instant}
      (staged : journal.Staged moment tx)
      (split : journal.batch = journal.trials.map Trial.message) :
      Progress journal (.committing tx report)
  | undoing (tx : Transaction) (error : Error) : Progress journal (.undoing tx error)
  | ended (result : Except Error Report) : Progress journal (.ended result)

/-- Where nothing was published, nothing is to be staged as processed. -/
theorem halfStaged_of_unpublished {journal : Journal} {tx : Transaction}
    (unchanged : tx.updates = [])
    (unpublished : journal.trials.filterMap Trial.published? = []) (moment : Instant) :
    journal.HalfStaged moment tx := by
  intro id
  have nothing : tx.update? id = none := by simp [Transaction.update?, unchanged]
  rw [nothing]
  cases found : journal.trial? id with
  | none => rfl
  | some trial =>
      have member : trial ∈ journal.trials := List.mem_of_find?_eq_some found
      rw [Option.bind_some, List.filterMap_eq_nil_iff.mp unpublished trial member]
      rfl

/-- Where nothing was refused, the published rows are all there is to be staged. -/
theorem Journal.HalfStaged.staged {journal : Journal} {moment : Instant} {tx : Transaction}
    (half : journal.HalfStaged moment tx)
    (unrefused : journal.trials.filterMap Trial.refused? = []) : journal.Staged moment tx := by
  intro id
  rw [half id]
  cases found : journal.trial? id with
  | none => rfl
  | some trial =>
      have member : trial ∈ journal.trials := List.mem_of_find?_eq_some found
      have published := List.filterMap_eq_nil_iff.mp unrefused trial member
      rcases trial with ⟨message, error | done⟩
      · cases published
      · rfl

theorem progress_publishNext {journal : Journal} {tx : Transaction} {attempts : Attempts}
    {waiting : List Message} (unchanged : tx.updates = [])
    (split : journal.batch = journal.trials.map Trial.message ++ waiting)
    (records : attempts.Records journal.trials) :
    Progress journal (Iteration.publishNext tx attempts waiting) := by
  rcases Iteration.publishNext_cases tx attempts waiting with
    ⟨message, rest, there, next⟩ | ⟨there, next⟩ | ⟨there, unpublished, next⟩ |
    ⟨there, unpublished, unrefused, next⟩
  · rw [next]
    exact .publishing unchanged (there ▸ split) records
  · rw [next]
    exact .savingProcessed unchanged (by simpa [there] using split) records
  · rw [next]
    have half := halfStaged_of_unpublished unchanged
      (records.published.symm.trans unpublished) .epoch
    exact .savingFailed half (by simpa [there] using split) records
  · rw [next]
    have half := halfStaged_of_unpublished unchanged
      (records.published.symm.trans unpublished) .epoch
    exact .committing (half.staged (records.refused.symm.trans unrefused))
      (by simpa [there] using split)

/-! ## What a call makes of it -/

section Saves
variable {store : Store} {tx : Transaction} {journal : Journal}

theorem Claimed.trials_distinct (claimed : Claimed store journal.batch)
    (split : journal.batch = journal.trials.map Trial.message) :
    (journal.trials.map fun trial => trial.message.id).Nodup := by
  have distinct := claimed.distinct
  rw [split, List.map_map] at distinct
  exact distinct

/-- A save of results of the attempts finds all its rows committed and pending. -/
theorem Claimed.rows_of_results (claimed : Claimed store journal.batch)
    (unique : (store.rows.map Message.id).Nodup)
    (split : journal.batch = journal.trials.map Trial.message)
    {result : Trial → Option Message}
    (keeps : ∀ trial message, result trial = some message → message.id = trial.message.id) :
    ∀ message ∈ journal.trials.filterMap result, ∃ row,
      store.find? message.id = some row ∧ row.isPending = true := by
  intro message member
  obtain ⟨trial, tried, found⟩ := List.mem_filterMap.mp member
  have there := Journal.mem_batch split tried
  refine ⟨trial.message, ?_, claimed.pending _ there⟩
  rw [keeps trial message found]
  exact claimed.find? unique there

theorem Claimed.find?_of_tried (claimed : Claimed store journal.batch)
    (unique : (store.rows.map Message.id).Nodup)
    (split : journal.batch = journal.trials.map Trial.message) {id : Uuid} {trial : Trial}
    (found : journal.trial? id = some trial) : store.find? id = some trial.message := by
  obtain ⟨tried, own⟩ := Journal.trial?_spec found
  rw [← own]
  exact claimed.find? unique (Journal.mem_batch split tried)

/-- An attempt is on a pending row of the store. -/
theorem Claimed.row_of_trial (claimed : Claimed store journal.batch)
    (unique : (store.rows.map Message.id).Nodup)
    (split : journal.batch = journal.trials.map Trial.message) {row : Message}
    (member : row ∈ store.rows) {trial : Trial} (found : journal.trial? row.id = some trial) :
    trial.message = row ∧ row.isPending = true := by
  have here := claimed.find?_of_tried unique split found
  have there : store.find? row.id = some row := find?_id_of_mem unique member
  rw [there, Option.some.injEq] at here
  have tried := (Journal.trial?_spec found).1
  exact ⟨here.symm, here ▸ claimed.pending _ (Journal.mem_batch split tried)⟩

theorem halfStaged_settleAll (claimed : Claimed store journal.batch)
    (unique : (store.rows.map Message.id).Nodup) (no_inserts : tx.inserts = [])
    (unchanged : tx.updates = []) (split : journal.batch = journal.trials.map Trial.message)
    {attempts : Attempts} (records : attempts.Records journal.trials) (now : Instant) :
    journal.HalfStaged now (store.settleAll (.processed now) tx attempts.published) := by
  have keeps := @Trial.id_published?
  have distinct := claimed.trials_distinct split
  have nothing (id : Uuid) : tx.update? id = none := by simp [Transaction.update?, unchanged]
  intro id
  rw [records.published, (Store.update?_settleAll (.processed now) no_inserts
    (distinct.sublist (ids_filterMap_trials (fun _ _ => keeps) _)) (fun _ _ => nothing _)
    (claimed.rows_of_results unique split fun _ _ => keeps) id).2,
    Journal.find?_results (fun _ _ => keeps) distinct]
  cases found : (journal.trial? id).bind Trial.published? with
  | none => exact nothing id
  | some message =>
      obtain ⟨trial, there, published⟩ := Option.bind_eq_some_iff.mp found
      have same : message = trial.message := by
        rcases trial with ⟨tried, error | done⟩
        · cases published
        · cases published
          rfl
      have committed := claimed.find?_of_tried unique split there
      simp [committed, same, Save.revise]

theorem Journal.HalfStaged.settleAll {moment : Instant} (half : journal.HalfStaged moment tx)
    (claimed : Claimed store journal.batch) (unique : (store.rows.map Message.id).Nodup)
    (no_inserts : tx.inserts = []) (split : journal.batch = journal.trials.map Trial.message)
    {attempts : Attempts} (records : attempts.Records journal.trials) :
    journal.Staged moment (store.settleAll .failed tx attempts.refused) := by
  have keeps := @Trial.id_refused?
  have distinct := claimed.trials_distinct split
  have refused_distinct := distinct.sublist (ids_filterMap_trials (fun _ _ => keeps) _)
  have unpublished : ∀ message ∈ journal.trials.filterMap Trial.refused?,
      tx.update? message.id = none := by
    intro message member
    have found := find?_id_of_mem refused_distinct member
    rw [Journal.find?_results (fun _ _ => keeps) distinct] at found
    obtain ⟨trial, there, refused⟩ := Option.bind_eq_some_iff.mp found
    rw [half message.id, there]
    rcases trial with ⟨tried, error | done⟩
    · rfl
    · cases refused
  intro id
  rw [records.refused, (Store.update?_settleAll .failed no_inserts refused_distinct unpublished
    (claimed.rows_of_results unique split fun _ _ => keeps) id).2,
    Journal.find?_results (fun _ _ => keeps) distinct, half id]
  cases found : journal.trial? id with
  | none => rfl
  | some trial =>
      have committed := claimed.find?_of_tried unique split found
      rcases trial with ⟨tried, error | done⟩
      · simp [Trial.refused?, Trial.outcome, committed, Save.revise]
      · simp [Trial.refused?, Trial.published?, Trial.outcome]

end Saves

theorem progress_called {batchSize : Nat} {now : Instant} {store later : Store}
    {injected : Option Error} {iteration next : Iteration}
    (called : Iteration.Called batchSize now store injected iteration next later)
    {journal : Journal} (unique : (store.rows.map Message.id).Nodup)
    (no_inserts : ∀ tx, iteration.transaction? = some tx → tx.inserts = [])
    (untried : iteration.hasFetched = false → journal.trials = [])
    (claimed : ∀ tx, iteration.transaction? = some tx → Claimed store journal.batch)
    (progress : Progress journal iteration) : Progress (journal.called iteration next) next := by
  cases called with
  | refused error => exact .ended _
  | begun => exact .fetching rfl
  | failed error working => exact .undoing _ _
  | fetched tx =>
      cases progress with
      | fetching unchanged =>
          have none_tried := untried rfl
          refine progress_publishNext unchanged ?_ ?_
          · simp [Journal.called, none_tried]
          · constructor
            · simp [Journal.called, none_tried]
            · simp [Journal.called, none_tried]
  | savedProcessed tx attempts =>
      cases progress with
      | savingProcessed unchanged split records =>
          have half := halfStaged_settleAll (claimed tx rfl) unique (no_inserts tx rfl) unchanged
            split records now
          rcases Iteration.afterProcessed_cases
            (store.settleAll (.processed now) tx attempts.published) attempts with
            next | ⟨unrefused, next⟩
          · rw [next]
            exact .savingFailed half split records
          · rw [next]
            exact .committing (half.staged (records.refused.symm.trans unrefused)) split
  | savedFailed tx attempts =>
      cases progress with
      | savingFailed half split records =>
          exact .committing
            (half.settleAll (claimed tx rfl) unique (no_inserts tx rfl) split records) split
  | uncommitted tx report error => exact .ended _
  | committed tx report => exact .ended _
  | undone injected tx error => exact .ended _
  | idle injected iteration uncalled =>
      cases iteration with
      | fetching tx => exact absurd rfl (uncalled _)
      | _ => exact progress

theorem holds_called {batchSize : Nat} {now : Instant} {store later : Store}
    {injected : Option Error} {iteration next : Iteration}
    (called : Iteration.Called batchSize now store injected iteration next later)
    {journal : Journal} (unique : (store.rows.map Message.id).Nodup)
    (no_inserts : ∀ tx, iteration.transaction? = some tx → tx.inserts = [])
    (unfetched : iteration.hasFetched = false → journal.batch = [])
    (holds : ∀ tx, iteration.transaction? = some tx → Holds store tx.number journal.batch)
    (progress : Progress journal iteration) {tx : Transaction}
    (opened : next.transaction? = some tx) :
    Holds later tx.number (journal.called iteration next).batch := by
  rcases called.batch_cases unfetched opened with
    empty | ⟨rfl, fetched, rfl⟩ | ⟨old, old_opened, same, rfl, kept⟩
  · rw [empty]
    exact ⟨by simp, by simp, by simp, List.nodup_nil⟩
  · cases progress with
    | fetching unchanged =>
        rw [fetched]
        exact holds_of_fetch (no_inserts tx rfl) unchanged unique _
  · rw [kept, ← same]
    exact holds old old_opened

theorem progress_answered {result : Except Error Unit} {tx : Transaction} {attempts : Attempts}
    {message : Message} {waiting : List Message} {next : Iteration}
    (answered : Iteration.Answered result (.publishing tx attempts message waiting) next)
    {journal : Journal} (progress : Progress journal (.publishing tx attempts message waiting)) :
    Progress { journal with trials := journal.trials ++ [⟨message, result⟩] } next := by
  cases progress with
  | publishing unchanged split records =>
      have next_split : journal.batch =
          List.map Trial.message (journal.trials ++ [⟨message, result⟩]) ++ waiting := by
        simp [split]
      cases answered with
      | published => exact progress_publishNext unchanged next_split (records.publish message)
      | refused _ _ _ _ error =>
          exact progress_publishNext unchanged next_split (records.refuse message error)

end Outbox.Publisher
