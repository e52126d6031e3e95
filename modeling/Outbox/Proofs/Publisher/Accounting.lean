import Outbox.Proofs.Publisher.Bookkeeping
import Outbox.Proofs.Store.Producers

/-!
# Delivery accounting

Any number of iterations publish what any number of producers have committed, in any interleaving,
with any errors of the store and of the bus, and any of them may be abandoned.  Every committed row
then tells exactly what the committed iterations did to it: its count is the number of those in
which an attempt on it failed, and it is processed after the one in which an attempt succeeded.  No
iteration that fetches after the end of a row tries it again.
-/

set_option autoImplicit false

namespace Outbox.Publisher

open Time (Instant)

/-! ## Counting attempts -/

def Trial.succeeded : Trial → Bool
  | ⟨_, .ok _⟩ => true
  | ⟨_, .error _⟩ => false

/-- An attempt on a row succeeded, or failed. -/
def Journal.tried (journal : Journal) (succeeded : Bool) (id : Uuid) : Bool :=
  journal.trials.any fun trial => trial.message.id = id && trial.succeeded == succeeded

namespace Fleet

/-- The number of committed iterations in which an attempt on a row succeeded, or failed. -/
def countTried (fleet : Fleet) (succeeded : Bool) (id : Uuid) : Nat :=
  fleet.committed.countP fun run => (fleet.journals run).tried succeeded id

def failures (fleet : Fleet) (id : Uuid) : Nat :=
  fleet.countTried false id

def successes (fleet : Fleet) (id : Uuid) : Nat :=
  fleet.countTried true id

end Fleet

theorem Journal.tried_eq (journal : Journal)
    (distinct : (journal.trials.map fun trial => trial.message.id).Nodup) (succeeded : Bool)
    (id : Uuid) :
    journal.tried succeeded id =
      match journal.trial? id with
      | some trial => trial.succeeded == succeeded
      | none => false := by
  unfold Journal.tried Journal.trial?
  generalize journal.trials = trials at distinct
  induction trials with
  | nil => rfl
  | cons trial rest ih =>
      simp only [List.map_cons, List.nodup_cons] at distinct
      rw [List.any_cons]
      by_cases same : trial.message.id = id
      · have unmatched : (rest.any fun other =>
            other.message.id = id && other.succeeded == succeeded) = false := by
          rw [List.any_eq_false]
          intro other member
          have different : other.message.id ≠ id := same ▸ Trial.ne_of_distinct distinct.1 member
          simp [different]
        simp [same, unmatched]
      · rw [ih distinct.2, List.find?_cons_of_neg (by simpa using same)]
        simp [same]

/-! ## The account of a row -/

/-- What a row tells about its failed and successful attempts. -/
structure Accounted (row : Message) (failures successes : Nat) : Prop where
  limit : row.maxRetries = Message.defaultMaxRetries
  count : row.retryCount = Int32.ofNat failures
  state : (row.status = .pending ∧ failures < 3 ∧ successes = 0) ∨
    (row.status = .processed ∧ failures < 3 ∧ successes = 1) ∨
    (row.status = .failed ∧ failures = 3 ∧ successes = 0)

theorem accounted_of_isNew {row : Message} (new : row.IsNew) : Accounted row 0 0 where
  limit := new.maxRetries
  count := new.retryCount
  state := Or.inl ⟨new.status, by omega, rfl⟩

theorem Accounted.of_pending {row : Message} {failures successes : Nat}
    (accounted : Accounted row failures successes) (pending : row.isPending = true) :
    row.status = .pending ∧ failures < 3 ∧ successes = 0 := by
  rcases accounted.state with open_row | ⟨status, _⟩ | ⟨status, _⟩
  · exact open_row
  · simp [Message.isPending, status, Status.isTerminal] at pending
  · simp [Message.isPending, status, Status.isTerminal] at pending

theorem Accounted.processed {row : Message} {failures successes : Nat}
    (accounted : Accounted row failures successes) (pending : row.isPending = true)
    (moment : Instant) : Accounted (row.processed moment) failures (successes + 1) := by
  obtain ⟨_, few, none_yet⟩ := accounted.of_pending pending
  exact ⟨accounted.limit, accounted.count, Or.inr (Or.inl ⟨rfl, few, by omega⟩)⟩

theorem Accounted.refused {row : Message} {failures successes : Nat}
    (accounted : Accounted row failures successes) (pending : row.isPending = true)
    (reason : String) : Accounted (row.refused reason) (failures + 1) successes := by
  obtain ⟨status, few, none_yet⟩ := accounted.of_pending pending
  have count : (row.refused reason).retryCount = Int32.ofNat failures + 1 := by
    rw [← accounted.count]
    rfl
  have ends : (row.refused reason).status =
      if Message.defaultMaxRetries ≤ Int32.ofNat failures + 1 then .failed else .pending := by
    rw [← accounted.count, ← accounted.limit, ← status]
    rfl
  obtain first | second | third : failures = 0 ∨ failures = 1 ∨ failures = 2 := by omega
  · subst first
    exact ⟨accounted.limit, count, Or.inl ⟨ends, by omega, none_yet⟩⟩
  · subst second
    exact ⟨accounted.limit, count, Or.inl ⟨ends, by omega, none_yet⟩⟩
  · subst third
    exact ⟨accounted.limit, count, Or.inr (Or.inr ⟨ends, rfl, none_yet⟩)⟩

/-! ## Histories in which all others are producers -/

def Move.issued? : Move → Option Uuid
  | .request asked => asked.issued?
  | _ => none

/-- The ids that a history gives to new rows. -/
def issued (moves : List Move) : List Uuid :=
  moves.filterMap Move.issued?

/-- Whoever is no iteration is a producer, and no id is given twice. -/
structure Produced (moves : List Move) : Prop where
  producers : ∀ request, .request request ∈ moves → request.isProducer = true
  fresh : (issued moves).Nodup

theorem Produced.before {past future : List Move} (produced : Produced (past ++ future)) :
    Produced past where
  producers := fun request member => produced.producers request (List.mem_append_left _ member)
  fresh := by
    have fresh := produced.fresh
    rw [issued, List.filterMap_append] at fresh
    exact (List.nodup_append'.mp fresh).1

theorem Produced.last {past : List Move} {move : Move} (produced : Produced (past ++ [move])) :
    (∀ request, move = .request request → request.isProducer = true) ∧
    (∀ id, move.issued? = some id → id ∉ issued past) := by
  constructor
  · rintro request rfl
    exact produced.producers request (by simp)
  · intro id given
    have fresh := produced.fresh
    rw [issued, List.filterMap_append, List.nodup_append'] at fresh
    intro known
    exact fresh.2.2 known (by simp [given])

namespace Fleet

/-- What the iterations and the producers of a fleet have in hand. -/
structure Books (issued : List Uuid) (fleet : Fleet) : Prop where
  producing : fleet.sessions.Producing issued
  holds : ∀ run tx, fleet.transaction? run = some tx →
    Holds fleet.store tx.number (fleet.batch run)
  progress : ∀ run iteration, fleet.iterations run = some iteration →
    Progress (fleet.journals run) iteration
  /-- An iteration tries the rows that it has claimed one after the other. -/
  tried : ∀ run, (fleet.trials run).map Trial.message <+: fleet.batch run
  /-- Whatever was claimed is committed. -/
  claimed : ∀ run, ∀ id ∈ (fleet.batch run).map Message.id,
    id ∈ fleet.store.rows.map Message.id

theorem books_empty (home : StoreId) : Books [] (empty home) where
  producing := Sessions.producing_empty home
  holds := by
    intro run tx opened
    cases opened
  progress := by
    intro run iteration running
    cases running
    exact .starting
  tried := fun _ => List.prefix_rfl
  claimed := by
    intro run id member
    cases member

/-! ### Rows after a move -/

/-- How a move changes the committed rows: not at all, or it is the commit of a producer, or that of
an iteration. -/
theorem Moved.rows_cases {fleet after : Fleet} {move : Move} (moved : Moved fleet move after)
    (sound : fleet.Sound) {issued : List Uuid} (books : Books issued fleet) :
    (after.store.rows = fleet.store.rows ∧ after.committed = fleet.committed) ∨
    (∃ number tx, fleet.sessions.handles number = some tx ∧
      after.store.rows = fleet.store.rows ++ tx.inserts ∧
      after.committed = fleet.committed) ∨
    (∃ run tx report, move.run? = some run ∧
      fleet.iterations run = some (.committing tx report) ∧
      after.store.rows = fleet.store.rows.map (fun row => (tx.update? row.id).getD row) ∧
      after.committed = fleet.committed ++ [run] ∧ after.journals = fleet.journals) := by
  cases moved with
  | nothing => exact Or.inl ⟨rfl, rfl⟩
  | requested change =>
      cases change with
      | @committed number tx opened =>
          exact Or.inr (Or.inl ⟨number, tx, opened, books.producing.rows_installed opened, rfl⟩)
      | _ => exact Or.inl ⟨rfl, rfl⟩
  | @called run batchSize now injected iteration next store running called =>
      by_cases commits : iteration.commits next = true
      · obtain ⟨⟨tx, report, rfl⟩, other, rfl⟩ := Iteration.commits_cases commits
        have opened := transaction?_of_running running
        obtain ⟨lawful, no_inserts, _⟩ := sound.lawful run tx opened
        generalize ended : Iteration.ended (.ok other) = next at called
        cases called with
        | failed => cases ended
        | uncommitted tx report error => cases ended
        | committed tx report =>
            cases ended
            refine Or.inr (Or.inr ⟨run, tx, report, rfl, running, ?_, ?_, ?_⟩)
            · exact Store.rows_installed_of_updates lawful no_inserts books.producing.distinct
            · simp [afterCall, Iteration.commits]
            · simp [afterCall, Journal.called]
        | idle => cases ended
      · have uncommitted : iteration.commits next = false := by simpa using commits
        refine Or.inl ⟨called.rows_of_uncommitted uncommitted, ?_⟩
        simp [afterCall, uncommitted]
  | answered running answered => exact Or.inl ⟨rfl, rfl⟩
  | withdrawn running => exact Or.inl ⟨rfl, rfl⟩
  | abandoned opened => exact Or.inl ⟨rfl, rfl⟩

/-- What an iteration is about to commit: the outcomes of its attempts on rows that it holds. -/
theorem Books.committing {issued : List Uuid} {fleet : Fleet} (books : Books issued fleet)
    {run : Nat} {tx : Transaction} {report : Report}
    (running : fleet.iterations run = some (.committing tx report)) :
    (∃ moment, (fleet.journals run).Staged moment tx) ∧
    Holds fleet.store tx.number (fleet.batch run) ∧
    fleet.batch run = (fleet.trials run).map Trial.message := by
  have holds := books.holds run tx (transaction?_of_running running)
  have progress := books.progress run _ running
  cases progress with
  | committing staged split => exact ⟨⟨_, staged⟩, holds, split⟩

/-- A commit of an iteration changes rows only that it has claimed. -/
theorem Books.claimed_of_update {issued : List Uuid} {fleet : Fleet} (books : Books issued fleet)
    {run : Nat} {tx : Transaction} {report : Report}
    (running : fleet.iterations run = some (.committing tx report)) {id : Uuid}
    (updated : tx.update? id ≠ none) : ∃ message ∈ fleet.batch run, message.id = id := by
  obtain ⟨⟨moment, staged⟩, holds, split⟩ := books.committing running
  rw [staged id, ne_eq, Option.map_eq_none_iff] at updated
  obtain ⟨trial, found⟩ := Option.ne_none_iff_exists'.mp updated
  obtain ⟨tried, own⟩ := Journal.trial?_spec found
  exact ⟨trial.message, Journal.mem_batch split tried, own⟩

/-- A row stays as it is while an iteration holds it and others move. -/
theorem Moved.row_kept {fleet after : Fleet} {move : Move} (moved : Moved fleet move after)
    (sound : fleet.Sound) {issued : List Uuid} (books : Books issued fleet) {run : Nat}
    {tx : Transaction} (opened : fleet.transaction? run = some tx)
    (foreign : move.run? ≠ some run) {row : Message} (member : row ∈ fleet.store.rows)
    (held : fleet.store.owner? row.id = some tx.number) : row ∈ after.store.rows := by
  rcases moved.rows_cases sound books with
    ⟨same, _⟩ | ⟨number, other, _, appended, _⟩ |
    ⟨caller, other, report, mover, running, changed, _⟩
  · rw [same]
    exact member
  · rw [appended]
    exact List.mem_append_left _ member
  · rw [changed]
    refine List.mem_map.mpr ⟨row, member, ?_⟩
    have untouched : other.update? row.id = none := by
      by_contra updated
      obtain ⟨message, claimed, same⟩ := books.claimed_of_update running updated
      have other_holds := (books.committing running).2.1.held message claimed
      rw [same, held, Option.some.injEq] at other_holds
      have own := sound.apart run caller tx other opened (transaction?_of_running running)
        other_holds
      exact foreign (own ▸ mover)
    simp [untouched]

/-! ### Books after a move -/

theorem Moved.holds {fleet after : Fleet} {move : Move} (moved : Moved fleet move after)
    (sound : fleet.Sound) {issued : List Uuid} (books : Books issued fleet)
    (producer : ∀ request, move = .request request → request.isProducer = true) {run : Nat}
    {tx : Transaction} (opened : after.transaction? run = some tx) :
    Holds after.store tx.number (after.batch run) := by
  obtain ⟨next, running, next_opened⟩ := iteration_of_transaction opened
  rcases moved.iteration_cases running with
    foreign | ⟨rfl, _⟩ | ⟨_, _, _, iteration, store, _, was_running, called, rfl⟩ |
    ⟨_, _, _, message, _, _, was_running, answered, rfl⟩
  · rw [moved.transaction?_other foreign] at opened
    rw [moved.batch_other foreign]
    have holds := books.holds run tx opened
    refine ⟨?_, holds.pending, ?_, holds.distinct⟩
    · intro message member
      exact moved.row_kept sound books opened foreign (holds.committed message member)
        (holds.held message member)
    · intro message member
      rcases moved.owner_kept sound opened foreign (holds.held message member) with
        kept | ⟨number, limit, other, rfl, _⟩
      · exact kept
      · cases producer _ rfl
  · exact books.holds run tx opened
  · have before := transaction?_of_running was_running
    rw [batch_afterCall_self]
    exact holds_called called books.producing.distinct
      (fun old held => (sound.lawful run old (before.trans held)).2.1)
      (fun early => (sound.unfetched run iteration was_running early).1)
      (fun old held => books.holds run old (before.trans held))
      (books.progress run iteration was_running) next_opened
  · rw [answered.transaction?, ← transaction?_of_running was_running] at next_opened
    rw [batch_afterAnswer]
    exact books.holds run tx next_opened

theorem Moved.progress {fleet after : Fleet} {move : Move} (moved : Moved fleet move after)
    (sound : fleet.Sound) {issued : List Uuid} (books : Books issued fleet) {run : Nat}
    {iteration : Iteration} (running : after.iterations run = some iteration) :
    Progress (after.journals run) iteration := by
  rcases moved.iteration_cases running with
    foreign | ⟨rfl, _⟩ | ⟨_, _, _, before, store, _, was_running, called, rfl⟩ |
    ⟨_, _, _, message, _, _, was_running, answered, rfl⟩
  · rw [(moved.others foreign).1] at running
    rw [(moved.others foreign).2]
    exact books.progress run iteration running
  · exact books.progress run iteration running
  · have opened := transaction?_of_running was_running
    simp only [afterCall, Function.update_self]
    exact progress_called called books.producing.distinct
      (fun old held => (sound.lawful run old (opened.trans held)).2.1)
      (fun early => (sound.unfetched run before was_running early).2)
      (fun old held => (books.holds run old (opened.trans held)).claimed)
      (books.progress run before was_running)
  · simp only [afterAnswer, Function.update_self]
    exact progress_answered answered (books.progress run _ was_running)

theorem Moved.tried {fleet after : Fleet} {move : Move} (moved : Moved fleet move after)
    (sound : fleet.Sound) {issued : List Uuid} (books : Books issued fleet) (run : Nat) :
    (after.trials run).map Trial.message <+: after.batch run := by
  by_cases own : move.run? = some run
  · cases moved with
    | nothing => exact books.tried run
    | requested change => cases own
    | @called caller _ _ _ before next store was_running called =>
        cases own
        rw [trials_afterCall, batch_afterCall_self]
        cases before with
        | fetching tx =>
            rw [(sound.unfetched run _ was_running rfl).2]
            exact List.nil_prefix
        | _ => exact books.tried run
    | @answered caller _ _ _ message waiting next was_running answered =>
        cases own
        have progress := books.progress run _ was_running
        cases progress with
        | publishing unchanged split records =>
            rw [trials_afterAnswer_self, batch_afterAnswer, batch, split]
            exact ⟨waiting, by simp [trials]⟩
    | withdrawn running => exact books.tried run
    | abandoned opened => exact books.tried run
  · rw [trials, batch, (moved.others own).2]
    exact books.tried run

theorem Moved.claimed {fleet after : Fleet} {move : Move} (moved : Moved fleet move after)
    (sound : fleet.Sound) {issued : List Uuid} (books : Books issued fleet)
    (producer : ∀ request, move = .request request → request.isProducer = true) (run : Nat) :
    ∀ id ∈ (after.batch run).map Message.id, id ∈ after.store.rows.map Message.id := by
  intro id claimed
  cases opened : after.transaction? run with
  | some tx =>
      obtain ⟨message, member, rfl⟩ := List.mem_map.mp claimed
      exact List.mem_map_of_mem ((moved.holds sound books producer opened).committed message member)
  | none =>
      rw [moved.batch_of_closed opened] at claimed
      exact moved.older.rows.subset (books.claimed run id claimed)

theorem Moved.books {fleet after : Fleet} {move : Move} (moved : Moved fleet move after)
    (sound : fleet.Sound) {issued : List Uuid} (books : Books issued fleet)
    (producer : ∀ request, move = .request request → request.isProducer = true)
    (fresh : ∀ id, move.issued? = some id → id ∉ issued) :
    Books (issued ++ move.issued?.toList) after where
  producing := by
    cases moved with
    | nothing => exact books.producing.more (List.subset_append_left _ _)
    | requested change =>
        exact change.producing sound.sessions books.producing (producer _ rfl) fresh
    | called running called =>
        refine (books.producing.more (List.subset_append_left _ _)).congr rfl ?_
        apply called.ids_of_rows
        intro tx opened
        exact (sound.lawful _ tx ((transaction?_of_running running).trans opened)).2.1
    | answered running answered => exact books.producing.more (List.subset_append_left _ _)
    | withdrawn running => exact books.producing.more (List.subset_append_left _ _)
    | abandoned opened =>
        exact (books.producing.more (List.subset_append_left _ _)).congr rfl rfl
  holds := fun _ _ opened => moved.holds sound books producer opened
  progress := fun _ _ running => moved.progress sound books running
  tried := moved.tried sound books
  claimed := moved.claimed sound books producer

theorem books_run (home : StoreId) (moves : List Move) (produced : Produced moves) :
    Books (issued moves) (Fleet.run home moves) := by
  induction moves using List.reverseRecOn with
  | nil => exact books_empty home
  | append_singleton past move ih =>
      obtain ⟨producer, fresh⟩ := produced.last
      have books := (run_moved home past move).books (sound_run home past) (ih produced.before)
        producer fresh
      have more : issued (past ++ [move]) = issued past ++ move.issued?.toList := by
        rw [issued, List.filterMap_append, List.filterMap_cons]
        cases move.issued? <;> rfl
      rw [more]
      exact books

/-! ### The accounts after a move -/

theorem Moved.trials_committed {fleet after : Fleet} {move : Move}
    (moved : Moved fleet move after) (sound : fleet.Sound) {run : Nat}
    (committed : run ∈ fleet.committed) : after.trials run = fleet.trials run := by
  by_cases own : move.run? = some run
  · cases moved with
    | called running called => exact trials_afterCall _ _ _ _ _ _
    | answered running answered =>
        cases own
        obtain ⟨report, ended⟩ := (sound.committed run).mp committed
        rw [running] at ended
        cases ended
    | _ => rfl
  · rw [trials, (moved.others own).2]
    rfl

theorem Moved.countTried_kept {fleet after : Fleet} {move : Move}
    (moved : Moved fleet move after) (sound : fleet.Sound)
    (same : after.committed = fleet.committed) (succeeded : Bool) (id : Uuid) :
    after.countTried succeeded id = fleet.countTried succeeded id := by
  unfold countTried
  rw [same]
  apply List.countP_congr
  intro run committed
  have trials := moved.trials_committed sound committed
  simp only [Fleet.trials] at trials
  simp only [Journal.tried, trials]

theorem Books.countTried_eq_zero {issued : List Uuid} {fleet : Fleet} (books : Books issued fleet)
    {id : Uuid} (uncommitted : id ∉ fleet.store.rows.map Message.id) (succeeded : Bool) :
    fleet.countTried succeeded id = 0 := by
  unfold countTried
  rw [List.countP_eq_zero]
  intro run _ tried
  obtain ⟨trial, member, matches_row⟩ := List.any_eq_true.mp tried
  have own : trial.message.id = id := by
    simp only [Bool.and_eq_true, decide_eq_true_eq] at matches_row
    exact matches_row.1
  have claimed : trial.message ∈ fleet.batch run :=
    (books.tried run).subset (List.mem_map_of_mem member)
  exact uncommitted (own ▸ books.claimed run _ (List.mem_map_of_mem claimed))

def AllAccounted (fleet : Fleet) : Prop :=
  ∀ row ∈ fleet.store.rows, Accounted row (fleet.failures row.id) (fleet.successes row.id)

/-- What the commit of an iteration makes of a row: the outcome of the attempt on it, if there was
one. -/
theorem Books.update_cases {fleet : Fleet} {issued : List Uuid} (books : Books issued fleet)
    {run : Nat} {tx : Transaction} {report : Report}
    (running : fleet.iterations run = some (.committing tx report)) {row : Message}
    (member : row ∈ fleet.store.rows) :
    ((fleet.journals run).trial? row.id = none ∧ (tx.update? row.id).getD row = row) ∨
    ∃ trial moment, (fleet.journals run).trial? row.id = some trial ∧ trial.message = row ∧
      row.isPending = true ∧ (tx.update? row.id).getD row = trial.outcome moment := by
  obtain ⟨⟨moment, staged⟩, holds, split⟩ := books.committing running
  rw [staged row.id]
  cases found : (fleet.journals run).trial? row.id with
  | none => exact Or.inl ⟨rfl, rfl⟩
  | some trial =>
      obtain ⟨same, pending⟩ :=
        holds.claimed.row_of_trial books.producing.distinct split member found
      exact Or.inr ⟨trial, moment, rfl, same, pending, rfl⟩

/-- The commit of an iteration accounts for the outcome of its attempt on a row. -/
theorem accounted_of_commit {fleet : Fleet} {issued : List Uuid} (books : Books issued fleet)
    {run : Nat} {tx : Transaction} {report : Report}
    (running : fleet.iterations run = some (.committing tx report)) {row : Message}
    (member : row ∈ fleet.store.rows) {failures successes : Nat}
    (accounted : Accounted row failures successes) :
    ((tx.update? row.id).getD row).id = row.id ∧
    Accounted ((tx.update? row.id).getD row)
      (failures + if (fleet.journals run).tried false row.id then 1 else 0)
      (successes + if (fleet.journals run).tried true row.id then 1 else 0) := by
  obtain ⟨_, holds, split⟩ := books.committing running
  have distinct := holds.claimed.trials_distinct split
  rw [Journal.tried_eq _ distinct, Journal.tried_eq _ distinct]
  rcases books.update_cases running member with
    ⟨untried, same⟩ | ⟨trial, moment, found, same, pending, outcome⟩
  · rw [untried, same]
    exact ⟨rfl, accounted⟩
  · rw [found, outcome]
    refine ⟨by rw [Trial.id_outcome, same], ?_⟩
    rcases trial with ⟨message, error | done⟩
    · cases same
      exact accounted.refused pending _
    · cases same
      exact accounted.processed pending moment

theorem Moved.allAccounted {fleet after : Fleet} {move : Move} (moved : Moved fleet move after)
    (sound : fleet.Sound) {issued : List Uuid} (books : Books issued fleet)
    (accounted : fleet.AllAccounted) : after.AllAccounted := by
  intro row member
  rcases moved.rows_cases sound books with
    ⟨same, committed⟩ | ⟨number, tx, opened, appended, committed⟩ |
    ⟨run, tx, report, _, running, changed, committed, journals⟩
  · rw [failures, successes, moved.countTried_kept sound committed,
      moved.countTried_kept sound committed]
    exact accounted row (same ▸ member)
  · rw [failures, successes, moved.countTried_kept sound committed,
      moved.countTried_kept sound committed]
    rw [appended] at member
    rcases List.mem_append.mp member with earlier | inserted
    · exact accounted row earlier
    · obtain ⟨is_new, _, uncommitted⟩ := books.producing.new number tx opened row inserted
      rw [books.countTried_eq_zero uncommitted, books.countTried_eq_zero uncommitted]
      exact accounted_of_isNew is_new
  · rw [changed] at member
    obtain ⟨old, old_member, rfl⟩ := List.mem_map.mp member
    obtain ⟨same_id, now_accounted⟩ :=
      accounted_of_commit books running old_member (accounted old old_member)
    have counts (succeeded : Bool) (id : Uuid) : after.countTried succeeded id =
        fleet.countTried succeeded id +
          if (fleet.journals run).tried succeeded id then 1 else 0 := by
      rw [countTried, committed, journals, List.countP_append, List.countP_singleton]
      rfl
    rw [same_id, failures, successes, counts, counts]
    exact now_accounted

theorem allAccounted_run (home : StoreId) (moves : List Move) (produced : Produced moves) :
    (Fleet.run home moves).AllAccounted := by
  induction moves using List.reverseRecOn with
  | nil =>
      intro row member
      cases member
  | append_singleton past move ih =>
      exact (run_moved home past move).allAccounted (sound_run home past)
        (books_run home past produced.before) (ih produced.before)

/-! ## Rows that have ended -/

theorem Books.unclaimed_of_ended {issued : List Uuid} {fleet : Fleet}
    (books : Books issued fleet) {run : Nat} {tx : Transaction}
    (opened : fleet.transaction? run = some tx) {row : Message}
    (member : row ∈ fleet.store.rows) (ended : row.isPending = false) :
    row.id ∉ (fleet.batch run).map Message.id := by
  intro claimed
  obtain ⟨message, there, same⟩ := List.mem_map.mp claimed
  have holds := books.holds run tx opened
  have here := holds.claimed.find? books.producing.distinct there
  have own : fleet.store.find? row.id = some row :=
    find?_id_of_mem books.producing.distinct member
  rw [same, own, Option.some.injEq] at here
  rw [here, holds.pending message there] at ended
  cases ended

theorem Moved.ended_row_kept {fleet after : Fleet} {move : Move} (moved : Moved fleet move after)
    (sound : fleet.Sound) {issued : List Uuid} (books : Books issued fleet) {row : Message}
    (member : row ∈ fleet.store.rows) (ended : row.isPending = false) :
    row ∈ after.store.rows := by
  rcases moved.rows_cases sound books with
    ⟨same, _⟩ | ⟨number, tx, _, appended, _⟩ | ⟨run, tx, report, _, running, changed, _⟩
  · rw [same]
    exact member
  · rw [appended]
    exact List.mem_append_left _ member
  · rw [changed]
    refine List.mem_map.mpr ⟨row, member, ?_⟩
    have untouched : tx.update? row.id = none := by
      by_contra updated
      obtain ⟨message, claimed, same⟩ := books.claimed_of_update running updated
      have opened := transaction?_of_running running
      exact books.unclaimed_of_ended opened member ended
        (same ▸ List.mem_map_of_mem claimed)
    simp [untouched]

/-- Whoever has not claimed a row by its end never does. -/
theorem unclaimed_after_end (home : StoreId) (past future : List Move)
    (produced : Produced (past ++ future)) {row : Message}
    (member : row ∈ (Fleet.run home past).store.rows) (ended : row.isPending = false) {run : Nat}
    (unclaimed : row.id ∉ ((Fleet.run home past).batch run).map Message.id) :
    row ∈ (Fleet.run home (past ++ future)).store.rows ∧
    row.id ∉ ((Fleet.run home (past ++ future)).batch run).map Message.id := by
  induction future using List.reverseRecOn with
  | nil =>
      rw [List.append_nil]
      exact ⟨member, unclaimed⟩
  | append_singleton before move ih =>
      rw [← List.append_assoc] at produced ⊢
      obtain ⟨still_there, still_unclaimed⟩ := ih produced.before
      have moved := run_moved home (past ++ before) move
      have there := moved.ended_row_kept (sound_run home _) (books_run home _ produced.before)
        still_there ended
      refine ⟨there, ?_⟩
      cases opened : (Fleet.run home (past ++ before ++ [move])).transaction? run with
      | some tx =>
          exact (books_run home _ produced).unclaimed_of_ended opened there ended
      | none =>
          rw [moved.batch_of_closed opened]
          exact still_unclaimed

/-! ## The accounts of a whole run -/

structure Account (fleet : Fleet) (row : Message) : Prop where
  retryCount : row.retryCount.toInt = fleet.failures row.id
  processed : row.status = .processed ↔ fleet.successes row.id = 1
  failed : row.status = .failed ↔
    row.retryCount = row.maxRetries ∧ fleet.successes row.id = 0
  otherwise : row.status ≠ .processed → row.status ≠ .failed →
    row.status = .pending ∧ row.retryCount < row.maxRetries

theorem account_of_accounted {fleet : Fleet} {row : Message}
    (accounted : Accounted row (fleet.failures row.id) (fleet.successes row.id)) :
    Account fleet row := by
  have few : fleet.failures row.id ≤ 3 := by
    rcases accounted.state with ⟨_, few, _⟩ | ⟨_, few, _⟩ | ⟨_, few, _⟩ <;> omega
  have exact_count : row.retryCount.toInt = fleet.failures row.id := by
    rw [accounted.count]
    generalize fleet.failures row.id = failures at few
    obtain rfl | rfl | rfl | rfl :
      failures = 0 ∨ failures = 1 ∨ failures = 2 ∨ failures = 3 := by omega
    all_goals rfl
  have limit : row.maxRetries.toInt = 3 := by
    rw [accounted.limit]
    rfl
  have at_limit : row.retryCount = row.maxRetries ↔ fleet.failures row.id = 3 := by
    rw [← Int32.toInt_inj, exact_count, limit]
    omega
  have below : row.retryCount < row.maxRetries ↔ fleet.failures row.id < 3 := by
    rw [Int32.lt_iff_toInt_lt, exact_count, limit]
    omega
  refine ⟨exact_count, ?_, ?_, ?_⟩
  · rcases accounted.state with ⟨status, _, count⟩ | ⟨status, _, count⟩ | ⟨status, _, count⟩ <;>
      simp [status, count]
  · rw [at_limit]
    rcases accounted.state with ⟨status, few, count⟩ | ⟨status, few, count⟩ |
      ⟨status, few, count⟩
    · simp only [status, reduceCtorEq, false_iff]
      omega
    · simp only [status, reduceCtorEq, false_iff]
      omega
    · simp [status, few, count]
  · intro unprocessed unfailed
    rw [below]
    rcases accounted.state with ⟨status, few, _⟩ | ⟨status, _⟩ | ⟨status, _⟩
    · exact ⟨status, few⟩
    · exact absurd status unprocessed
    · exact absurd status unfailed

/-- Every committed row is accounted for by the committed iterations, and no iteration that fetches
after the end of a row claims or tries the row again. -/
theorem deliveries_are_accounted (home : StoreId) (past future : List Move)
    (produced : Produced (past ++ future)) :
    (Fleet.run home past).committed.Nodup ∧
    (∀ run, run ∈ (Fleet.run home past).committed ↔
      ∃ report, (Fleet.run home past).iterations run = some (.ended (.ok report))) ∧
    ∀ row ∈ (Fleet.run home past).store.rows,
      Account (Fleet.run home past) row ∧
      (row.isPending = false → ∀ run iteration,
        (Fleet.run home past).iterations run = some iteration → iteration.hasFetched = false →
        row.id ∉ ((Fleet.run home (past ++ future)).batch run).map Message.id ∧
        ∀ trial ∈ (Fleet.run home (past ++ future)).trials run, trial.message.id ≠ row.id) := by
  have sound := sound_run home past
  refine ⟨sound.committed_distinct, sound.committed, ?_⟩
  intro row member
  refine ⟨account_of_accounted (allAccounted_run home past produced.before row member), ?_⟩
  intro ended run iteration running early
  have unclaimed : row.id ∉ ((Fleet.run home past).batch run).map Message.id := by
    rw [(sound.unfetched run iteration running early).1]
    exact List.not_mem_nil
  obtain ⟨_, never⟩ := unclaimed_after_end home past future produced member ended unclaimed
  refine ⟨never, ?_⟩
  intro trial tried same
  have claimed := ((books_run home _ produced).tried run).subset (List.mem_map_of_mem tried)
  exact never (same ▸ List.mem_map_of_mem claimed)

/-- A row is refused by the bus in one iteration and taken in the next. -/
def retriedHistory : List Move :=
  [.request .begin,
    .request (.enqueue 1 default .epoch "fruit.events"
      { aggregateId := 1, aggregateType := "fruit", payload := [0x7B, 0x7D] }),
    .request (.commit 1),
    .call 0 10 .epoch none, .call 0 10 .epoch none, .answer 0 (.error (.eventBus "busy")),
    .call 0 10 .epoch none, .call 0 10 .epoch none,
    .call 1 10 .epoch none, .call 1 10 .epoch none, .answer 1 (.ok ()),
    .call 1 10 .epoch none, .call 1 10 .epoch none]

/-- The row counts one failure and is processed, and the next iteration claims nothing. -/
theorem retriedHistory_is_accounted :
    Produced (retriedHistory ++ [.call 2 10 .epoch none, .call 2 10 .epoch none]) ∧
    (Fleet.run 0 retriedHistory).committed = [0, 1] ∧
    ∃ row, (Fleet.run 0 retriedHistory).store.rows = [row] ∧
      row.status = .processed ∧ row.retryCount = 1 ∧
      Account (Fleet.run 0 retriedHistory) row ∧
      row.id ∉ ((Fleet.run 0 (retriedHistory ++
        [.call 2 10 .epoch none, .call 2 10 .epoch none])).batch 2).map Message.id := by
  have produced :
      Produced (retriedHistory ++ [.call 2 10 .epoch none, .call 2 10 .epoch none]) := by
    constructor
    · intro request member
      simp only [retriedHistory, List.cons_append, List.nil_append, List.mem_cons,
        Move.request.injEq, reduceCtorEq, List.not_mem_nil, or_false] at member
      rcases member with rfl | rfl | rfl <;> rfl
    · have given : issued (retriedHistory ++
          [.call 2 10 .epoch none, .call 2 10 .epoch none]) = [default] := by
        rfl
      rw [given]
      exact List.nodup_singleton _
  have rows : (Fleet.run 0 retriedHistory).store.rows =
      [(Message.fruit.refused (Error.eventBus "busy").message).processed .epoch] := by
    rfl
  obtain ⟨_, _, accounts⟩ := deliveries_are_accounted 0 retriedHistory _ produced
  obtain ⟨account, never⟩ := accounts _ (by rw [rows]; exact List.mem_singleton_self _)
  exact ⟨produced, by rfl, _, rows, rfl, by rfl, account,
    (never rfl 2 .starting (by rfl) rfl).1⟩

end Fleet

end Outbox.Publisher
