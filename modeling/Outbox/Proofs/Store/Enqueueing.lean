import Outbox.Proofs.Store.Erasure
import Outbox.Proofs.Store.Issued
import Outbox.Proofs.Store.Overwrites

/-!
# What enqueueing adds

A submission is refused exactly if it breaks a rule, and then for the first rule that it breaks, in
the order of the rules.  A transaction that is used for submissions alone stages a row for each of
them that keeps all rules, in the order in which they were handed in, and nothing for the others.
Its commit appends these rows to whatever the commit would have shown without them.  If it does not
commit, nothing is appended.
-/

set_option autoImplicit false

namespace Outbox

open Time (Instant)

/-! ## Rules -/

/-- The rules about a submission. -/
inductive Rule where
  | aggregateId
  | aggregateType
  | payload
  | metadata
  deriving DecidableEq

namespace Rule

/-- The rules in the order in which they are checked. -/
def all : List Rule := [.aggregateId, .aggregateType, .payload, .metadata]

/-- The name of the field that a rule is about. -/
def field : Rule → String
  | .aggregateId => "aggregate_id"
  | .aggregateType => "aggregate_type"
  | .payload => "payload"
  | .metadata => "metadata"

/-- A submission keeps a rule.  Texts are measured in characters, the payload in bytes. -/
def Holds (submission : Submission) : Rule → Prop
  | .aggregateId => 1 ≤ submission.aggregateId.toInt
  | .aggregateType =>
    3 ≤ submission.aggregateType.toList.length ∧ submission.aggregateType.toList.length ≤ 100
  | .payload => 2 ≤ submission.payload.length
  | .metadata => submission.metadata.toList.length ≤ 1000

instance (submission : Submission) (rule : Rule) : Decidable (rule.Holds submission) :=
  match rule with
  | .aggregateId => inferInstanceAs (Decidable (_ ≤ _))
  | .aggregateType => inferInstanceAs (Decidable (_ ∧ _))
  | .payload => inferInstanceAs (Decidable (_ ≤ _))
  | .metadata => inferInstanceAs (Decidable (_ ≤ _))

end Rule

namespace Submission

/-- The first rule that a submission breaks. -/
def firstBroken? (submission : Submission) : Option Rule :=
  Rule.all.find? fun rule => ¬rule.Holds submission

/-- The row of a submission that was accepted. -/
def row (submission : Submission) (id : Uuid) (now : Instant) (topic : String) : Message where
  id := id
  aggregateId := submission.aggregateId
  aggregateType := submission.aggregateType
  topic := topic
  payload := submission.payload
  createdAt := now
  processedAt := none
  status := .pending
  retryCount := 0
  maxRetries := 3
  lastError := ""
  metadata := submission.metadata

theorem validate_cases (submission : Submission) :
    (submission.firstBroken? = none ∧ submission.validate = .ok ()) ∨
    ∃ rule reason, submission.firstBroken? = some rule ∧
      submission.validate = .error (.validation rule.field reason) := by
  have id_broken : submission.aggregateId < 1 ↔ ¬Rule.aggregateId.Holds submission := by
    have one : (1 : Int64).toInt = 1 := by rfl
    rw [Int64.lt_iff_toInt_lt, one, Rule.Holds]
    omega
  have type_broken : (submission.aggregateType.length < minTypeLength ∨
      maxTypeLength < submission.aggregateType.length) ↔
      ¬Rule.aggregateType.Holds submission := by
    rw [Rule.Holds, String.length_toList, minTypeLength, maxTypeLength]
    omega
  have payload_broken : submission.payload.length < minPayloadLength ↔
      ¬Rule.payload.Holds submission := by
    rw [Rule.Holds, minPayloadLength]
    omega
  have metadata_broken : maxMetadataLength < submission.metadata.length ↔
      ¬Rule.metadata.Holds submission := by
    rw [Rule.Holds, String.length_toList, maxMetadataLength]
    omega
  unfold firstBroken? validate violation? Rule.all
  simp only [id_broken, type_broken, payload_broken, metadata_broken]
  by_cases id_kept : Rule.aggregateId.Holds submission
  · by_cases type_kept : Rule.aggregateType.Holds submission
    · by_cases payload_kept : Rule.payload.Holds submission
      · by_cases metadata_kept : Rule.metadata.Holds submission
        · simp [id_kept, type_kept, payload_kept, metadata_kept]
        · simp [id_kept, type_kept, payload_kept, metadata_kept, Rule.field]
      · simp [id_kept, type_kept, payload_kept, Rule.field]
    · simp [id_kept, type_kept, Rule.field]
  · simp [id_kept, Rule.field]

theorem accept_cases (submission : Submission) (id : Uuid) (now : Instant) (topic : String) :
    (submission.firstBroken? = none ∧
      submission.accept id now topic = .ok (submission.row id now topic)) ∨
    ∃ rule reason, submission.firstBroken? = some rule ∧
      submission.accept id now topic = .error (.validation rule.field reason) := by
  rcases submission.validate_cases with ⟨kept, valid⟩ | ⟨rule, reason, broken, invalid⟩
  · exact Or.inl ⟨kept, by rw [accept, valid]; rfl⟩
  · exact Or.inr ⟨rule, reason, broken, by rw [accept, invalid]⟩

end Submission

/-! ## Rows behind the others -/

namespace Transaction

theorem replace_append {message : Message} {rows : List Message}
    (there : message.id ∈ rows.map Message.id) (more : List Message) :
    replace message (rows ++ more) = replace message rows ++ more := by
  induction rows with
  | nil => cases there
  | cons row rest ih =>
      rw [List.cons_append, replace, replace]
      by_cases same : row.id = message.id
      · rw [if_pos same, if_pos same, List.cons_append]
      · have later : message.id ∈ rest.map Message.id := by
          rcases List.mem_cons.mp there with first | later
          · exact absurd first.symm same
          · exact later
        rw [if_neg same, if_neg same, ih later, List.cons_append]

/-- Updates of rows that are there leave what comes behind them alone. -/
theorem foldl_replace_append {updates rows : List Message}
    (there : ∀ update ∈ updates, update.id ∈ rows.map Message.id) (more : List Message) :
    updates.foldl (fun rows update => replace update rows) (rows ++ more) =
      updates.foldl (fun rows update => replace update rows) rows ++ more := by
  induction updates generalizing rows with
  | nil => rfl
  | cons update rest ih =>
      rw [List.foldl_cons, List.foldl_cons, replace_append (there update List.mem_cons_self)]
      apply ih
      intro other member
      rw [map_id_replace]
      exact there other (List.mem_cons_of_mem _ member)

end Transaction

theorem Store.rows_installed_append {store : Store} {tx : Transaction} (lawful : tx.Lawful store)
    (more : List Message) :
    (store.installed { tx with inserts := tx.inserts ++ more }).rows =
      (store.installed tx).rows ++ more := by
  have there : ∀ update ∈ tx.updates,
      update.id ∈ (store.rows ++ tx.inserts).map Message.id := by
    intro update member
    have found : tx.update? update.id = some update :=
      find?_id_of_mem lawful.updates_distinct member
    rw [List.map_append]
    exact List.mem_append_left _
      (lawful.updates_committed update.id (Option.isSome_of_eq_some found))
  simp only [installed, rows_release]
  rw [← List.append_assoc, Transaction.foldl_replace_append there]

namespace Sessions

/-! ## Ids that a history knows -/

/-- Every id of a row, committed or not, was given by a request. -/
theorem ids_issued (home : StoreId) (past : List Request) :
    (∀ id ∈ (run home past).store.rows.map Message.id, id ∈ issuedIds past) ∧
    ∀ number tx, (run home past).handles number = some tx →
      ∀ id ∈ tx.inserts.map Message.id, id ∈ issuedIds past := by
  induction past using List.reverseRecOn with
  | nil =>
      refine ⟨by simp [run, play, empty], ?_⟩
      intro number tx opened
      cases opened
  | append_singleton past request ih =>
      obtain ⟨rows, inserts⟩ := ih
      have change := run_change home past request
      rw [issuedIds_concat]
      constructor
      · intro id committed
        rcases change.rowId_origin committed with earlier | ⟨number, tx, _, opened, inserted⟩
        · exact List.mem_append_left _ (rows id earlier)
        · exact List.mem_append_left _ (inserts number tx opened id inserted)
      · intro number tx opened id inserted
        rcases change.insertId_origin opened inserted with ⟨old, was_opened, earlier⟩ | ⟨given, _⟩
        · exact List.mem_append_left _ (inserts number old was_opened id earlier)
        · exact List.mem_append_right _ (by simp [given])

/-! ## One submission -/

theorem step_enqueue_broken {sessions : Sessions} {number : Nat} {tx : Transaction}
    (opened : sessions.handles number = some tx) {submission : Submission} {rule : Rule}
    (broken : submission.firstBroken? = some rule) (id : Uuid) (now : Instant) (topic : String) :
    ∃ reason, sessions.step (.enqueue number id now topic submission) =
      (sessions, .refused (.validation rule.field reason)) := by
  rcases submission.accept_cases id now topic with ⟨kept, _⟩ | ⟨first, reason, found, refused⟩
  · rw [broken] at kept
    cases kept
  · rw [broken, Option.some.injEq] at found
    subst found
    refine ⟨reason, ?_⟩
    simp only [step, on_of_open opened, Store.enqueue, refused]

theorem step_enqueue_kept {sessions : Sessions} (sound : sessions.Sound) {number : Nat}
    {tx : Transaction} (opened : sessions.handles number = some tx) {submission : Submission}
    (kept : submission.firstBroken? = none) {id : Uuid}
    (uncommitted : id ∉ sessions.store.rows.map Message.id)
    (new : id ∉ tx.inserts.map Message.id) (now : Instant) (topic : String) :
    sessions.step (.enqueue number id now topic submission) =
      (sessions.put number { tx with inserts := tx.inserts ++ [submission.row id now topic] },
        .enqueued id) := by
  rcases submission.accept_cases id now topic with ⟨_, accepted⟩ | ⟨rule, reason, broken, _⟩
  · have absent : sessions.store.find? id = none := (find?_id_eq_none _ id).mpr uncommitted
    have unstaged : tx.insert? id = none := (find?_id_eq_none _ id).mpr new
    have created : sessions.store.create tx (submission.row id now topic) =
        .ok { tx with inserts := tx.inserts ++ [submission.row id now topic] } := by
      rcases create_cases (sound _ _ opened).2.owned (submission.row id now topic) with
        ⟨_, _, result⟩ | ⟨committed | own, _⟩
      · exact result
      · change (sessions.store.find? id).isSome = true at committed
        rw [absent] at committed
        cases committed
      · change (tx.insert? id).isSome = true at own
        rw [unstaged] at own
        cases own
    simp only [step, on_of_open opened, Store.enqueue, accepted, created]
    rfl
  · rw [kept] at broken
    cases broken

/-! ## All submissions -/

/-- The row that a request stages in a transaction if it is a submission that keeps all rules. -/
def stagedRow? (number : Nat) : Request → Option Message
  | .enqueue owner id now topic submission =>
    if owner = number ∧ submission.firstBroken? = none then some (submission.row id now topic)
    else none
  | _ => none

def stagedRows (number : Nat) (turns : List Request) : List Message :=
  turns.filterMap (stagedRow? number)

/-- A transaction is used for submissions alone, while others do as they like, and each submission
has an id that nothing was given before. -/
structure Enqueueing (past : List Request) (number : Nat) (turns : List Request) : Prop where
  only : ∀ request ∈ turns, request.number? = some number →
    ∃ id now topic submission, request = .enqueue number id now topic submission
  fresh : ∀ before id now topic submission after,
    turns = before ++ .enqueue number id now topic submission :: after →
    id ∉ issuedIds (past ++ before)

section Turns
variable {past turns : List Request} {number : Nat} {tx : Transaction}

theorem Enqueueing.start {more : List Request}
    (enqueueing : Enqueueing past number (turns ++ more)) : Enqueueing past number turns where
  only := fun other member => enqueueing.only other (List.mem_append_left _ member)
  fresh := by
    rintro before id now topic submission after rfl
    exact enqueueing.fresh before id now topic submission (after ++ more) (by simp)

/-- What the transaction has staged after the submissions. -/
theorem handles_run_enqueueing (home : StoreId) (opened : (run home past).handles number = some tx)
    (enqueueing : Enqueueing past number turns) :
    (run home (past ++ turns)).handles number =
      some { tx with inserts := tx.inserts ++ stagedRows number turns } := by
  induction turns using List.reverseRecOn with
  | nil =>
      rw [List.append_nil, opened]
      simp [stagedRows]
  | append_singleton before request ih =>
      have still_open := ih enqueueing.start
      have sound := sound_run home (past ++ before)
      rw [← List.append_assoc, run_concat]
      by_cases own : request.number? = some number
      · obtain ⟨id, now, topic, submission, rfl⟩ := enqueueing.only request (by simp) own
        cases broken : submission.firstBroken? with
        | some rule =>
            obtain ⟨reason, refused⟩ := step_enqueue_broken still_open broken id now topic
            rw [refused, still_open]
            simp [stagedRows, stagedRow?, broken]
        | none =>
            have unissued := enqueueing.fresh before id now topic submission [] rfl
            obtain ⟨rows, inserts⟩ := ids_issued home (past ++ before)
            rw [step_enqueue_kept sound still_open broken
              (fun committed => unissued (rows id committed))
              (fun staged => unissued (inserts number _ still_open id staged))]
            simp [put, stagedRows, stagedRow?, broken]
      · rw [handles_step_elsewhere sound still_open own]
        cases request with
        | enqueue owner id now topic submission =>
            have other : owner ≠ number := fun same => own (congrArg some same)
            simp [stagedRows, stagedRow?, other]
        | _ => simp [stagedRows, stagedRow?]

/-- No submission changes the store. -/
theorem store_run_enqueueing (home : StoreId) (enqueueing : Enqueueing past number turns)
    (own : ∀ request ∈ turns, request.number? = some number) :
    (run home (past ++ turns)).store = (run home past).store := by
  induction turns using List.reverseRecOn with
  | nil => rw [List.append_nil]
  | append_singleton before request ih =>
      have same := ih enqueueing.start fun other member => own other (List.mem_append_left _ member)
      obtain ⟨id, now, topic, submission, rfl⟩ :=
        enqueueing.only request (by simp) (own request (by simp))
      rw [← same, ← List.append_assoc]
      have change := run_change home (past ++ before) (.enqueue number id now topic submission)
      generalize run home (past ++ before ++ [.enqueue number id now topic submission]) = after
        at change
      cases change with
      | nothing => rfl
      | created => rfl
      | saved asked => cases asked
      | ended asked => cases asked

end Turns

/-- What becomes of the submissions in a transaction, which had staged something or nothing before
them. -/
structure Enqueued (home : StoreId) (past : List Request) (number : Nat) (tx : Transaction)
    (turns : List Request) : Prop where
  /-- A submission that breaks a rule is refused for the first one, and leaves the transaction and
  the store alone; any other one has its new id as the reply. -/
  replies : ∀ before id now topic submission after,
    turns = before ++ .enqueue number id now topic submission :: after →
    let sessions := run home (past ++ before)
    match submission.firstBroken? with
    | some rule => ∃ reason, sessions.step (.enqueue number id now topic submission) =
        (sessions, .refused (.validation rule.field reason))
    | none =>
      (sessions.step (.enqueue number id now topic submission)).2 = .enqueued id ∧
      (sessions.step (.enqueue number id now topic submission)).1.store = sessions.store ∧
      id ∉ sessions.store.rows.map Message.id
  /-- The store is as before if nobody else has done anything. -/
  unshown : (∀ request ∈ turns, request.number? = some number) →
    (run home (past ++ turns)).store = (run home past).store
  /-- A commit appends the rows of the submissions that keep all rules, in their order, to what it
  would have shown without them. -/
  committed : ∃ plain, (run home (past ++ turns)).store.commit tx = .ok plain ∧
    ((run home (past ++ turns)).step (.commit number)).2 = .done ∧
    (run home (past ++ turns ++ [.commit number])).store.rows =
      plain.rows ++ stagedRows number turns
  /-- That is all if nothing was staged before. -/
  appended : tx.inserts = [] → tx.updates = [] →
    (run home (past ++ turns ++ [.commit number])).store.rows =
      (run home (past ++ turns)).store.rows ++ stagedRows number turns
  /-- Any other end of the transaction appends nothing and changes nothing. -/
  discarded : ∀ request, request.ended? = some number →
    (run home (past ++ turns ++ [request])).store.rows = (run home (past ++ turns)).store.rows

/-- Whatever others do meanwhile, submissions that break no rule are all appended by a commit, in
their order, and nothing else is. -/
theorem enqueueing_is_exact (home : StoreId) (past : List Request) (number : Nat)
    (tx : Transaction) (turns : List Request) (opened : (run home past).handles number = some tx)
    (enqueueing : Enqueueing past number turns) : Enqueued home past number tx turns := by
  have sound := sound_run home (past ++ turns)
  have still_open := handles_run_enqueueing home opened enqueueing
  have lawful := (sound_run home past number tx opened).2.later (older_run home past turns)
  have committed : (run home (past ++ turns ++ [.commit number])).store.rows =
      ((run home (past ++ turns)).store.installed tx).rows ++ stagedRows number turns := by
    rw [run_concat, step_commit sound still_open]
    exact Store.rows_installed_append lawful _
  constructor
  · rintro before id now topic submission after rfl
    have was_open := handles_run_enqueueing home opened enqueueing.start
    intro sessions
    cases broken : submission.firstBroken? with
    | some rule => exact step_enqueue_broken was_open broken id now topic
    | none =>
        have unissued := enqueueing.fresh before id now topic submission after rfl
        obtain ⟨rows, inserts⟩ := ids_issued home (past ++ before)
        have uncommitted : id ∉ sessions.store.rows.map Message.id :=
          fun there => unissued (rows id there)
        have stepped := step_enqueue_kept (sound_run home (past ++ before)) was_open broken
          uncommitted (fun staged => unissued (inserts number _ was_open id staged)) now topic
        dsimp only
        rw [stepped]
        exact ⟨rfl, rfl, uncommitted⟩
  · exact store_run_enqueueing home enqueueing
  · refine ⟨_, Store.commit_eq lawful.owned, ?_, committed⟩
    rw [step_commit sound still_open]
  · intro no_inserts no_updates
    rw [committed]
    simp [Store.installed, no_inserts, no_updates]
  · intro request ended
    have change := run_change home (past ++ turns) request
    generalize run home (past ++ turns ++ [request]) = after at change
    cases change with
    | committed => cases ended
    | _ => rfl

/-- A committed row, and a transaction that has saved it as processed. -/
def savedHistory : List Request :=
  [.begin, .create 1 .fruit, .commit 1, .begin, .saveProcessed 2 .epoch [.fruit]]

/-- A submission of three characters of nine bytes, one that breaks two rules, and another one after
somebody else has begun. -/
def mixedTurns : List Request :=
  [.enqueue 2 (Message.fruitNumbered 1).id .epoch "fruit.events"
      { aggregateId := 1, aggregateType := "水果类", payload := [0x7B, 0x7D] },
    .enqueue 2 (Message.fruitNumbered 2).id .epoch "fruit.events"
      { aggregateId := 1, aggregateType := "ab", payload := [] },
    .begin,
    .enqueue 2 (Message.fruitNumbered 2).id .epoch "other.events"
      { aggregateId := 2, aggregateType := "fruit", payload := [0x7B, 0x7D] }]

theorem mixedTurns_are_enqueued :
    (∃ tx, (run 0 savedHistory).handles 2 = some tx ∧ tx.updates ≠ []) ∧
    Enqueueing savedHistory 2 mixedTurns ∧
    (∃ reason, ((run 0 (savedHistory ++ mixedTurns.take 1)).step
      (.enqueue 2 (Message.fruitNumbered 2).id .epoch "fruit.events"
        { aggregateId := 1, aggregateType := "ab", payload := [] })).2 =
      .refused (.validation "aggregate_type" reason)) ∧
    (run 0 (savedHistory ++ mixedTurns ++ [.commit 2])).store.rows =
      Message.fruit.processed .epoch :: stagedRows 2 mixedTurns ∧
    (stagedRows 2 mixedTurns).map Message.topic = ["fruit.events", "other.events"] ∧
    (run 0 (savedHistory ++ mixedTurns ++ [.drop 2])).store.rows = [.fruit] := by
  have opened : (run 0 savedHistory).handles 2 =
      some { home := 0, number := 2, updates := [Message.fruit.processed .epoch] } := by rfl
  have enqueueing : Enqueueing savedHistory 2 mixedTurns := by
    constructor
    · simp [mixedTurns, Request.number?]
    · rintro (_ | ⟨_, _ | ⟨_, _ | ⟨_, _ | ⟨_, _⟩⟩⟩⟩) id now topic submission after split <;>
        simp only [mixedTurns, List.nil_append, List.cons_append, List.cons.injEq,
          Request.enqueue.injEq, reduceCtorEq, List.nil_eq, List.append_eq_nil_iff,
          false_and, and_false] at split
      · obtain ⟨⟨_, rfl, _⟩, _⟩ := split
        decide
      · obtain ⟨rfl, ⟨_, rfl, _⟩, _⟩ := split
        decide
      · obtain ⟨rfl, rfl, rfl, ⟨_, rfl, _⟩, _⟩ := split
        decide
  have enqueued := enqueueing_is_exact 0 savedHistory 2 _ mixedTurns opened enqueueing
  obtain ⟨plain, merged, _, rows⟩ := enqueued.committed
  refine ⟨⟨_, opened, List.cons_ne_nil _ _⟩, enqueueing, ?_, ?_, by decide +kernel, ?_⟩
  · have broken : Submission.firstBroken?
        { aggregateId := 1, aggregateType := "ab", payload := [] } = some .aggregateType := by
      decide +kernel
    have reply := enqueued.replies (mixedTurns.take 1) _ _ _ _ (mixedTurns.drop 2) rfl
    rw [broken] at reply
    obtain ⟨reason, refused⟩ := reply
    exact ⟨reason, by rw [refused]; rfl⟩
  · have same : (run 0 (savedHistory ++ mixedTurns)).store.rows = [.fruit] := by decide +kernel
    rw [Store.commit_eq (by decide +kernel), Except.ok.injEq] at merged
    rw [rows, ← merged, Store.installed, Store.rows_release, same]
    decide +kernel
  · rw [enqueued.discarded (.drop 2) rfl]
    rfl

end Sessions

end Outbox
