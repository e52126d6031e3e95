import Outbox.Proofs.Publisher.Drain
import Outbox.Proofs.Publisher.Letters

/-!
# The size of the batches

On a bus that takes everything a round publishes the first pending rows of the store, as many as its
batch size admits, and leaves the others pending.  So rounds take the pending rows from the front,
each the part that the rounds before it have left, and how the backlog is cut into batches shows in
the moments of the rows only.
-/

set_option autoImplicit false

namespace Outbox

open Time (Instant)

/-- A row without the moment at which it was processed. -/
def Message.timeless (row : Message) : Message :=
  { row with processedAt := none }

/-- A row that was left alone, or that was pending and is processed now. -/
inductive Message.Passed (row : Message) : Message → Prop where
  | untouched : Passed row row
  | processed (pending : row.isPending = true) (moment : Instant) :
      Passed row (row.processed moment)

theorem Message.Passed.trans {row next last : Message} (first : row.Passed next)
    (second : next.Passed last) : row.Passed last := by
  cases first with
  | untouched => exact second
  | processed pending moment =>
      cases second with
      | untouched => exact .processed pending moment
      | processed again => cases again

theorem Message.Passed.ended {row after : Message} (passed : row.Passed after)
    (ended : after.isPending = false) :
    ∃ moment, after = if row.isPending then row.processed moment else row := by
  cases passed with
  | untouched => exact ⟨.epoch, by simp [ended]⟩
  | processed pending moment => exact ⟨moment, by simp [pending]⟩

namespace Publisher

/-! ## One round -/

/-- The bus takes everything. -/
def Round.Healthy (round : Round) : Prop :=
  ∀ index, round.answers index = .ok ()

section Round
variable {round : Round} {origin : Store} {solo : Solo}

theorem Completed.result_of_healthy (completed : Completed round origin solo)
    (healthy : round.Healthy) {trial : Trial} (tried : trial ∈ solo.journal.trials) :
    trial.result = .ok () := by
  have answered : trial.result ∈ (List.range solo.journal.batch.length).map round.answers := by
    rw [← completed.answers]
    exact List.mem_map_of_mem tried
  obtain ⟨index, _, answer⟩ := List.mem_map.mp answered
  rw [← answer, healthy index]

theorem Completed.published_of_healthy (completed : Completed round origin solo)
    (healthy : round.Healthy) : solo.journal.trials.filterMap Trial.published? =
      solo.journal.batch := by
  rw [← completed.tried, ← List.filterMap_eq_map]
  apply List.filterMap_congr
  intro trial tried
  have taken := completed.result_of_healthy healthy tried
  rcases trial with ⟨message, error | done⟩
  · cases taken
  · rfl

theorem Completed.refused_of_healthy (completed : Completed round origin solo)
    (healthy : round.Healthy) : solo.journal.trials.filterMap Trial.refused? = [] := by
  rw [List.filterMap_eq_nil_iff]
  intro trial tried
  have taken := completed.result_of_healthy healthy tried
  rcases trial with ⟨message, error | done⟩
  · cases taken
  · rfl

theorem Completed.ended_of_healthy (completed : Completed round origin solo)
    (healthy : round.Healthy) : solo.iteration =
      .ended (.ok { fetched := solo.journal.batch.length
                    processed := solo.journal.batch.length }) := by
  rw [completed.result, Journal.attempts, completed.published_of_healthy healthy,
    completed.refused_of_healthy healthy]
  rfl

theorem Completed.settled_of_healthy (completed : Completed round origin solo)
    (healthy : round.Healthy) (distinct : (origin.rows.map Message.id).Nodup) (moment : Instant)
    {row : Message} (member : row ∈ origin.rows) :
    solo.journal.settled moment row =
      if row.id ∈ solo.journal.batch.map Message.id then row.processed moment else row := by
  rw [Journal.settled]
  cases found : solo.journal.trial? row.id with
  | none =>
      have untried : row.id ∉ solo.journal.batch.map Message.id := by
        rw [← completed.tried, List.map_map, List.mem_map]
        rintro ⟨trial, tried, same⟩
        exact List.find?_eq_none.mp found trial tried (decide_eq_true same)
      rw [if_neg untried]
      rfl
  | some trial =>
      obtain ⟨tried, _⟩ := Journal.trial?_spec found
      have claimed := Journal.mem_batch completed.tried.symm tried
      have taken := completed.result_of_healthy healthy tried
      obtain ⟨same, _⟩ := completed.row_of_trial distinct member found
      rw [same] at claimed
      rw [if_pos (List.mem_map_of_mem claimed), ← same]
      rcases trial with ⟨message, error | done⟩
      · cases taken
      · rfl

/-- The pending rows behind the batch are left, as they are. -/
theorem Completed.pendingRows_of_healthy (completed : Completed round origin solo)
    (healthy : round.Healthy) (distinct : (origin.rows.map Message.id).Nodup)
    (unlocked : origin.locks = []) :
    solo.store.pendingRows = origin.pendingRows.drop round.batchSize := by
  obtain ⟨moment, left⟩ := completed.store
  have settled := fun row => @Completed.settled_of_healthy round origin solo completed healthy
    distinct moment row
  rw [completed.batch_of_unlocked unlocked] at settled
  have behind : origin.rows.filter (Message.isPending ∘ solo.journal.settled moment) =
      origin.pendingRows.drop round.batchSize := by
    rw [Store.pendingRows, ← Store.filter_untaken distinct]
    apply List.filter_congr
    intro row member
    rw [Function.comp_apply, settled row member, Store.pendingRows]
    by_cases claimed : row.id ∈
        ((origin.rows.filter Message.isPending).take round.batchSize).map Message.id
    · rw [if_pos claimed, decide_eq_false (not_not_intro claimed), Bool.and_false]
      rfl
    · rw [if_neg claimed, decide_eq_true claimed, Bool.and_true]
  have kept : ∀ row ∈ origin.pendingRows.drop round.batchSize,
      solo.journal.settled moment row = id row := by
    intro row member
    have unclaimed := member
    rw [Store.pendingRows, ← Store.filter_untaken distinct, List.mem_filter,
      Bool.and_eq_true, decide_eq_true_eq] at unclaimed
    rw [settled row unclaimed.1, Store.pendingRows, if_neg unclaimed.2.2]
    rfl
  rw [left, Store.pendingRows, List.filter_map, behind, List.map_congr_left kept, List.map_id]

/-- A round leaves every row alone or processes it. -/
theorem Completed.passed_of_healthy (completed : Completed round origin solo)
    (healthy : round.Healthy) (distinct : (origin.rows.map Message.id).Nodup) :
    ∃ outcome : Message → Message, solo.store.rows = origin.rows.map outcome ∧
      ∀ row ∈ origin.rows, row.Passed (outcome row) := by
  obtain ⟨moment, left⟩ := completed.store
  have claimed := completed.claimed distinct
  refine ⟨solo.journal.settled moment, congrArg Store.rows left, ?_⟩
  intro row member
  rw [completed.settled_of_healthy healthy distinct moment member]
  split
  · rename_i taken
    obtain ⟨message, published, same⟩ := List.mem_map.mp taken
    have own : message = row :=
      List.inj_on_of_nodup_map distinct (claimed.committed message published) member same
    exact .processed (own ▸ claimed.pending message published) moment
  · exact .untouched

end Round

/-! ## Round after round -/

/-- How many rows the first rounds may publish together. -/
def admitted (rounds : Nat → Round) : Nat → Nat
  | 0 => 0
  | count + 1 => admitted rounds count + (rounds count).batchSize

/-- So many rounds have published pending rows from the front, and nothing else has happened. -/
structure Advanced (rounds : Nat → Round) (store : Store) (count : Nat) : Prop where
  distinct : ((storeAfter rounds store count).rows.map Message.id).Nodup
  unlocked : (storeAfter rounds store count).locks = []
  left : (storeAfter rounds store count).pendingRows =
    store.pendingRows.drop (admitted rounds count)
  passed : ∃ outcome : Message → Message,
    (storeAfter rounds store count).rows = store.rows.map outcome ∧
      ∀ row ∈ store.rows, row.Passed (outcome row)

section Rounds
variable {rounds : Nat → Round} {store : Store}

theorem Advanced.completed {count : Nat} (advanced : Advanced rounds store count) :
    Completed (rounds count) (storeAfter rounds store count) (turn rounds store count) := by
  apply Round.run_completed
  exact ⟨advanced.distinct, by simp [advanced.unlocked]⟩

theorem advanced (healthy : ∀ index, (rounds index).Healthy)
    (distinct : (store.rows.map Message.id).Nodup) (unlocked : store.locks = []) (count : Nat) :
    Advanced rounds store count := by
  induction count with
  | zero => exact ⟨distinct, unlocked, rfl, id, (List.map_id _).symm, fun _ _ => .untouched⟩
  | succ count ih =>
      have completed := ih.completed
      have left := completed.pendingRows_of_healthy (healthy count) ih.distinct ih.unlocked
      obtain ⟨earlier, before, passed⟩ := ih.passed
      obtain ⟨outcome, now, more⟩ := completed.passed_of_healthy (healthy count) ih.distinct
      obtain ⟨moment, after⟩ := completed.store
      change (storeAfter rounds store (count + 1)) = _ at after
      refine ⟨?_, ?_, ?_, ?_⟩
      · have same : Message.id ∘ (turn rounds store count).journal.settled moment = Message.id := by
          funext row
          exact Journal.id_settled _ moment row
        rw [after, List.map_map, same]
        exact ih.distinct
      · rw [after]
        exact ih.unlocked
      · change (storeAfter rounds store (count + 1)).pendingRows = _ at left
        rw [left, ih.left, List.drop_drop, admitted]
      · change (storeAfter rounds store (count + 1)).rows = _ at now
        refine ⟨outcome ∘ earlier, by rw [now, before, List.map_map], ?_⟩
        intro row member
        apply (passed row member).trans (more _ _)
        rw [before]
        exact List.mem_map_of_mem member

theorem Advanced.batch {count : Nat} (advanced : Advanced rounds store count) :
    (turn rounds store count).journal.batch =
      (store.pendingRows.drop (admitted rounds count)).take (rounds count).batchSize := by
  rw [advanced.completed.batch_of_unlocked advanced.unlocked, advanced.left]

theorem sent_eq (healthy : ∀ index, (rounds index).Healthy)
    (distinct : (store.rows.map Message.id).Nodup) (unlocked : store.locks = []) (count : Nat) :
    ((List.range count).flatMap fun index => (turn rounds store index).sent) =
      (store.pendingRows.take (admitted rounds count)).map Message.letter := by
  induction count with
  | zero => rfl
  | succ count ih =>
      have next := advanced healthy distinct unlocked count
      have sent : (turn rounds store count).sent =
          (turn rounds store count).journal.batch.map Message.letter := next.completed.sent
      rw [List.range_succ, List.flatMap_append, ih, List.flatMap_singleton, sent, next.batch,
        admitted, List.take_add, List.map_append]

theorem report_eq (healthy : ∀ index, (rounds index).Healthy)
    (distinct : (store.rows.map Message.id).Nodup) (unlocked : store.locks = []) (count : Nat) :
    (turn rounds store count).iteration = .ended (.ok
      { fetched := min (rounds count).batchSize
          (store.pendingRows.length - admitted rounds count)
        processed := min (rounds count).batchSize
          (store.pendingRows.length - admitted rounds count) }) := by
  have next := advanced healthy distinct unlocked count
  rw [next.completed.ended_of_healthy (healthy count), next.batch, List.length_take,
    List.length_drop]

/-- Once the rounds may publish the whole backlog, every pending row is processed. -/
theorem rows_eq (healthy : ∀ index, (rounds index).Healthy)
    (distinct : (store.rows.map Message.id).Nodup) (unlocked : store.locks = []) {count : Nat}
    (enough : store.pendingRows.length ≤ admitted rounds count) :
    ∃ moments : Message → Instant, (storeAfter rounds store count).rows =
      store.rows.map fun row => if row.isPending then row.processed (moments row) else row := by
  obtain ⟨_, _, left, outcome, after, passed⟩ := advanced healthy distinct unlocked count
  rw [List.drop_eq_nil_of_le enough, Store.pendingRows, List.filter_eq_nil_iff] at left
  have settled (row : Message) : ∃ moment, row ∈ store.rows →
      outcome row = if row.isPending then row.processed moment else row := by
    by_cases member : row ∈ store.rows
    · have there : outcome row ∈ (storeAfter rounds store count).rows := by
        rw [after]
        exact List.mem_map_of_mem member
      have ended := eq_false_of_ne_true (left (outcome row) there)
      obtain ⟨moment, same⟩ := (passed row member).ended ended
      exact ⟨moment, fun _ => same⟩
    · exact ⟨.epoch, fun there => absurd there member⟩
  choose moments same using settled
  exact ⟨moments, after.trans (List.map_congr_left same)⟩

end Rounds

/-- However a backlog is cut into batches, on a bus that takes everything the rounds together send
what one round sends that may publish all of it, and leave the same rows but for the moments at
which they were processed.  Each of them reports the part of the rest that its batch size admits. -/
theorem batching_is_invisible (rounds : Nat → Round) (whole : Round) (store : Store)
    (distinct : (store.rows.map Message.id).Nodup) (unlocked : store.locks = [])
    (healthy : ∀ index, (rounds index).Healthy) (whole_healthy : whole.Healthy)
    (whole_size : whole.batchSize = store.pendingRows.length) (count : Nat)
    (enough : store.pendingRows.length ≤ admitted rounds count) :
    (((List.range count).flatMap fun index => (turn rounds store index).sent) =
        store.pendingRows.map Message.letter ∧
      (whole.run store).sent = store.pendingRows.map Message.letter) ∧
    ((storeAfter rounds store count).rows.map Message.timeless =
        (whole.run store).store.rows.map Message.timeless ∧
      ∃ moments : Message → Instant, (storeAfter rounds store count).rows =
        store.rows.map fun row => if row.isPending then row.processed (moments row) else row) ∧
    ∀ index, (turn rounds store index).iteration = .ended (.ok
      { fetched := min (rounds index).batchSize
          (store.pendingRows.length - admitted rounds index)
        processed := min (rounds index).batchSize
          (store.pendingRows.length - admitted rounds index) }) := by
  -- The one round is a list of rounds of its own.
  have alone : ∀ index, ((fun _ => whole : Nat → Round) index).Healthy := fun _ => whole_healthy
  have all : store.pendingRows.length ≤ admitted (fun _ => whole) 1 := by
    simp [admitted, whole_size]
  have sent := sent_eq healthy distinct unlocked count
  have sent_whole := sent_eq alone distinct unlocked 1
  obtain ⟨moments, rows⟩ := rows_eq healthy distinct unlocked enough
  obtain ⟨moment, rows_whole⟩ := rows_eq alone distinct unlocked all
  rw [List.take_of_length_le enough] at sent
  rw [List.take_of_length_le all] at sent_whole
  refine ⟨⟨sent, ?_⟩, ⟨?_, moments, rows⟩, report_eq healthy distinct unlocked⟩
  · rw [List.range_one, List.flatMap_singleton] at sent_whole
    exact sent_whole
  · have unmarked (row : Message) (one other : Instant) :
        (if row.isPending then row.processed one else row).timeless =
          (if row.isPending then row.processed other else row).timeless := by
      split <;> rfl
    change _ = (storeAfter (fun _ => whole) store 1).rows.map Message.timeless
    rw [rows, rows_whole, List.map_map, List.map_map]
    apply List.map_congr_left
    intro row _
    exact unmarked row _ _

/-- Rounds of three rows, of none, and of two rows each from then on. -/
def unevenRounds (index : Nat) : Round where
  batchSize := [3, 0].getD index 2
  now := .epoch
  answers := fun _ => .ok ()

/-- The four pending rows are published in parts of three, none and one. -/
theorem unevenRounds_empty_gappyStore :
    (Store.gappyStore.rows.map Message.id).Nodup ∧ Store.gappyStore.locks = [] ∧
    (∀ index, (unevenRounds index).Healthy) ∧
    Store.gappyStore.pendingRows.length = 4 ∧ admitted unevenRounds 3 = 5 ∧
    ((List.range 3).map fun index => (turn unevenRounds Store.gappyStore index).sent.length).sum =
      4 ∧
    ((List.range 3).map fun index => (turn unevenRounds Store.gappyStore index).iteration) =
      [.ended (.ok { fetched := 3, processed := 3 }), .ended (.ok {}),
        .ended (.ok { fetched := 1, processed := 1 })] := by
  have distinct : (Store.gappyStore.rows.map Message.id).Nodup := by decide
  have healthy (index : Nat) : (unevenRounds index).Healthy := fun _ => rfl
  have four : Store.gappyStore.pendingRows.length = 4 := by rfl
  have whole : Round.Healthy ⟨4, .epoch, fun _ => .ok ()⟩ := fun _ => rfl
  obtain ⟨⟨sent, _⟩, _, reported⟩ := batching_is_invisible unevenRounds
    ⟨4, .epoch, fun _ => .ok ()⟩ Store.gappyStore distinct rfl healthy whole four.symm 3 (by decide)
  refine ⟨distinct, rfl, healthy, four, rfl, ?_, ?_⟩
  · have count := congrArg List.length sent
    rw [List.length_flatMap, List.length_map, four] at count
    exact count
  · simp only [List.range, List.range.loop, List.map_cons, List.map_nil, reported, four]
    rfl

end Publisher

end Outbox
