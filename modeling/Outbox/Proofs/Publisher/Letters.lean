import Outbox.Proofs.Envelope
import Outbox.Proofs.Publisher.Accounting

/-!
# What a fleet sends

A publication sends the topic of a committed row and the bytes of its event.  Neither ever changes,
whatever becomes of the row, and the bytes tell which row it was.  Behind every processed row there
is an attempt that succeeded.
-/

set_option autoImplicit false

namespace Outbox

/-- What is sent to the bus about a message: its topic and the bytes of its event. -/
def Message.letter (message : Message) : String × Bytes :=
  (message.topic, (Event.ofMessage message).encode)

theorem Message.letter_eq_iff {message : Message} {topic : String} {event : Event} :
    (topic, event.encode) = message.letter ↔
      message.topic = topic ∧ event = Event.ofMessage message := by
  rw [letter, Prod.mk.injEq, Event.encode_injective.eq_iff, eq_comm]

theorem Message.id_of_letter {message other : Message} (same : message.letter = other.letter) :
    message.id = other.id := by
  obtain ⟨_, event⟩ := letter_eq_iff.mp same
  exact congrArg Event.id event

namespace Publisher

@[simp] theorem Trial.letter_outcome (moment : Time.Instant) (trial : Trial) :
    (trial.outcome moment).letter = trial.message.letter := by
  rcases trial with ⟨message, error | done⟩ <;> rfl

namespace Fleet

/-- A row stays in the store through every move, and so does what is sent about it. -/
theorem Moved.letter_kept {fleet after : Fleet} {move : Move} (moved : Moved fleet move after)
    (sound : fleet.Sound) {issued : List Uuid} (books : Books issued fleet) {row : Message}
    (member : row ∈ fleet.store.rows) : ∃ now ∈ after.store.rows, now.letter = row.letter := by
  rcases moved.rows_cases sound books with
    ⟨same, _⟩ | ⟨number, tx, _, appended, _⟩ | ⟨run, tx, report, _, running, changed, _⟩
  · exact ⟨row, same ▸ member, rfl⟩
  · exact ⟨row, appended ▸ List.mem_append_left _ member, rfl⟩
  · refine ⟨(tx.update? row.id).getD row, changed ▸ List.mem_map_of_mem member, ?_⟩
    rcases books.update_cases running member with
      ⟨_, kept⟩ | ⟨trial, moment, _, same, _, outcome⟩
    · rw [kept]
    · rw [outcome, Trial.letter_outcome, same]

/-- An attempt is made by the result of a publication and by nothing else. -/
theorem Moved.trial_origin {fleet after : Fleet} {move : Move} (moved : Moved fleet move after)
    {run : Nat} {trial : Trial} (tried : trial ∈ after.trials run) :
    trial ∈ fleet.trials run ∨
    (move = .answer run trial.result ∧ ∃ tx attempts waiting,
      fleet.iterations run = some (.publishing tx attempts trial.message waiting)) := by
  by_cases own : move.run? = some run
  · cases moved with
    | called running called =>
        rw [trials_afterCall] at tried
        exact Or.inl tried
    | answered running answered =>
        cases own
        rw [trials_afterAnswer_self] at tried
        rcases List.mem_append.mp tried with earlier | last
        · exact Or.inl earlier
        · obtain rfl := List.mem_singleton.mp last
          exact Or.inr ⟨rfl, _, _, _, running⟩
    | _ => exact Or.inl tried
  · rw [trials, (moved.others own).2] at tried
    exact Or.inl tried

/-- What an iteration publishes is a committed row. -/
theorem Books.publishing {issued : List Uuid} {fleet : Fleet} (books : Books issued fleet)
    {run : Nat} {tx : Transaction} {attempts : Attempts} {message : Message}
    {waiting : List Message}
    (running : fleet.iterations run = some (.publishing tx attempts message waiting)) :
    message ∈ fleet.store.rows := by
  have holds := books.holds run tx (transaction?_of_running running)
  have progress := books.progress run _ running
  cases progress with
  | publishing unchanged split records =>
      have claimed : message ∈ fleet.batch run := by
        rw [batch, split]
        simp
      exact holds.committed message claimed

theorem trial_of_processed {home : StoreId} {moves : List Move} (produced : Produced moves)
    {row : Message} (member : row ∈ (run home moves).store.rows)
    (processed : row.status = .processed) :
    ∃ caller, ∃ trial ∈ (run home moves).trials caller,
      trial.message.id = row.id ∧ trial.succeeded = true := by
  have account := account_of_accounted (allAccounted_run home moves produced row member)
  -- The successes are counted over iterations, so one of them has made the attempt.
  have once := account.processed.mp processed
  have counted : 0 < (run home moves).successes row.id := by omega
  obtain ⟨caller, _, tried⟩ := List.countP_pos_iff.mp counted
  obtain ⟨trial, there, fits⟩ := List.any_eq_true.mp tried
  simp only [Bool.and_eq_true, decide_eq_true_eq, beq_iff_eq] at fits
  exact ⟨caller, trial, there, fits⟩

end Fleet

end Publisher

end Outbox
