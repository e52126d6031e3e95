import Outbox.Proofs.Publisher.Loop

/-!
# Cancellation

A worker that is cancelled begins no other iteration, but for one whose tick it is about to take: it
has looked whether it is cancelled before the cancellation, and looks for the tick after it.  The
iteration that it is in goes on as it would have gone on: the cancelled loop runs beside the loop
without the cancellation until it looks whether it is cancelled, and stops there.  Nobody who waits
for the worker goes on before.
-/

set_option autoImplicit false

namespace Outbox.Publisher

namespace Worker

variable {worker : Worker}

/-! ## What a cancellation leaves as it is -/

@[simp] theorem isDue_cancel (worker : Worker) (now : Nat) :
    worker.cancel.isDue now = worker.isDue now :=
  rfl

theorem begin_cancel (worker : Worker) (now : Nat) :
    worker.cancel.begin now = (worker.begin now).cancel := by
  unfold begin
  rw [isDue_cancel]
  split <;> rfl

theorem rest_cancel (worker : Worker) : worker.cancel.rest = worker.rest.cancel := by
  rcases worker with ⟨ticker, _ | _ | _ | _, isCancelled⟩ <;> rfl

theorem finish_cancel (worker : Worker) : worker.cancel.finish = worker.finish.cancel := by
  rcases worker with ⟨ticker, _ | _ | _ | _, isCancelled⟩ <;> rfl

/-- A cancelled worker that is in no iteration stops when it looks. -/
theorem activity_look_cancelled (cancelled : worker.isCancelled = true)
    (resting : worker.activity ≠ .running) : worker.look.activity = .stopped := by
  rcases worker with ⟨ticker, _ | _ | _ | _, isCancelled⟩
  · simp_all [look]
  · simp_all [look]
  · exact absurd rfl resting
  · rfl

/-- A worker in an iteration does not look. -/
theorem look_of_running (running : worker.activity = .running) : worker.look = worker := by
  simp [look, running]

/-- A worker that is not looking takes no tick before it looks. -/
structure Settled (worker : Worker) : Prop where
  cancelled : worker.isCancelled = true
  unlooking : worker.activity ≠ .looking

theorem Settled.look (settled : worker.Settled) : worker.look.Settled := by
  refine ⟨(isCancelled_look worker).trans settled.cancelled, ?_⟩
  by_cases running : worker.activity = .running
  · rw [look_of_running running]
    exact settled.unlooking
  · rw [activity_look_cancelled settled.cancelled running]
    exact Activity.noConfusion

theorem Settled.rest (settled : worker.Settled) : worker.rest.Settled := by
  refine ⟨(isCancelled_rest worker).trans settled.cancelled, ?_⟩
  rcases worker with ⟨ticker, _ | _ | _ | _, isCancelled⟩ <;> exact Activity.noConfusion

theorem Settled.finish (settled : worker.Settled) : worker.finish.Settled := by
  refine ⟨(isCancelled_finish worker).trans settled.cancelled, ?_⟩
  unfold Worker.finish
  split
  · exact Activity.noConfusion
  · exact settled.unlooking

end Worker

namespace Loop

open Time (Span)

variable {batchSize : Nat} {loop other : Loop}

/-! ## Stopped workers -/

/-- A worker that has stopped stays so, and its iterations do as well. -/
theorem step_of_stopped (batchSize : Nat) (stopped : loop.worker.activity = .stopped)
    (left : loop.current = none) (move : Move) :
    (loop.step batchSize move).worker.activity = .stopped ∧
      (loop.step batchSize move).current = none ∧ (loop.step batchSize move).past = loop.past := by
  have moved := loop.step_moved batchSize move
  generalize loop.step batchSize move = after at moved
  cases moved with
  | nothing => exact ⟨stopped, left, rfl⟩
  | passed nanoseconds => exact ⟨stopped, left, rfl⟩
  | begun due =>
      have looking := (Worker.isDue_iff.mp due).1
      rw [stopped] at looking
      cases looking
  | continued current =>
      rw [left] at current
      cases current
  | finished current =>
      rw [left] at current
      cases current
  | disturbed store => exact ⟨stopped, left, rfl⟩
  | quieted _ quiet => exact ⟨quiet.stays stopped, left, rfl⟩
  | joined => exact ⟨stopped, left, rfl⟩

theorem laps_of_stopped (stopped : loop.worker.activity = .stopped) (left : loop.current = none)
    (more : List Move) : (more.foldl (step batchSize) loop).laps = loop.laps := by
  induction more generalizing loop with
  | nil => rfl
  | cons move more ih =>
      obtain ⟨still_stopped, still_left, past⟩ := step_of_stopped batchSize stopped left move
      rw [List.foldl_cons, ih still_stopped still_left, laps_of_no_current still_left,
        laps_of_no_current left, past]

/-- No iteration that has ended is taken back. -/
theorem past_isPrefix_step (batchSize : Nat) (loop : Loop) (move : Move) :
    loop.past <+: (loop.step batchSize move).past := by
  have moved := loop.step_moved batchSize move
  generalize loop.step batchSize move = after at moved
  cases moved with
  | finished => exact List.prefix_append _ _
  | _ => exact List.prefix_rfl

/-! ## Beside the loop that goes on -/

/-- A loop that was cancelled, and the loop that was not. -/
inductive Beside (loop other : Loop) : Prop where
  /-- The one has not looked yet whether it is cancelled. -/
  | together (same : loop = { other with worker := other.worker.cancel })
  /-- The cancelled one has stopped. -/
  | apart (stopped : loop.worker.activity = .stopped) (left : loop.current = none)
      (past : loop.past <+: other.past)

theorem Beside.step (batchSize : Nat) {settings : Settings} {start : Nat} {history : List Move}
    (sound : other.Sound settings start history) (beside : Beside loop other) (move : Move) :
    Beside (loop.step batchSize move) (other.step batchSize move) := by
  cases beside with
  | apart stopped left past =>
      obtain ⟨still_stopped, still_left, same⟩ := step_of_stopped batchSize stopped left move
      refine .apart still_stopped still_left ?_
      rw [same]
      exact past.trans (past_isPrefix_step batchSize other move)
  | together same =>
      subst same
      cases move with
      | pass nanoseconds => exact .together rfl
      | look =>
          by_cases running : other.worker.activity = .running
          · have unlooking : other.worker.cancel.activity = .running := running
            apply Beside.together
            simp only [Loop.step, Worker.look_of_running running, Worker.look_of_running unlooking]
          · -- Here the cancelled loop learns of it.
            apply Beside.apart
            · exact Worker.activity_look_cancelled rfl running
            · change other.current = none
              rw [← Option.not_isSome_iff_eq_none, sound.running]
              exact running
            · exact List.prefix_rfl
      | tick =>
          apply Beside.together
          simp only [Loop.step, Worker.isDue_cancel, Worker.begin_cancel, Worker.rest_cancel]
          split <;> rfl
      | rest =>
          apply Beside.together
          simp only [Loop.step, Worker.rest_cancel]
      | reply reply =>
          apply Beside.together
          simp only [Loop.step]
          split
          · rfl
          · simp only [put, Worker.finish_cancel]
            split <;> rfl
      | disturb store => exact .together rfl
      | cancel => exact .together rfl
      | join =>
          apply Beside.together
          have activity : other.worker.cancel.activity = other.worker.activity := rfl
          simp only [Loop.step, activity]
          split <;> rfl

theorem beside_run (settings : Settings) (start : Nat) (store : Store)
    (before after : List Move) :
    Beside (run settings start store (before ++ .cancel :: after))
      (run settings start store (before ++ after)) := by
  induction after using List.reverseRecOn with
  | nil =>
      rw [run_concat, List.append_nil]
      exact .together rfl
  | append_singleton after move ih =>
      rw [← List.cons_append, ← List.append_assoc, ← List.append_assoc, run_concat, run_concat]
      exact ih.step settings.batchSize (sound_run settings start store _) move

theorem Beside.laps_eq (beside : Beside loop other) :
    loop.laps = other.laps.take loop.laps.length := by
  cases beside with
  | together same =>
      subst same
      exact (List.take_length ..).symm
  | apart _ left past =>
      obtain ⟨later, past⟩ := past
      rw [laps_of_no_current left, laps, ← past, List.append_assoc, List.take_left]

/-! ## How many begin -/

/-- The iterations of a loop, with one that it may be about to begin. -/
def lapsAhead (loop : Loop) : Nat :=
  loop.laps.length + if loop.worker.activity = .looking then 1 else 0

theorem laps_le_step (batchSize : Nat) (loop : Loop) (move : Move) :
    loop.laps.length ≤ (loop.step batchSize move).laps.length := by
  have moved := loop.step_moved batchSize move
  generalize loop.step batchSize move = after at moved
  cases moved with
  | begun => cases current : loop.current <;> simp [laps, current]
  | continued current => simp [laps, current]
  | finished current => simp [laps, current]
  | _ => exact Nat.le_refl _

theorem laps_le_foldl (batchSize : Nat) (loop : Loop) (moves : List Move) :
    loop.laps.length ≤ (moves.foldl (step batchSize) loop).laps.length := by
  induction moves generalizing loop with
  | nil => exact Nat.le_refl _
  | cons move moves ih => exact Nat.le_trans (loop.laps_le_step batchSize move) (ih _)

theorem isCancelled_step (cancelled : loop.worker.isCancelled = true) (move : Move) :
    (loop.step batchSize move).worker.isCancelled = true := by
  have moved := loop.step_moved batchSize move
  generalize loop.step batchSize move = after at moved
  cases moved with
  | begun due => exact (Worker.isCancelled_begin ..).trans cancelled
  | finished => exact (Worker.isCancelled_finish _).trans cancelled
  | quieted _ quiet => exact quiet.cancelled cancelled
  | _ => exact cancelled

/-- A cancelled loop that looks stops, so it takes no tick but one for which it looked before. -/
theorem lapsAhead_step {settings : Settings} {start : Nat} {history : List Move}
    (sound : loop.Sound settings start history) (cancelled : loop.worker.isCancelled = true)
    (move : Move) : (loop.step batchSize move).lapsAhead ≤ loop.lapsAhead := by
  cases move with
  | look =>
      apply Nat.add_le_add_left
      by_cases running : loop.worker.activity = .running
      · simp [step, Worker.look_of_running running]
      · simp [step, Worker.activity_look_cancelled cancelled running]
  | tick =>
      by_cases due : loop.worker.isDue loop.now = true
      · have looking := (Worker.isDue_iff.mp due).1
        simp [step, due, lapsAhead, laps, sound.resting due, looking, Worker.activity_begin due]
      · rw [step, if_neg due]
        apply Nat.add_le_add_left
        rcases loop with ⟨⟨ticker, _ | _ | _ | _, isCancelled⟩, _⟩ <;> simp [Worker.rest]
  | rest =>
      apply Nat.add_le_add_left
      rcases loop with ⟨⟨ticker, _ | _ | _ | _, isCancelled⟩, _⟩ <;> simp [step, Worker.rest]
  | reply reply =>
      cases current : loop.current with
      | none => simp [step, current]
      | some lap =>
          have running : loop.worker.activity = .running := by
            rw [← sound.running, current]
            rfl
          simp only [step, current, put]
          split
          · simp [lapsAhead, laps, current, running, Worker.activity_finish running]
          · simp [lapsAhead, laps, current, running]
  | join =>
      rw [step]
      split <;> exact Nat.le_refl _
  | _ => exact Nat.le_refl _

theorem lapsAhead_run (settings : Settings) (start : Nat) (store : Store)
    (before after : List Move) :
    (run settings start store (before ++ .cancel :: after)).worker.isCancelled = true ∧
    (run settings start store (before ++ .cancel :: after)).lapsAhead ≤
      (run settings start store before).lapsAhead := by
  induction after using List.reverseRecOn with
  | nil =>
      rw [run_concat]
      exact ⟨rfl, Nat.le_refl _⟩
  | append_singleton after move ih =>
      obtain ⟨cancelled, bound⟩ := ih
      rw [← List.cons_append, ← List.append_assoc, run_concat]
      exact ⟨isCancelled_step cancelled move,
        Nat.le_trans (lapsAhead_step (sound_run settings start store _) cancelled move) bound⟩

theorem laps_of_cancelled (settings : Settings) (start : Nat) (store : Store)
    (before after : List Move) :
    (run settings start store (before ++ .cancel :: after)).laps.length =
      (run settings start store before).laps.length ∨
    (run settings start store before).worker.activity = .looking ∧
      (run settings start store (before ++ .cancel :: after)).laps.length =
        (run settings start store before).laps.length + 1 := by
  have more := laps_le_foldl settings.batchSize (run settings start store before)
    (.cancel :: after)
  have bound := (lapsAhead_run settings start store before after).2
  rw [← run_append] at more
  unfold lapsAhead at bound
  by_cases looking : (run settings start store before).worker.activity = .looking
  · rw [if_pos looking] at bound
    have few := Nat.le_of_add_right_le bound
    rcases Nat.eq_or_lt_of_le more with same | one_more
    · exact .inl same.symm
    · exact .inr ⟨looking, Nat.le_antisymm few one_more⟩
  · rw [if_neg looking] at bound
    exact .inl (Nat.le_antisymm (Nat.le_of_add_right_le bound) more)

/-! ## The end -/

/-- The most replies until the iteration of a loop has ended. -/
def repliesLeft (batchSize : Nat) (loop : Loop) : Nat :=
  loop.current.elim 0 fun lap => lap.iteration.exchangesLeft batchSize

/-- The iteration of a loop has not ended. -/
def UnderWay (batchSize : Nat) (loop : Loop) : Prop :=
  ∀ lap, loop.current = some lap → lap.iteration.isEnded = false ∧
    lap.iteration.exchangesLeft batchSize ≤ batchSize + 5

theorem UnderWay.step (under_way : loop.UnderWay batchSize) (move : Move) :
    (loop.step batchSize move).UnderWay batchSize := by
  have moved := loop.step_moved batchSize move
  generalize loop.step batchSize move = after at moved
  cases moved with
  | begun due =>
      rintro lap ⟨⟩
      exact ⟨rfl, Nat.le_refl _⟩
  | @continued reply lap iteration store current exchanged going =>
      rintro later ⟨⟩
      obtain ⟨open_before, bound⟩ := under_way lap current
      have less := Iteration.exchangesLeft_exchange batchSize open_before reply loop.store
      rw [exchanged] at less
      exact ⟨going, Nat.le_trans (Nat.le_of_lt less) bound⟩
  | finished =>
      intro lap impossible
      cases impossible
  | _ => exact under_way

theorem underWay_run (settings : Settings) (start : Nat) (store : Store) (history : List Move) :
    (run settings start store history).UnderWay settings.batchSize := by
  induction history using List.reverseRecOn with
  | nil =>
      intro lap impossible
      cases impossible
  | append_singleton past move ih =>
      rw [run_concat]
      exact ih.step move

theorem settled_step (settled : loop.worker.Settled) (move : Move) :
    (loop.step batchSize move).worker.Settled := by
  have unready : ¬loop.worker.isDue loop.now = true :=
    fun due => settled.unlooking (Worker.isDue_iff.mp due).1
  cases move with
  | look => exact settled.look
  | tick =>
      rw [step, if_neg unready]
      exact settled.rest
  | rest => exact settled.rest
  | reply reply =>
      simp only [step]
      split
      · exact settled
      · rw [put]
        split
        · exact settled.finish
        · exact settled
  | join =>
      rw [step]
      split <;> exact settled
  | cancel => exact ⟨rfl, settled.unlooking⟩
  | _ => exact settled

/-- A settled loop begins nothing new, so every reply brings it nearer to its end. -/
theorem repliesLeft_step (settled : loop.worker.Settled) (under_way : loop.UnderWay batchSize)
    (move : Move) :
    (loop.step batchSize move).repliesLeft batchSize ≤
      loop.repliesLeft batchSize - [move].countP Move.isReply := by
  have moved := loop.step_moved batchSize move
  generalize loop.step batchSize move = after at moved
  cases moved with
  | nothing _ unfit =>
      cases replies : move.isReply with
      | true => simp [repliesLeft, unfit replies]
      | false => simp [replies]
  | begun due => exact absurd (Worker.isDue_iff.mp due).1 settled.unlooking
  | @continued reply lap iteration store current exchanged =>
      have less := Iteration.exchangesLeft_exchange batchSize (under_way lap current).1 reply
        loop.store
      rw [exchanged] at less
      simp only [repliesLeft, current, Option.elim_some]
      exact Nat.le_sub_one_of_lt less
  | finished => exact Nat.zero_le _
  | quieted silent =>
      rw [List.countP_singleton, if_neg (Bool.eq_false_iff.mp silent)]
      exact Nat.le_refl _
  | _ => exact Nat.le_refl _

theorem repliesLeft_foldl (settled : loop.worker.Settled) (under_way : loop.UnderWay batchSize)
    (moves : List Move) :
    (moves.foldl (step batchSize) loop).worker.Settled ∧
    (moves.foldl (step batchSize) loop).UnderWay batchSize ∧
    (moves.foldl (step batchSize) loop).repliesLeft batchSize ≤
      loop.repliesLeft batchSize - moves.countP Move.isReply := by
  induction moves generalizing loop with
  | nil => exact ⟨settled, under_way, Nat.le_refl _⟩
  | cons move moves ih =>
      obtain ⟨still_settled, still_under_way, bound⟩ :=
        ih (settled_step settled move) (under_way.step move)
      refine ⟨still_settled, still_under_way, ?_⟩
      have less := repliesLeft_step settled under_way move
      rw [← List.singleton_append, List.countP_append]
      rw [List.singleton_append, List.foldl_cons]
      omega

/-- After enough replies a settled loop is in no iteration. -/
theorem resting_of_replies (settled : loop.worker.Settled) (under_way : loop.UnderWay batchSize)
    {moves : List Move} (enough : batchSize + 5 ≤ moves.countP Move.isReply) :
    (moves.foldl (step batchSize) loop).current = none := by
  obtain ⟨_, still_under_way, bound⟩ := repliesLeft_foldl settled under_way moves
  have most : loop.repliesLeft batchSize ≤ batchSize + 5 := by
    cases current : loop.current with
    | none => simp [repliesLeft, current]
    | some lap => simpa [repliesLeft, current] using (under_way lap current).2
  have none_left : (moves.foldl (step batchSize) loop).repliesLeft batchSize = 0 := by omega
  cases current : (moves.foldl (step batchSize) loop).current with
  | none => rfl
  | some lap =>
      rw [repliesLeft, current, Option.elim_some] at none_left
      have complete := Iteration.isEnded_of_exchangesLeft none_left
      rw [(still_under_way lap current).1] at complete
      cases complete

theorem stopped_of_replies (settings : Settings) (start : Nat) (store : Store)
    {before first second : List Move}
    (unlooking : (run settings start store (before ++ .cancel :: first)).worker.activity ≠ .looking)
    (enough : settings.batchSize + 5 ≤ second.countP Move.isReply) :
    (run settings start store (before ++ .cancel :: (first ++ second))).current = none ∧
    (run settings start store (before ++ .cancel :: (first ++ second ++ [.look]))).worker.activity =
      .stopped := by
  have cancelled := (lapsAhead_run settings start store before first).1
  have settled : (run settings start store (before ++ .cancel :: first)).worker.Settled :=
    ⟨cancelled, unlooking⟩
  have under_way := underWay_run settings start store (before ++ .cancel :: first)
  have left := resting_of_replies settled under_way enough
  have still_settled := (repliesLeft_foldl settled under_way second).1
  rw [← run_append, List.append_assoc, List.cons_append] at left still_settled
  refine ⟨left, ?_⟩
  rw [← List.cons_append, ← List.append_assoc, run_concat]
  apply Worker.activity_look_cancelled still_settled.cancelled
  intro running
  rw [← (sound_run settings start store _).running, left] at running
  cases running

/-! ## Workers in time -/

/-- The iterations of a worker never overlap, and each comes after its time: the first an interval
after the start, the others a period after the one before at the earliest.  None begins after a
cancellation, but for one if the worker was between its two looks.  One that is active goes on with
the same calls as without the cancellation, and ends with the reply to the last of them; then the
worker stops when it looks.  Who waits for the worker waits until then. -/
theorem iterations_come_in_turn (settings : Settings) (start : Nat) (store : Store) :
    (∀ history, (run settings start store history).laps.Pairwise Lap.Precedes) ∧
    (∀ history index lap, (run settings start store history).laps[index]? = some lap →
      start + Ticker.firstWait settings.interval +
        index * min (Ticker.firstWait settings.interval) Ticker.longestPeriod ≤ lap.begun) ∧
    (∀ before after,
      ((run settings start store (before ++ .cancel :: after)).laps.length =
          (run settings start store before).laps.length ∨
        (run settings start store before).worker.activity = .looking ∧
          (run settings start store (before ++ .cancel :: after)).laps.length =
            (run settings start store before).laps.length + 1) ∧
      (run settings start store (before ++ .cancel :: after)).laps =
        (run settings start store (before ++ after)).laps.take
          (run settings start store (before ++ .cancel :: after)).laps.length) ∧
    (∀ before first second,
      (run settings start store (before ++ .cancel :: first)).worker.activity ≠ .looking →
      settings.batchSize + 5 ≤ second.countP Move.isReply →
      (∀ lap ∈ (run settings start store (before ++ .cancel :: (first ++ second))).laps,
        lap.iteration.isEnded = true ∧ lap.ended.isSome = true) ∧
      (run settings start store
        (before ++ .cancel :: (first ++ second ++ [.look]))).worker.activity = .stopped) ∧
    ∀ history moment, (run settings start store history).joined = some moment →
      .cancel ∈ history ∧
      (∀ lap ∈ (run settings start store history).laps,
        ∃ ended, lap.ended = some ended ∧ ended ≤ moment) ∧
      ∀ more, (run settings start store (history ++ more)).laps =
        (run settings start store history).laps := by
  refine ⟨?_, ?_, ?_, ?_, ?_⟩
  · intro history
    exact (sound_run settings start store history).pairwise_laps
  · intro history index lap there
    exact (sound_run settings start store history).begun index lap there
  · intro before after
    exact ⟨laps_of_cancelled settings start store before after,
      (beside_run settings start store before after).laps_eq⟩
  · intro before first second unlooking enough
    obtain ⟨left, stopped⟩ := stopped_of_replies settings start store unlooking enough
    refine ⟨?_, stopped⟩
    intro lap member
    rw [laps_of_no_current left] at member
    obtain ⟨complete, ended, was, _⟩ := (sound_run settings start store _).past lap member
    refine ⟨complete, ?_⟩
    rw [was]
    rfl
  · intro history moment joined
    have sound := sound_run settings start store history
    obtain ⟨stopped, complete⟩ := sound.joined moment joined
    have left : (run settings start store history).current = none := by
      rw [← Option.not_isSome_iff_eq_none, sound.running, stopped]
      exact Activity.noConfusion
    refine ⟨sound.cancelled (sound.stops stopped), ?_, ?_⟩
    · rw [laps_of_no_current left]
      exact complete
    · intro more
      rw [run_append]
      exact laps_of_stopped stopped left more

/-- A worker that looks for rows every ten milliseconds. -/
def briskSettings : Settings :=
  { interval := Span.ofMilliseconds 10, batchSize := 1 }

/-- An iteration that has begun its transaction and then waits for longer than the interval. -/
def slowBeginning : List Move :=
  [.pass 10000000, .look, .tick, .reply {}, .pass 25000000]

/-- The iteration goes on and ends; there is time for another one. -/
def slowEnding : List Move :=
  [.reply {}, .reply {}, .pass 5000000, .look, .tick, .reply {}, .reply {}, .reply {}, .reply {}]

/-- The cancelled worker has one iteration, the first of the two that it would have had. -/
theorem slowBeginning_comes_to_its_end :
    (run briskSettings 0 { id := 0 } (slowBeginning ++ .cancel :: slowEnding)).laps.length = 1 ∧
    (run briskSettings 0 { id := 0 } (slowBeginning ++ slowEnding)).laps.length = 2 ∧
    (run briskSettings 0 { id := 0 } (slowBeginning ++ .cancel :: slowEnding)).laps =
      (run briskSettings 0 { id := 0 } (slowBeginning ++ slowEnding)).laps.take 1 ∧
    (∀ lap ∈ (run briskSettings 0 { id := 0 } (slowBeginning ++ .cancel :: slowEnding)).laps,
      lap.iteration.isEnded = true ∧ lap.ended.isSome = true) ∧
    (run briskSettings 0 { id := 0 }
      (slowBeginning ++ .cancel :: (slowEnding ++ [.look]))).worker.activity = .stopped ∧
    ∀ lap ∈ (run briskSettings 0 { id := 0 }
        (slowBeginning ++ .cancel :: (slowEnding ++ [.look, .join]))).laps,
      ∃ ended, lap.ended = some ended ∧ ended ≤ 40000000 := by
  obtain ⟨_, _, cancelled, stopped, joined⟩ :=
    iterations_come_in_turn briskSettings 0 { id := 0 }
  obtain ⟨count, same⟩ := cancelled slowBeginning slowEnding
  obtain ⟨complete, still⟩ := stopped slowBeginning [] slowEnding (by decide) (by decide)
  refine ⟨?_, rfl, same, complete, still, (joined _ 40000000 rfl).2.1⟩
  rcases count with one | ⟨looking, _⟩
  · exact one
  · cases looking

/-! ## Rare workers, and one that is cancelled between its looks -/

/-- A worker that is to look for rows every 10¹² milliseconds, which is more than thirty years. -/
def rareSettings : Settings :=
  { interval := Span.ofMilliseconds 1000000000000 }

/-- Thirty years of 365 days after its first iteration, the worker looks for a tick. -/
def rareHistory : List Move :=
  [.pass 1000000000000000000, .look, .tick, .reply { injected := some (.database "gone") },
    .pass 946080000000000000, .look, .tick]

/-- Longer intervals than the longest period are not kept from the second iteration on.  And a
worker that has looked whether it is cancelled begins an iteration although it was cancelled since
then. -/
theorem periods_and_cancellations_can_be_missed :
    (¬ ∀ settings start store history index lap,
      (run settings start store history).laps[index]? = some lap →
      start + (index + 1) * Ticker.firstWait settings.interval ≤ lap.begun) ∧
    ¬ ∀ settings start store before after,
      (run settings start store (before ++ .cancel :: after)).laps.length =
        (run settings start store before).laps.length := by
  constructor
  · intro kept
    have early := kept rareSettings 0 { id := 0 } rareHistory 1
      { begun := 1946080000000000000 } rfl
    revert early
    decide
  · intro obeyed
    have late := obeyed briskSettings 0 { id := 0 } [.pass 10000000, .look] [.tick]
    revert late
    decide

end Loop

end Outbox.Publisher
