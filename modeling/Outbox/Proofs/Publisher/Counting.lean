import Outbox.Proofs.Metrics.Tally
import Outbox.Proofs.Publisher.Loop

/-!
# What a publisher counts

A publisher counts every attempt when it has its result, and its worker counts the iterations that
end with an error.  A desk is a publisher at work: the loop of its worker, and iterations that
others run directly, on the same store and with the same counters.  Its attempts are written down
one by one, whatever becomes of their iterations, and the counters tell their numbers.
-/

set_option autoImplicit false

namespace Outbox.Publisher

open Time (Instant)

/-! ## Attempts -/

/-- Whose iteration it is: the worker's at one of its ticks, or that of an errand. -/
inductive Runner where
  | tick (index : Nat)
  | errand (run : Nat)
  deriving DecidableEq

/-- A publication that has come to its result. -/
structure Attempt where
  runner : Runner
  message : Message
  result : Except Error Unit

def Attempt.succeeded (attempt : Attempt) : Bool :=
  attempt.result.isOk

@[simp] theorem Attempt.succeeded_ok (runner : Runner) (message : Message) (done : Unit) :
    Attempt.succeeded ⟨runner, message, .ok done⟩ = true :=
  rfl

@[simp] theorem Attempt.succeeded_error (runner : Runner) (message : Message) (error : Error) :
    Attempt.succeeded ⟨runner, message, .error error⟩ = false :=
  rfl

namespace Iteration

/-- The row that an iteration publishes. -/
def sending? : Iteration → Option Message
  | .publishing _ _ message _ => some message
  | _ => none

def isAborted : Iteration → Bool
  | .ended (.error _) => true
  | _ => false

/-- The attempt that a result completes. -/
def attempt? (runner : Runner) (result : Except Error Unit) (iteration : Iteration) :
    Option Attempt :=
  iteration.sending?.map fun message => ⟨runner, message, result⟩

/-- What a worker counts when its iteration has come here. -/
def closing : Iteration → List Increment
  | .ended result => Worker.increments result
  | _ => []

/-- The rows that an iteration still has to try are pending. -/
def TriesPending (iteration : Iteration) : Prop :=
  ∀ message ∈ iteration.untried, message.isPending = true

theorem triesPending_of_untried {iteration : Iteration} (none_left : iteration.untried = []) :
    iteration.TriesPending := by
  simp [TriesPending, none_left]

/-- A call can find any store and any answer: what is untried after it was untried before, or it was
fetched just now. -/
theorem TriesPending.perform {iteration : Iteration} (tries : iteration.TriesPending)
    (batchSize : Nat) (now : Instant) (injected : Option Error) (store : Store) :
    (iteration.perform batchSize now injected store).1.TriesPending := by
  cases injected with
  | some error =>
      cases iteration with
      | publishing => exact tries
      | _ => exact triesPending_of_untried rfl
  | none =>
      cases iteration with
      | fetching tx =>
          simp only [Iteration.perform]
          split
          · exact triesPending_of_untried rfl
          · rename_i batch after fetched
            intro message member
            rw [untried_publishNext, (Store.of_fetch fetched).1] at member
            exact (Store.mem_batch member).1
      | publishing => exact tries
      | savingProcessed tx attempts =>
          simp only [Iteration.perform]
          split
          · exact triesPending_of_untried rfl
          · exact triesPending_of_untried (untried_afterProcessed _ _)
      | savingFailed tx attempts =>
          simp only [Iteration.perform]
          split <;> exact triesPending_of_untried rfl
      | committing tx report =>
          simp only [Iteration.perform]
          split <;> exact triesPending_of_untried rfl
      | undoing tx error =>
          simp only [Iteration.perform]
          split <;> exact triesPending_of_untried rfl
      | _ => exact triesPending_of_untried rfl

theorem TriesPending.answer {iteration : Iteration} (tries : iteration.TriesPending)
    (result : Except Error Unit) : (iteration.answer result).1.TriesPending := by
  cases iteration with
  | publishing tx attempts message waiting =>
      have pending : message.isPending = true := tries message List.mem_cons_self
      have answered := @answer_answered tx attempts message waiting pending result
      intro other member
      rw [answered.untried] at member
      exact tries other (List.mem_of_mem_tail member)
  | _ => exact tries

theorem TriesPending.exchange {iteration : Iteration} (tries : iteration.TriesPending)
    (batchSize : Nat) (reply : Reply) (store : Store) :
    (iteration.exchange batchSize reply store).1.TriesPending := by
  unfold Iteration.exchange
  split
  · exact tries.perform batchSize _ _ store
  · exact tries.answer reply.result
  · exact tries

/-- A call to the store is not counted. -/
theorem increments_of_call {iteration : Iteration} {batchSize : Nat} {call : Call}
    (calls : iteration.action batchSize = .call call) (result : Except Error Unit) :
    (iteration.answer result).2 = [] := by
  cases iteration with
  | publishing tx attempts message waiting => cases calls
  | _ => rfl

/-- An answer is counted for what the attempt has come to. -/
theorem increments_answer {iteration : Iteration} (tries : iteration.TriesPending)
    (result : Except Error Unit) :
    (iteration.answer result).2 =
      match iteration.sending?, result with
      | none, _ => []
      | some _, .ok _ => [.published]
      | some _, .error _ => [.publisherError, .failed] := by
  cases iteration with
  | publishing tx attempts message waiting =>
      have pending : message.isPending = true := tries message List.mem_cons_self
      cases result with
      | ok done => rfl
      | error error => simp [Iteration.answer, Message.recordFailure_of_pending pending, sending?]
  | _ => rfl

end Iteration

/-- The rows of the attempts of one iteration. -/
def sentBy (runner : Runner) (attempts : List Attempt) : List Message :=
  (attempts.filter fun attempt => attempt.runner = runner).map Attempt.message

section Sent
variable {attempts : List Attempt} {iteration : Iteration} {runner : Runner}

/-- An iteration at its next call has sent what it was about to send. -/
theorem sentBy_self {earlier : List Iteration}
    (sent : sentBy runner attempts = earlier.filterMap Iteration.sending?) (iteration : Iteration)
    (result : Except Error Unit) :
    sentBy runner (attempts ++ (iteration.attempt? runner result).toList) =
      (earlier ++ [iteration]).filterMap Iteration.sending? := by
  rw [List.filterMap_append, ← sent, sentBy, List.filter_append, List.map_append]
  congr 1
  unfold Iteration.attempt?
  cases sending : iteration.sending? with
  | none => simp [sending]
  | some message => simp [sending]

theorem sentBy_other {other : Runner} (different : runner ≠ other) (attempts : List Attempt)
    (iteration : Iteration) (result : Except Error Unit) :
    sentBy other (attempts ++ (iteration.attempt? runner result).toList) =
      sentBy other attempts := by
  rw [sentBy, List.filter_append, List.map_append]
  unfold Iteration.attempt?
  cases iteration.sending? with
  | none => simp [sentBy]
  | some message => simp [sentBy, different]

theorem runner_of_attempt {attempt : Attempt} {result : Except Error Unit}
    (made : attempt ∈ (iteration.attempt? runner result).toList) : attempt.runner = runner := by
  obtain ⟨message, _, same⟩ := Option.map_eq_some_iff.mp (Option.mem_toList.mp made)
  rw [← same]

end Sent

/-! ## Three counters -/

/-- The counters tell how some attempts have ended, and how many iterations were aborted. -/
structure Shows (tally : Tally) (attempts : List Attempt) (aborted : Nat) : Prop where
  ordered : tally.Ordered
  published : tally.count .published = attempts.countP Attempt.succeeded
  failed : tally.count .failed = attempts.countP fun attempt => !attempt.succeeded
  errors : tally.count .publisherError =
    (attempts.countP fun attempt => !attempt.succeeded) + aborted

section Shows
variable {tally : Tally} {attempts : List Attempt} {aborted : Nat}

theorem keys_distinct : Tally.key .published ≠ Tally.key .failed ∧
    Tally.key .published ≠ Tally.key .publisherError ∧
    Tally.key .failed ≠ Tally.key .publisherError := by
  decide

/-- What three counts say of further increments, for further attempts and aborted iterations. -/
theorem Shows.recordAll (shows : Shows tally attempts aborted) {increments : List Increment}
    {more : List Attempt} {further : Nat}
    (published : (increments.countP fun increment => Tally.key increment = Tally.key .published) =
      more.countP Attempt.succeeded)
    (failed : (increments.countP fun increment => Tally.key increment = Tally.key .failed) =
      more.countP fun attempt => !attempt.succeeded)
    (errors : (increments.countP fun increment =>
      Tally.key increment = Tally.key .publisherError) =
      (more.countP fun attempt => !attempt.succeeded) + further) :
    Shows (tally.recordAll increments) (attempts ++ more) (aborted + further) := by
  refine ⟨shows.ordered.recordAll _, ?_, ?_, ?_⟩
  · rw [Tally.count_recordAll shows.ordered, shows.published, published, List.countP_append]
  · rw [Tally.count_recordAll shows.ordered, shows.failed, failed, List.countP_append]
  · rw [Tally.count_recordAll shows.ordered, shows.errors, errors, List.countP_append]
    omega

theorem Shows.answer (shows : Shows tally attempts aborted) {iteration : Iteration}
    (tries : iteration.TriesPending) (runner : Runner) (result : Except Error Unit) :
    Shows (tally.recordAll (iteration.answer result).2)
      (attempts ++ (iteration.attempt? runner result).toList) aborted := by
  obtain ⟨first, second, third⟩ := keys_distinct
  rw [Iteration.increments_answer tries, Iteration.attempt?]
  cases iteration.sending? with
  | none => exact @Shows.recordAll tally attempts aborted shows [] [] 0 rfl rfl rfl
  | some message =>
      rcases result with error | done
      · apply @Shows.recordAll tally attempts aborted shows _ [⟨runner, message, .error error⟩] 0
        · simp [first.symm, second.symm]
        · simp [third.symm]
        · simp [third]
      · apply @Shows.recordAll tally attempts aborted shows _ [⟨runner, message, .ok done⟩] 0
        · simp
        · simp [first]
        · simp [second]

/-- The end of an iteration of the worker is counted if it is an error, and is no attempt. -/
theorem Shows.closing (shows : Shows tally attempts aborted) (iteration : Iteration) :
    Shows (tally.recordAll iteration.closing) attempts
      (aborted + if iteration.isAborted then 1 else 0) := by
  obtain ⟨first, second, third⟩ := keys_distinct
  have counted : Shows (tally.recordAll iteration.closing) (attempts ++ [])
      (aborted + if iteration.isAborted then 1 else 0) := by
    cases iteration with
    | ended result =>
        cases result with
        | ok report => exact shows.recordAll rfl rfl rfl
        | error error =>
            apply shows.recordAll
            · simp [Iteration.closing, Worker.increments, second.symm]
            · simp [Iteration.closing, Worker.increments, third.symm]
            · simp [Iteration.closing, Worker.increments, Iteration.isAborted]
    | _ => exact shows.recordAll rfl rfl rfl
  rw [List.append_nil] at counted
  exact counted

/-- The end of a call of the worker's iteration, which is at `next` then. -/
theorem Shows.reply (shows : Shows tally attempts aborted) {iteration : Iteration}
    (tries : iteration.TriesPending) (runner : Runner) (result : Except Error Unit)
    (next : Iteration) :
    Shows (tally.recordAll ((iteration.answer result).2 ++ next.closing))
      (attempts ++ (iteration.attempt? runner result).toList)
      (aborted + if next.isAborted then 1 else 0) := by
  rw [Tally.recordAll, List.foldl_append]
  exact (shows.answer tries runner result).closing next

end Shows

/-! ## The worker -/

namespace Loop

/-- What the worker counts at a move: the result of an attempt, and then the end of the iteration if
it was an error. -/
def increments (batchSize : Nat) (loop : Loop) : Move → List Increment
  | .reply reply =>
    match loop.current with
    | none => []
    | some lap =>
      (lap.iteration.answer reply.result).2 ++
        (lap.iteration.exchange batchSize reply loop.store).1.closing
  | _ => []

/-- What the worker counts at some moves. -/
def counted (batchSize : Nat) (loop : Loop) : List Move → List Increment
  | [] => []
  | move :: rest =>
    loop.increments batchSize move ++ (loop.step batchSize move).counted batchSize rest

theorem counted_append (batchSize : Nat) (loop : Loop) (first second : List Move) :
    loop.counted batchSize (first ++ second) = loop.counted batchSize first ++
      (first.foldl (step batchSize) loop).counted batchSize second := by
  induction first generalizing loop with
  | nil => rfl
  | cons move rest ih =>
      rw [List.cons_append, counted, ih, counted, List.append_assoc, List.foldl_cons]

def attempt? (loop : Loop) : Move → Option Attempt
  | .reply reply => loop.current.bind fun lap =>
      lap.iteration.attempt? (.tick loop.past.length) reply.result
  | _ => none

section Counts
variable {loop : Loop}

/-- Only a reply to an iteration is counted. -/
theorem silent {move : Move} (unfit : move.isReply = true → loop.current = none)
    (batchSize : Nat) : loop.increments batchSize move = [] ∧ loop.attempt? move = none := by
  cases move with
  | reply reply =>
      have resting := unfit rfl
      simp [increments, attempt?, resting]
  | _ => exact ⟨rfl, rfl⟩

theorem increments_reply {lap : Lap} {reply : Reply} {batchSize : Nat} {next : Iteration}
    {store : Store} (current : loop.current = some lap)
    (exchanged : lap.iteration.exchange batchSize reply loop.store = (next, store)) :
    loop.increments batchSize (.reply reply) =
      (lap.iteration.answer reply.result).2 ++ next.closing := by
  simp [increments, current, exchanged]

theorem attempt?_reply {lap : Lap} (current : loop.current = some lap) (reply : Reply) :
    loop.attempt? (.reply reply) =
      lap.iteration.attempt? (.tick loop.past.length) reply.result := by
  simp [attempt?, current]

end Counts

end Loop

/-! ## Desks -/

/-- An iteration that somebody runs directly, and what it was at before each of its calls. -/
structure Errand where
  earlier : List Iteration := []
  iteration : Iteration := .starting

structure Desk where
  loop : Loop
  errands : Nat → Errand := fun _ => {}
  /-- The attempts of all iterations, in this order. -/
  attempts : List Attempt := []
  tally : Tally := {}

namespace Desk

inductive Move where
  /-- Something happens to the worker, or to the store. -/
  | loop (move : Loop.Move)
  /-- The next call of an errand comes to its end. -/
  | errand (run : Nat) (reply : Reply)

def step (batchSize : Nat) (desk : Desk) : Move → Desk
  | .loop move =>
    { desk with
      loop := desk.loop.step batchSize move
      attempts := desk.attempts ++ (desk.loop.attempt? move).toList
      tally := desk.tally.recordAll (desk.loop.increments batchSize move) }
  | .errand run reply =>
    let errand := desk.errands run
    let (next, store) := errand.iteration.exchange batchSize reply desk.loop.store
    { loop := desk.loop.step batchSize (.disturb store)
      errands := Function.update desk.errands run ⟨errand.earlier ++ [errand.iteration], next⟩
      attempts := desk.attempts ++ (errand.iteration.attempt? (.errand run) reply.result).toList
      tally := desk.tally.recordAll (errand.iteration.answer reply.result).2 }

/-- A publisher whose worker starts now, with fresh counters. -/
def start (settings : Settings) (now : Nat) (store : Store) : Desk where
  loop := Loop.start settings now store

def run (settings : Settings) (now : Nat) (store : Store) (history : List Move) : Desk :=
  history.foldl (step settings.batchSize) (start settings now store)

theorem run_concat (settings : Settings) (now : Nat) (store : Store) (past : List Move)
    (move : Move) : run settings now store (past ++ [move]) =
      (run settings now store past).step settings.batchSize move := by
  simp [run]

/-! ## The counters of a desk -/

/-- The counters agree with the attempts and with the iterations of the worker that have ended. -/
structure Balanced (desk : Desk) : Prop where
  shows : Shows desk.tally desk.attempts
    (desk.loop.past.countP fun lap => lap.iteration.isAborted)
  current : ∀ lap, desk.loop.current = some lap → lap.iteration.TriesPending
  errands : ∀ run, (desk.errands run).iteration.TriesPending

section Balanced
variable {desk : Desk}

/-- A move that leaves the iterations alone, or begins one. -/
theorem Balanced.silent (balanced : desk.Balanced) {batchSize : Nat} {move : Loop.Move}
    {after : Loop} (stepped : desk.loop.step batchSize move = after)
    (unfit : move.isReply = true → desk.loop.current = none)
    (past : after.past = desk.loop.past)
    (current : ∀ lap, after.current = some lap → lap.iteration.TriesPending) :
    (desk.step batchSize (.loop move)).Balanced := by
  obtain ⟨uncounted, unattempted⟩ := Loop.silent unfit batchSize
  simp only [Desk.step, stepped, uncounted, unattempted, Option.toList_none, List.append_nil]
  refine ⟨?_, current, balanced.errands⟩
  simp only [past]
  exact balanced.shows

theorem Balanced.loop (balanced : desk.Balanced) (batchSize : Nat) (move : Loop.Move) :
    (desk.step batchSize (.loop move)).Balanced := by
  have moved := desk.loop.step_moved batchSize move
  generalize stepped : desk.loop.step batchSize move = after at moved
  cases moved with
  | nothing move unfit => exact balanced.silent stepped unfit rfl balanced.current
  | passed nanoseconds => exact balanced.silent stepped Bool.noConfusion rfl balanced.current
  | begun due =>
      apply balanced.silent stepped Bool.noConfusion rfl
      rintro lap ⟨⟩
      exact Iteration.triesPending_of_untried rfl
  | @continued reply lap next store current exchanged under_way =>
      have unaborted : next.isAborted = false := by
        cases next with
        | ended result => cases under_way
        | _ => rfl
      have shows := balanced.shows.reply (balanced.current lap current)
        (.tick desk.loop.past.length) reply.result next
      have tries := (balanced.current lap current).exchange batchSize reply desk.loop.store
      rw [unaborted] at shows
      rw [exchanged] at tries
      simp only [Desk.step, stepped, Loop.increments_reply current exchanged,
        Loop.attempt?_reply current]
      refine ⟨shows, ?_, balanced.errands⟩
      rintro other ⟨⟩
      exact tries
  | @finished reply lap next store current exchanged complete =>
      have shows := balanced.shows.reply (balanced.current lap current)
        (.tick desk.loop.past.length) reply.result next
      simp only [Desk.step, stepped, Loop.increments_reply current exchanged,
        Loop.attempt?_reply current]
      refine ⟨?_, ?_, balanced.errands⟩
      · rw [List.countP_append, List.countP_singleton]
        exact shows
      · intro other impossible
        cases impossible
  | disturbed store => exact balanced.silent stepped Bool.noConfusion rfl balanced.current
  | quieted silent =>
      refine balanced.silent stepped ?_ rfl balanced.current
      simp [silent]
  | joined stopped => exact balanced.silent stepped Bool.noConfusion rfl balanced.current

/-- What an errand counts is its attempts, and not its end. -/
theorem Balanced.errand (balanced : desk.Balanced) (batchSize run : Nat) (reply : Reply) :
    (desk.step batchSize (.errand run reply)).Balanced := by
  have tries := balanced.errands run
  refine ⟨balanced.shows.answer tries (.errand run) reply.result, balanced.current, ?_⟩
  intro other
  by_cases same : other = run
  · subst same
    simp only [Desk.step, Function.update_self]
    exact tries.exchange batchSize reply desk.loop.store
  · simp only [Desk.step, Function.update_of_ne same]
    exact balanced.errands other

end Balanced

theorem balanced_run (settings : Settings) (now : Nat) (store : Store) (history : List Move) :
    (run settings now store history).Balanced := by
  induction history using List.reverseRecOn with
  | nil =>
      refine ⟨⟨Tally.ordered_empty, rfl, rfl, rfl⟩, ?_, ?_⟩
      · intro lap impossible
        cases impossible
      · intro run
        exact Iteration.triesPending_of_untried rfl
  | append_singleton past move ih =>
      rw [run_concat]
      cases move with
      | loop move => exact ih.loop settings.batchSize move
      | errand run reply => exact ih.errand settings.batchSize run reply

/-! ## Whose attempts they are -/

/-- The attempts of an iteration are one for each of its publications that has come to a result. -/
structure Recorded (settings : Settings) (now : Nat) (desk : Desk) : Prop where
  sound : ∃ history, desk.loop.Sound settings now history
  known : ∀ attempt ∈ desk.attempts, ∀ index, attempt.runner = .tick index →
    index < desk.loop.laps.length
  ticks : ∀ index lap, desk.loop.laps[index]? = some lap →
    sentBy (.tick index) desk.attempts = lap.earlier.filterMap Iteration.sending?
  errands : ∀ run, sentBy (.errand run) desk.attempts =
    (desk.errands run).earlier.filterMap Iteration.sending?

section Recorded
variable {settings : Settings} {now : Nat} {desk : Desk}

/-- A move that leaves the iterations alone. -/
theorem Recorded.silent (recorded : Recorded settings now desk) {move : Loop.Move} {after : Loop}
    (stepped : desk.loop.step settings.batchSize move = after)
    (unfit : move.isReply = true → desk.loop.current = none) (laps : after.laps = desk.loop.laps) :
    Recorded settings now (desk.step settings.batchSize (.loop move)) := by
  obtain ⟨_, unattempted⟩ := Loop.silent unfit settings.batchSize
  obtain ⟨⟨history, sound⟩, known, ticks, errands⟩ := recorded
  simp only [Desk.step, unattempted, Option.toList_none, List.append_nil]
  refine ⟨⟨_, sound.step move⟩, ?_, ?_, errands⟩
  · simp only [stepped, laps]
    exact known
  · simp only [stepped, laps]
    exact ticks

theorem Recorded.begun (recorded : Recorded settings now desk)
    (due : desk.loop.worker.isDue desk.loop.now = true) :
    Recorded settings now (desk.step settings.batchSize (.loop .tick)) := by
  obtain ⟨⟨history, sound⟩, known, ticks, errands⟩ := recorded
  have laps : (desk.loop.step settings.batchSize .tick).laps =
      desk.loop.laps ++ [{ begun := desk.loop.now }] := by
    rw [Loop.step, if_pos due, Loop.laps_of_no_current (sound.resting due)]
    rfl
  refine ⟨⟨_, sound.step .tick⟩, ?_, ?_, ?_⟩
  · intro attempt made index own
    simp only [Desk.step, Loop.attempt?, Option.toList_none, List.append_nil] at made
    have earlier := known attempt made index own
    simp only [Desk.step, laps, List.length_append, List.length_singleton]
    omega
  · intro index lap there
    simp only [Desk.step, laps, List.getElem?_append] at there
    simp only [Desk.step, Loop.attempt?, Option.toList_none, List.append_nil]
    split at there
    · exact ticks index lap there
    · rename_i new
      obtain ⟨position, rfl⟩ := List.getElem?_eq_some_iff.mp there
      -- Nobody has made an attempt for an iteration that was not there.
      rw [sentBy, List.map_eq_nil_iff.mpr]
      · simp
      · rw [List.filter_eq_nil_iff]
        intro attempt made own
        exact new (known attempt made index (of_decide_eq_true own))
  · simp only [Desk.step, Loop.attempt?, Option.toList_none, List.append_nil]
    exact errands

/-- The iteration of the worker makes a call. -/
theorem Recorded.reply (recorded : Recorded settings now desk) {reply : Reply} {lap later : Lap}
    (current : desk.loop.current = some lap)
    (laps : (desk.loop.step settings.batchSize (.reply reply)).laps = desk.loop.past ++ [later])
    (earlier : later.earlier = lap.earlier ++ [lap.iteration]) :
    Recorded settings now (desk.step settings.batchSize (.loop (.reply reply))) := by
  obtain ⟨⟨history, sound⟩, known, ticks, errands⟩ := recorded
  rw [Loop.laps_of_current current] at known ticks
  simp only [Desk.step, Loop.attempt?_reply current]
  refine ⟨⟨_, sound.step (.reply reply)⟩, ?_, ?_, ?_⟩
  · intro attempt made index own
    simp only [laps, List.length_append, List.length_singleton]
    rcases List.mem_append.mp made with before | new
    · simpa using known attempt before index own
    · rw [runner_of_attempt new, Runner.tick.injEq] at own
      omega
  · intro index other there
    simp only [laps, List.getElem?_append] at there
    split at there
    · rename_i past
      have different : Runner.tick desk.loop.past.length ≠ .tick index := by
        simp only [ne_eq, Runner.tick.injEq]
        omega
      rw [sentBy_other different]
      exact ticks index other (by rw [List.getElem?_append_left past, there])
    · obtain ⟨position, rfl⟩ := List.getElem?_eq_some_iff.mp there
      obtain rfl : index = desk.loop.past.length := by
        rw [List.length_singleton] at position
        omega
      have before := ticks desk.loop.past.length lap (by simp)
      rw [sentBy_self before]
      simp [earlier]
  · intro run
    rw [sentBy_other (by simp)]
    exact errands run

theorem Recorded.loop (recorded : Recorded settings now desk) (move : Loop.Move) :
    Recorded settings now (desk.step settings.batchSize (.loop move)) := by
  have moved := desk.loop.step_moved settings.batchSize move
  generalize stepped : desk.loop.step settings.batchSize move = after at moved
  cases moved with
  | nothing move unfit => exact recorded.silent stepped unfit rfl
  | passed nanoseconds => exact recorded.silent stepped Bool.noConfusion rfl
  | begun due => exact recorded.begun due
  | continued current exchanged under_way =>
      apply recorded.reply current
      · rw [stepped]
        rfl
      · rfl
  | finished current exchanged complete =>
      apply recorded.reply current
      · rw [stepped, Loop.laps_of_no_current rfl]
      · rfl
  | disturbed store => exact recorded.silent stepped Bool.noConfusion rfl
  | quieted silent =>
      refine recorded.silent stepped ?_ rfl
      simp [silent]
  | joined stopped => exact recorded.silent stepped Bool.noConfusion rfl

theorem Recorded.errand (recorded : Recorded settings now desk) (run : Nat) (reply : Reply) :
    Recorded settings now (desk.step settings.batchSize (.errand run reply)) := by
  obtain ⟨⟨history, sound⟩, known, ticks, errands⟩ := recorded
  refine ⟨⟨_, sound.step (.disturb _)⟩, ?_, ?_, ?_⟩
  · intro attempt made index own
    rcases List.mem_append.mp made with before | new
    · exact known attempt before index own
    · rw [runner_of_attempt new] at own
      cases own
  · intro index lap there
    simp only [Desk.step]
    rw [sentBy_other (by simp)]
    exact ticks index lap there
  · intro other
    simp only [Desk.step]
    by_cases same : other = run
    · subst same
      rw [sentBy_self (errands other), Function.update_self]
    · rw [sentBy_other (by simpa using Ne.symm same), Function.update_of_ne same]
      exact errands other

end Recorded

theorem recorded_run (settings : Settings) (now : Nat) (store : Store) (history : List Move) :
    Recorded settings now (run settings now store history) := by
  induction history using List.reverseRecOn with
  | nil =>
      refine ⟨⟨[], Loop.sound_start settings now store⟩, ?_, ?_, fun _ => rfl⟩
      · intro attempt impossible
        cases impossible
      · intro index lap impossible
        cases impossible
  | append_singleton past move ih =>
      rw [run_concat]
      cases move with
      | loop move => exact ih.loop move
      | errand run reply => exact ih.errand run reply

/-- What is written down of an attempt stays. -/
theorem attempts_prefix (batchSize : Nat) (desk : Desk) (moves : List Move) :
    desk.attempts <+: (moves.foldl (step batchSize) desk).attempts := by
  induction moves generalizing desk with
  | nil => exact List.prefix_rfl
  | cons move rest ih =>
      have stepped : desk.attempts <+: (desk.step batchSize move).attempts := by
        cases move <;> exact List.prefix_append _ _
      exact stepped.trans (ih (desk.step batchSize move))

/-! ## Counters -/

/-- At every moment of every history, whatever the calls to the store and the publications come to:
two counters are the numbers of attempts that have succeeded and that have failed, and the third is
that of the failed ones and of the worker's iterations that have ended with an error.  Each
iteration has an attempt for each of its publications, also if it has ended with an error itself,
and none is taken back. -/
theorem counts_are_exact (settings : Settings) (now : Nat) (store : Store) (history : List Move) :
    let desk := run settings now store history
    desk.tally.count .published = desk.attempts.countP Attempt.succeeded ∧
    desk.tally.count .failed = (desk.attempts.countP fun attempt => !attempt.succeeded) ∧
    desk.tally.count .publisherError =
      (desk.attempts.countP fun attempt => !attempt.succeeded) +
        (desk.loop.past.countP fun lap => lap.iteration.isAborted) ∧
    (∀ index lap, desk.loop.laps[index]? = some lap →
      sentBy (.tick index) desk.attempts = lap.earlier.filterMap Iteration.sending?) ∧
    (∀ run, sentBy (.errand run) desk.attempts =
      (desk.errands run).earlier.filterMap Iteration.sending?) ∧
    ∀ more, desk.attempts <+: (run settings now store (history ++ more)).attempts := by
  intro desk
  have shows := (balanced_run settings now store history).shows
  have recorded := recorded_run settings now store history
  refine ⟨shows.published, shows.failed, shows.errors, recorded.ticks, recorded.errands, ?_⟩
  intro more
  have longer : run settings now store (history ++ more) =
      more.foldl (step settings.batchSize) desk := List.foldl_append
  rw [longer]
  exact attempts_prefix settings.batchSize desk more

/-- A store with two pending rows. -/
def smallStore : Store where
  id := 0
  rows := [.fruitNumbered 1, .fruitNumbered 2]

/-- An iteration that publishes the first row but not the second, and cannot save the first. -/
def unluckyReplies : List Reply :=
  [{}, {}, {}, { result := .error (.eventBus "down") }, { injected := some (.database "gone") }, {}]

/-- A tick with such an iteration, a tick that cannot begin its transaction, and such an iteration
run directly. -/
def unluckyHistory : List Move :=
  .loop (.pass 5000000000) :: .loop .look :: .loop .tick ::
    (unluckyReplies.map fun reply => .loop (.reply reply)) ++
    [.loop (.pass 5000000000), .loop .look, .loop .tick,
      .loop (.reply { injected := some (.database "gone") })] ++
    unluckyReplies.map (.errand 0)

/-- The errand ends with an error as the two ticks do, but its end is not counted. -/
theorem unluckyHistory_is_counted :
    (run {} 0 smallStore unluckyHistory).tally.count .published = 2 ∧
    (run {} 0 smallStore unluckyHistory).tally.count .failed = 2 ∧
    (run {} 0 smallStore unluckyHistory).tally.count .publisherError = 4 ∧
    ((run {} 0 smallStore unluckyHistory).errands 0).iteration.isAborted = true := by
  obtain ⟨published, failed, errors, _⟩ := counts_are_exact {} 0 smallStore unluckyHistory
  exact ⟨published.trans rfl, failed.trans rfl, errors.trans rfl, rfl⟩

end Desk

end Outbox.Publisher
