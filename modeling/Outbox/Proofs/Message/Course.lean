import Mathlib.Data.List.Induction
import Outbox.Proofs.Publisher.Outcomes

/-!
# The course of a message

A message is told again and again that it was published, or that an attempt has failed.  While it is
pending it takes whatever it is told; the first publication ends it, and so does the failed attempt
that makes its count reach the limit.  From then on it refuses everything and stays as it is.

The count is a word of 32 bits.  It never wraps around: it stays below the limit while the message
is pending, and the limit is a word itself.
-/

set_option autoImplicit false

namespace Outbox

open Time (Instant)

/-- What a message can be told about an attempt to publish it. -/
inductive Mark where
  | published (moment : Instant)
  | failed (reason : String)

namespace Message

def take (message : Message) : Mark → Except Error Message
  | .published moment => message.markProcessed moment
  | .failed reason => message.recordFailure reason

/-- The count of failed attempts that ends a message: one at least, whatever its limit. -/
def lastCount (message : Message) : Int :=
  max 1 message.maxRetries.toInt

theorem lastCount_le (message : Message) : message.lastCount ≤ Int32.maxValue.toInt := by
  have greatest : Int32.maxValue.toInt = 2147483647 := by rfl
  have bound := message.maxRetries.toInt_lt
  unfold lastCount
  omega

end Message

/-- A mark, and the error if the message has refused it. -/
structure Marked where
  mark : Mark
  refusal : Option Error

namespace Marked

/-- The reason of a failed attempt that was recorded. -/
def failure? : Marked → Option String
  | ⟨.failed reason, none⟩ => some reason
  | _ => none

/-- The moment of a publication that was recorded. -/
def publication? : Marked → Option Instant
  | ⟨.published moment, none⟩ => some moment
  | _ => none

end Marked

/-- A message, and all the marks that it was given so far. -/
structure Course where
  message : Message
  marked : List Marked

namespace Course

def step (course : Course) (mark : Mark) : Course :=
  match course.message.take mark with
  | .ok message => ⟨message, course.marked ++ [⟨mark, none⟩]⟩
  | .error error => ⟨course.message, course.marked ++ [⟨mark, some error⟩]⟩

def run (origin : Message) (marks : List Mark) : Course :=
  marks.foldl step ⟨origin, []⟩

theorem run_concat (origin : Message) (past : List Mark) (mark : Mark) :
    run origin (past ++ [mark]) = (run origin past).step mark := by
  simp [run]

/-! ## One mark -/

/-- What a mark can do. -/
inductive Stepped (course : Course) : Mark → Course → Prop where
  | published (moment : Instant) (pending : course.message.isPending = true) :
      Stepped course (.published moment)
        ⟨course.message.processed moment, course.marked ++ [⟨.published moment, none⟩]⟩
  | failed (reason : String) (pending : course.message.isPending = true) :
      Stepped course (.failed reason)
        ⟨course.message.refused reason, course.marked ++ [⟨.failed reason, none⟩]⟩
  | refused (mark : Mark) (reason : String) (ended : course.message.isPending = false) :
      Stepped course mark
        ⟨course.message, course.marked ++ [⟨mark, some (.invalidState reason)⟩]⟩

theorem step_stepped (course : Course) (mark : Mark) : Stepped course mark (course.step mark) := by
  cases pending : course.message.isPending with
  | true =>
      cases mark with
      | published moment =>
          simp only [step, Message.take, Message.markProcessed_of_pending pending]
          exact .published moment pending
      | failed reason =>
          simp only [step, Message.take, Message.recordFailure_of_pending pending]
          exact .failed reason pending
  | false =>
      cases mark with
      | published moment =>
          simp only [step, Message.take, Message.markProcessed, pending]
          exact .refused _ _ pending
      | failed reason =>
          simp only [step, Message.take, Message.recordFailure, pending]
          exact .refused _ _ pending

/-! ## The whole course -/

def failures (course : Course) : List String :=
  course.marked.filterMap Marked.failure?

def publications (course : Course) : List Instant :=
  course.marked.filterMap Marked.publication?

/-- What the message tells of the marks that it has taken. -/
structure Lawful (origin : Message) (course : Course) : Prop where
  count : course.message.retryCount.toInt = course.failures.length
  count_le : course.message.retryCount.toInt ≤ origin.lastCount
  /-- The next failed attempt can be counted. -/
  spare : course.message.isPending = true → course.message.retryCount < Int32.maxValue
  failed_iff : course.message.status = .failed ↔
    course.message.retryCount.toInt = origin.lastCount
  processed_iff : course.message.status = .processed ↔ course.publications ≠ []
  processedAt : course.message.processedAt = course.publications.head?
  lastError : course.message.lastError = course.failures.getLast?.getD ""
  /-- Nothing else of the message has changed. -/
  kept : course.message = { origin with
    status := course.message.status
    retryCount := course.message.retryCount
    processedAt := course.message.processedAt
    lastError := course.message.lastError }

section Lawful
variable {origin : Message} {course : Course}

theorem lawful_start (id : Uuid) (now : Instant) (topic : String) (submission : Submission)
    (maxRetries : Int32) :
    Lawful (.ofSubmission id now topic submission maxRetries)
      ⟨.ofSubmission id now topic submission maxRetries, []⟩ where
  count := rfl
  count_le := Int.le_trans (show (0 : Int) ≤ 1 by decide) (Int.le_max_left 1 _)
  spare := by
    intro _
    change (0 : Int32) < Int32.maxValue
    decide
  failed_iff := by
    constructor
    · intro failed
      cases failed
    · intro full
      have one_le := Int.le_max_left 1 maxRetries.toInt
      change (0 : Int) = max 1 maxRetries.toInt at full
      omega
  processed_iff := by
    constructor
    · intro processed
      cases processed
    · intro published
      exact absurd rfl published
  processedAt := rfl
  lastError := rfl
  kept := rfl

theorem Lawful.below (lawful : Lawful origin course) (pending : course.message.isPending = true) :
    course.message.retryCount.toInt < origin.lastCount := by
  have unfailed : course.message.status ≠ .failed := by
    rw [Message.status_of_pending pending]
    decide
  have different : course.message.retryCount.toInt ≠ origin.lastCount :=
    fun full => unfailed (lawful.failed_iff.mpr full)
  have bound := lawful.count_le
  omega

theorem Lawful.unpublished (lawful : Lawful origin course)
    (pending : course.message.isPending = true) : course.publications = [] := by
  by_contra published
  have processed := lawful.processed_iff.mpr published
  rw [Message.status_of_pending pending] at processed
  cases processed

/-- The first publication ends the message below its limit. -/
theorem Lawful.published (lawful : Lawful origin course)
    (pending : course.message.isPending = true) (moment : Instant) :
    Lawful origin
      ⟨course.message.processed moment, course.marked ++ [⟨.published moment, none⟩]⟩ := by
  have below := lawful.below pending
  have unpublished := lawful.unpublished pending
  have failures : failures ⟨course.message.processed moment,
      course.marked ++ [⟨.published moment, none⟩]⟩ = course.failures := by
    simp [Course.failures, Marked.failure?]
  have publications : publications ⟨course.message.processed moment,
      course.marked ++ [⟨.published moment, none⟩]⟩ = [moment] := by
    rw [Course.publications] at unpublished
    simp [Course.publications, unpublished, Marked.publication?]
  constructor
  · rw [failures]
    exact lawful.count
  · exact lawful.count_le
  · intro still_open
    cases still_open
  · constructor
    · intro failed
      cases failed
    · intro full
      exact absurd full (Int.ne_of_lt below)
  · rw [publications]
    simp [Message.processed]
  · rw [publications]
    rfl
  · rw [failures]
    exact lawful.lastError
  · exact congrArg (Message.processed · moment) lawful.kept

/-- A failed attempt is counted, and it ends the message exactly if the count reaches the limit. -/
theorem Lawful.failed (lawful : Lawful origin course)
    (pending : course.message.isPending = true) (reason : String) :
    Lawful origin
      ⟨course.message.refused reason, course.marked ++ [⟨.failed reason, none⟩]⟩ := by
  have below := lawful.below pending
  have limit : course.message.maxRetries = origin.maxRetries := by
    rw [lawful.kept]
  have failures : failures ⟨course.message.refused reason,
      course.marked ++ [⟨.failed reason, none⟩]⟩ = course.failures ++ [reason] := by
    simp [Course.failures, Marked.failure?]
  have publications : publications ⟨course.message.refused reason,
      course.marked ++ [⟨.failed reason, none⟩]⟩ = course.publications := by
    simp [Course.publications, Marked.publication?]
  have counted : (course.message.refused reason).retryCount.toInt =
      course.message.retryCount.toInt + 1 := Message.toInt_succ_of_lt (lawful.spare pending)
  have ends : (course.message.refused reason).status = .failed ↔
      (course.message.refused reason).retryCount.toInt = origin.lastCount := by
    have reached : course.message.maxRetries ≤ course.message.retryCount + 1 ↔
        (course.message.refused reason).retryCount.toInt = origin.lastCount := by
      have added : (course.message.retryCount + 1).toInt = course.message.retryCount.toInt + 1 :=
        counted
      have least := lawful.count
      rw [Int32.le_iff_toInt_le, added, counted, limit]
      unfold Message.lastCount at below ⊢
      omega
    rw [Message.status_refused pending, ← reached]
    split <;> simp_all
  constructor
  · rw [counted, failures, lawful.count]
    simp
  · rw [counted]
    exact below
  · intro still_open
    have unfailed : (course.message.refused reason).status ≠ .failed := by
      rw [Message.status_of_pending still_open]
      decide
    have different : (course.message.refused reason).retryCount.toInt ≠ origin.lastCount :=
      fun full => unfailed (ends.mpr full)
    have most := origin.lastCount_le
    rw [Int32.lt_iff_toInt_lt]
    change (course.message.refused reason).retryCount.toInt < Int32.maxValue.toInt
    omega
  · exact ends
  · rw [publications, lawful.unpublished pending, Message.status_refused pending]
    split <;> simp
  · rw [publications]
    exact lawful.processedAt
  · rw [failures, List.getLast?_concat]
    rfl
  · rw [lawful.kept]
    rfl

theorem Lawful.refused (lawful : Lawful origin course) (mark : Mark) (error : Error) :
    Lawful origin ⟨course.message, course.marked ++ [⟨mark, some error⟩]⟩ := by
  have failures : failures ⟨course.message, course.marked ++ [⟨mark, some error⟩]⟩ =
      course.failures := by
    simp [Course.failures, Marked.failure?]
  have publications : publications ⟨course.message, course.marked ++ [⟨mark, some error⟩]⟩ =
      course.publications := by
    simp [Course.publications, Marked.publication?]
  constructor
  · rw [failures]
    exact lawful.count
  · exact lawful.count_le
  · exact lawful.spare
  · exact lawful.failed_iff
  · rw [publications]
    exact lawful.processed_iff
  · rw [publications]
    exact lawful.processedAt
  · rw [failures]
    exact lawful.lastError
  · exact lawful.kept

theorem Lawful.step (lawful : Lawful origin course) (mark : Mark) :
    Lawful origin (course.step mark) := by
  have stepped := course.step_stepped mark
  generalize course.step mark = after at stepped
  cases stepped with
  | published moment pending => exact lawful.published pending moment
  | failed reason pending => exact lawful.failed pending reason
  | refused mark reason ended => exact lawful.refused mark _

theorem lawful_run (id : Uuid) (now : Instant) (topic : String) (submission : Submission)
    (maxRetries : Int32) (marks : List Mark) :
    Lawful (.ofSubmission id now topic submission maxRetries)
      (run (.ofSubmission id now topic submission maxRetries) marks) := by
  induction marks using List.reverseRecOn with
  | nil => exact lawful_start id now topic submission maxRetries
  | append_singleton past mark ih =>
      rw [run_concat]
      exact ih.step mark

/-- A message has a moment of its publication exactly if it has ended by one. -/
theorem Lawful.processedAt_isSome_iff (lawful : Lawful origin course) :
    course.message.processedAt.isSome = true ↔ course.message.status = .processed := by
  rw [lawful.processedAt, lawful.processed_iff, List.isSome_head?]

end Lawful

/-! ## The end -/

/-- A message that has ended refuses every mark and stays as it is. -/
theorem run_ended (origin : Message) (before after : List Mark)
    (ended : (run origin before).message.isPending = false) :
    (run origin (before ++ after)).message = (run origin before).message ∧
    ∃ refused, (run origin (before ++ after)).marked = (run origin before).marked ++ refused ∧
      refused.map Marked.mark = after ∧
      ∀ marked ∈ refused, ∃ reason, marked.refusal = some (.invalidState reason) := by
  induction after using List.reverseRecOn with
  | nil => simp
  | append_singleton past mark ih =>
      obtain ⟨same, refused, marked, told, all⟩ := ih
      have stepped := step_stepped (run origin (before ++ past)) mark
      rw [← run_concat, List.append_assoc] at stepped
      generalize run origin (before ++ (past ++ [mark])) = last at stepped
      cases stepped with
      | published moment pending => simp [same, ended] at pending
      | failed reason pending => simp [same, ended] at pending
      | refused mark reason _ =>
          refine ⟨same, refused ++ [⟨mark, some (.invalidState reason)⟩], ?_, ?_, ?_⟩
          · rw [marked, List.append_assoc]
          · rw [List.map_append, told]
            rfl
          · intro other member
            rcases List.mem_append.mp member with earlier | now
            · exact all other earlier
            · rw [List.mem_singleton.mp now]
              exact ⟨reason, rfl⟩

/-- A pending message takes every mark. -/
theorem marked_step_of_pending {course : Course} (pending : course.message.isPending = true)
    (mark : Mark) : (course.step mark).marked = course.marked ++ [⟨mark, none⟩] := by
  have stepped := course.step_stepped mark
  generalize course.step mark = after at stepped
  cases stepped with
  | published moment _ => rfl
  | failed reason _ => rfl
  | refused mark reason ended =>
      rw [pending] at ended
      cases ended

/-- Whatever a new message is told, its numbers and texts are those of the marks that it has taken,
and it takes marks exactly as long as it is pending. -/
theorem marks_are_accounted (id : Uuid) (now : Instant) (topic : String)
    (submission : Submission) (maxRetries : Int32) (marks : List Mark) :
    let origin := Message.ofSubmission id now topic submission maxRetries
    Lawful origin (run origin marks) ∧
    ((run origin marks).message.processedAt.isSome = true ↔
      (run origin marks).message.status = .processed) ∧
    (∀ before mark after, marks = before ++ mark :: after →
      (run origin before).message.isPending = true →
      (run origin (before ++ [mark])).marked = (run origin before).marked ++ [⟨mark, none⟩]) ∧
    ∀ before after, marks = before ++ after → (run origin before).message.isPending = false →
      (run origin marks).message = (run origin before).message ∧
      ∃ refused, (run origin marks).marked = (run origin before).marked ++ refused ∧
        refused.map Marked.mark = after ∧
        ∀ marked ∈ refused, ∃ reason, marked.refusal = some (.invalidState reason) := by
  intro origin
  have lawful := lawful_run id now topic submission maxRetries marks
  refine ⟨lawful, lawful.processedAt_isSome_iff, ?_, ?_⟩
  · rintro before mark after - pending
    rw [run_concat]
    exact marked_step_of_pending pending mark
  · rintro before after rfl ended
    exact run_ended origin before after ended

/-- A message with a negative limit. -/
def hopeless : Message :=
  .ofSubmission default .epoch "fruit.events"
    { aggregateId := 1, aggregateType := "fruit", payload := [0x7B, 0x7D] } (-5)

/-- A failed attempt, and what comes too late. -/
def lateMarks : List Mark :=
  [.failed "down", .published .epoch, .failed "late"]

theorem hopeless_fails_once :
    (run hopeless [.failed "down"]).message.isPending = false ∧
    (run hopeless lateMarks).message = (run hopeless [.failed "down"]).message ∧
    (run hopeless lateMarks).message.status = .failed ∧
    (run hopeless lateMarks).message.retryCount = 1 ∧
    (run hopeless lateMarks).message.lastError = "down" := by
  have ended : (run hopeless [.failed "down"]).message.isPending = false := by rfl
  obtain ⟨lawful, _, _, refused⟩ := marks_are_accounted default .epoch "fruit.events"
    { aggregateId := 1, aggregateType := "fruit", payload := [0x7B, 0x7D] } (-5) lateMarks
  obtain ⟨same, _⟩ := refused [.failed "down"] [.published .epoch, .failed "late"] rfl ended
  refine ⟨ended, same, lawful.failed_iff.mpr (by rfl), by rfl, ?_⟩
  exact lawful.lastError.trans (by rfl)

end Course

end Outbox
