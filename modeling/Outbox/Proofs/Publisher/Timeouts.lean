import Outbox.Proofs.Publisher.Batches

/-!
# Iterations that take their time

`Timed.finish` drives an iteration to its end while nobody else works on the store, on a bus whose
responses take their time or never come.  Without a limit an iteration waits for every response, for
one that never comes forever.  With a limit it always ends, and has sent each row of its batch: it
goes on after a response that comes too late as after an error of the bus that comes at once.

So two iterations go abreast: one with a limit on a slow bus, and one without a limit on the bus
that gives the same results at once, and that error in the place of a late one.  Only the moments
that they write into the rows may be different.
-/

set_option autoImplicit false

namespace Outbox

open Time (Instant Span)

/-! ## Rows without their moments -/

@[simp] theorem Message.id_timeless (row : Message) : row.timeless.id = row.id := rfl

theorem Message.isPending_of_timeless {row other : Message}
    (alike : row.timeless = other.timeless) : row.isPending = other.isPending := by
  have same : row.timeless.isPending = other.timeless.isPending := by rw [alike]
  exact same

theorem find?_id_timeless (rows : List Message) (id : Uuid) :
    ((rows.map Message.timeless).find? fun row => row.id = id) =
      (rows.find? fun row => row.id = id).map Message.timeless := by
  rw [List.find?_map]
  rfl

namespace Transaction

/-- A transaction whose rows are without the moments at which they were processed. -/
def timeless (tx : Transaction) : Transaction :=
  { tx with
    inserts := tx.inserts.map Message.timeless
    updates := tx.updates.map Message.timeless }

theorem insert?_timeless (tx : Transaction) (id : Uuid) :
    tx.timeless.insert? id = (tx.insert? id).map Message.timeless :=
  find?_id_timeless tx.inserts id

theorem update?_timeless (tx : Transaction) (id : Uuid) :
    tx.timeless.update? id = (tx.update? id).map Message.timeless :=
  find?_id_timeless tx.updates id

theorem map_timeless_replace (message : Message) (rows : List Message) :
    (replace message rows).map Message.timeless =
      replace message.timeless (rows.map Message.timeless) := by
  induction rows with
  | nil => rfl
  | cons row rest ih =>
      rw [replace, List.map_cons, replace, Message.id_timeless, Message.id_timeless]
      by_cases same : row.id = message.id
      · rw [if_pos same, if_pos same, List.map_cons]
      · rw [if_neg same, if_neg same, List.map_cons, ih]

theorem map_timeless_foldl_replace (updates rows : List Message) :
    (updates.foldl (fun rows update => replace update rows) rows).map Message.timeless =
      (updates.map Message.timeless).foldl (fun rows update => replace update rows)
        (rows.map Message.timeless) := by
  induction updates generalizing rows with
  | nil => rfl
  | cons update rest ih =>
      rw [List.foldl_cons, ih, map_timeless_replace, List.map_cons, List.foldl_cons]

theorem timeless_stage (tx : Transaction) (message : Message) :
    (tx.stage message).timeless = tx.timeless.stage message.timeless := by
  have own : (tx.timeless.insert? message.timeless.id).isSome =
      (tx.insert? message.id).isSome := by
    rw [insert?_timeless, Message.id_timeless, Option.isSome_map]
  have updated : (tx.timeless.update? message.timeless.id).isSome =
      (tx.update? message.id).isSome := by
    rw [update?_timeless, Message.id_timeless, Option.isSome_map]
  unfold stage
  rw [own, updated]
  by_cases inserted : (tx.insert? message.id).isSome = true
  · rw [if_pos inserted, if_pos inserted]
    simp [timeless, map_timeless_replace]
  · rw [if_neg inserted, if_neg inserted]
    by_cases staged : (tx.update? message.id).isSome = true
    · rw [if_pos staged, if_pos staged]
      simp [timeless, map_timeless_replace]
    · rw [if_neg staged, if_neg staged]
      simp [timeless]

end Transaction

/-- Two saves make the same of a row, up to the moment. -/
def Save.Alike (save other : Save) : Prop :=
  ∀ row again message, row.timeless = again.timeless →
    (save.revise row message).timeless = (other.revise again message).timeless

theorem Save.alike_processed (moment later : Instant) :
    (Save.processed moment).Alike (.processed later) :=
  fun _ _ _ alike => congrArg (fun row : Message => { row with status := .processed }) alike

theorem Save.alike_failed : Save.failed.Alike .failed :=
  fun _ _ _ _ => rfl

namespace Store

/-- A store whose rows are without the moments at which they were processed. -/
def timeless (store : Store) : Store :=
  { store with rows := store.rows.map Message.timeless }

theorem current?_timeless (store : Store) (tx : Transaction) (id : Uuid) :
    store.timeless.current? tx.timeless id = (store.current? tx id).map Message.timeless := by
  have committed : store.timeless.find? id = (store.find? id).map Message.timeless :=
    find?_id_timeless store.rows id
  unfold current?
  rw [tx.insert?_timeless, tx.update?_timeless, committed]
  cases tx.insert? id with
  | some message => rfl
  | none => cases tx.update? id <;> rfl

section Alike
variable {store : Store} {save other : Save} {tx again : Transaction}

theorem timeless_settle (saves : save.Alike other) (alike : tx.timeless = again.timeless)
    (message : Message) :
    (store.settle save tx message).timeless = (store.settle other again message).timeless := by
  have seen : (store.current? tx message.id).map Message.timeless =
      (store.current? again message.id).map Message.timeless := by
    rw [← current?_timeless, alike, current?_timeless]
  unfold settle
  cases first : store.current? tx message.id with
  | none =>
      cases second : store.current? again message.id with
      | none => exact alike
      | some later =>
          rw [first, second] at seen
          cases seen
  | some row =>
      cases second : store.current? again message.id with
      | none =>
          rw [first, second] at seen
          cases seen
      | some later =>
          rw [first, second, Option.map_some, Option.map_some, Option.some.injEq] at seen
          simp only [Message.isPending_of_timeless seen]
          by_cases pending : later.isPending = true
          · rw [if_pos pending, if_pos pending, Transaction.timeless_stage,
              Transaction.timeless_stage, alike, saves row later message seen]
          · rw [if_neg pending, if_neg pending, alike]

theorem timeless_settleAll (saves : save.Alike other) (alike : tx.timeless = again.timeless)
    (messages : List Message) :
    (store.settleAll save tx messages).timeless =
      (store.settleAll other again messages).timeless := by
  unfold settleAll
  induction messages generalizing tx again with
  | nil => exact alike
  | cons message rest ih =>
      rw [List.foldl_cons, List.foldl_cons]
      exact ih (timeless_settle saves alike message)

theorem timeless_installed (store : Store) (tx : Transaction) :
    (store.installed tx).timeless = store.timeless.installed tx.timeless := by
  simp only [installed, timeless, release, Transaction.timeless,
    Transaction.map_timeless_foldl_replace, List.map_append]
  rfl

end Alike

/-- A transaction that has just begun claims no more rows than there are. -/
theorem length_batch_le (store : Store) (limit : Nat) :
    (store.begin.2.batch store.begin.1 limit).length ≤ store.size := by
  rw [batch_of_unchanged rfl rfl]
  exact (List.length_take_le' _ _).trans (List.length_filter_le _ _)

end Store

namespace Publisher

/-! ## Responses in time and too late -/

namespace Response

/-- The bus gives its result at once if it would come before the limit, and else the error of a
publication that has taken too long. -/
def hurried (limit : Span) : Response → Response
  | .never => .immediate (.error (timedOut limit))
  | .after delay result =>
    if delay * 1000000 < limit.nanoseconds then .immediate result
    else .immediate (.error (timedOut limit))

/-- The response does not come together with the end of the limit. -/
def Apart (limit : Span) (response : Response) : Prop :=
  ∀ delay result, response = .after delay result → delay * 1000000 ≠ limit.nanoseconds

/-- Under a limit of full milliseconds a response has the result that a hurried one has. -/
theorem Apart.within {limit : Span} {response : Response} (apart : response.Apart limit)
    (whole : 1000000 ∣ limit.nanoseconds) : ∃ delay result,
      response.within (some limit) = some (delay, result) ∧
      (response.hurried limit).within none = some (0, result) := by
  obtain ⟨milliseconds, same⟩ := whole
  have rounded : limit.ceilMilliseconds = milliseconds := by
    rw [Span.ceilMilliseconds, same]
    omega
  cases response with
  | never => exact ⟨_, _, rfl, rfl⟩
  | after delay result =>
      have other := apart delay result rfl
      rw [Response.within, hurried, rounded, same]
      rw [same] at other
      by_cases early : delay < milliseconds
      · rw [if_pos (Nat.le_of_lt early), if_pos (by omega)]
        exact ⟨_, _, rfl, rfl⟩
      · rw [if_neg (by omega), if_neg (by omega)]
        exact ⟨_, _, rfl, rfl⟩

end Response

/-! ## Driving an iteration through time -/

/-- The result of an iteration that has ended. -/
def Iteration.result? : Iteration → Option (Except Error Report)
  | .ended result => some result
  | _ => none

theorem Iteration.result?_of_publish {iteration : Iteration} {batchSize : Nat} {topic : String}
    {event : Bytes} (publishes : iteration.action batchSize = .publish topic event) :
    iteration.result? = none := by
  cases iteration with
  | publishing => rfl
  | _ => cases publishes

/-- The surroundings of an iteration that nobody disturbs and that takes its time. -/
structure Pace (Bus : Type) where
  batchSize : Nat
  limit : Option Span
  respond : Bus → String → Bytes → Response × Bus
  /-- What the clock shows so many milliseconds after the beginning. -/
  clock : Nat → Instant

/-- The states that a bus can come to by publications. -/
inductive Pace.Reaches {Bus : Type} (pace : Pace Bus) (start : Bus) : Bus → Prop where
  | start : pace.Reaches start start
  | sent {bus : Bus} (reached : pace.Reaches start bus) (topic : String) (event : Bytes) :
      pace.Reaches start (pace.respond bus topic event).2

/-- An iteration between two calls to its surroundings, so many milliseconds after the beginning. -/
structure Timed (Bus : Type) where
  iteration : Iteration
  store : Store
  bus : Bus
  moment : Nat := 0
  /-- What was sent to the bus, in this order. -/
  sent : List (String × Bytes) := []

namespace Timed

variable {Bus : Type}

def afterCall (timed : Timed Bus) (pace : Pace Bus) : Timed Bus :=
  let (next, store) :=
    timed.iteration.perform pace.batchSize (pace.clock timed.moment) none timed.store
  { timed with iteration := next, store }

def afterSending (timed : Timed Bus) (pace : Pace Bus) (topic : String) (event : Bytes) :
    Timed Bus :=
  { timed with
    bus := (pace.respond timed.bus topic event).2
    sent := timed.sent ++ [(topic, event)] }

def afterAnswer (timed : Timed Bus) (delay : Nat) (result : Except Error Unit) : Timed Bus :=
  { timed with
    iteration := (timed.iteration.answer result).1
    moment := timed.moment + delay }

/-- Goes on to the end of the iteration, or to a publication that never ends. -/
def finish (pace : Pace Bus) (timed : Timed Bus) : Timed Bus :=
  match _ : timed.iteration.action pace.batchSize with
  | .stop _ => timed
  | .call _ => finish pace (timed.afterCall pace)
  | .publish topic event =>
    match (pace.respond timed.bus topic event).1.within pace.limit with
    | none => timed.afterSending pace topic event
    | some (delay, result) =>
      finish pace ((timed.afterSending pace topic event).afterAnswer delay result)
termination_by timed.iteration.rank
decreasing_by
  · exact Iteration.perform_nearer ‹_› (pace.clock timed.moment) none timed.store
  · exact Iteration.answer_nearer ‹_› result

variable {pace : Pace Bus} {timed : Timed Bus}

theorem finish_stop {result : Except Error Report}
    (stops : timed.iteration.action pace.batchSize = .stop result) : timed.finish pace = timed := by
  rw [finish]
  split <;> simp_all

theorem finish_call {call : Call} (calls : timed.iteration.action pace.batchSize = .call call) :
    timed.finish pace = (timed.afterCall pace).finish pace := by
  rw [finish]
  split <;> simp_all

theorem finish_wait {topic : String} {event : Bytes}
    (publishes : timed.iteration.action pace.batchSize = .publish topic event)
    (waits : (pace.respond timed.bus topic event).1.within pace.limit = none) :
    timed.finish pace = timed.afterSending pace topic event := by
  rw [finish]
  split <;> simp_all

theorem finish_publish {topic : String} {event : Bytes}
    (publishes : timed.iteration.action pace.batchSize = .publish topic event) {delay : Nat}
    {result : Except Error Unit}
    (responds : (pace.respond timed.bus topic event).1.within pace.limit = some (delay, result)) :
    timed.finish pace =
      ((timed.afterSending pace topic event).afterAnswer delay result).finish pace := by
  rw [finish]
  split <;> simp_all

end Timed

def Pace.run {Bus : Type} (pace : Pace Bus) (store : Store) (bus : Bus) : Timed Bus :=
  Timed.finish pace { iteration := .starting, store, bus }

/-! ## An iteration that gets all its responses -/

/-- How far an iteration has come, and what it has sent: the rows of its batch that are not among
those that it still has to try. -/
inductive Phase (origin : Store) (batchSize : Nat) :
    Iteration → Store → List (String × Bytes) → Prop where
  | starting : Phase origin batchSize .starting origin []
  | fetching : Phase origin batchSize (.fetching origin.begin.1) origin.begin.2 []
  | working {iteration : Iteration} {store : Store} {sent : List (String × Bytes)}
      (fetched : iteration.hasFetched = true) (unbroken : iteration.error? = none)
      (owned : ∀ tx, iteration.transaction? = some tx → store.owns tx = true)
      (pending : ∀ message ∈ iteration.untried, message.isPending = true)
      (rows : iteration.untried ≠ [] → store.rows = origin.rows)
      (split : sent ++ iteration.untried.map Message.letter =
        (origin.begin.2.batch origin.begin.1 batchSize).map Message.letter) :
      Phase origin batchSize iteration store sent

section Phases
variable {origin store : Store} {batchSize : Nat} {iteration : Iteration}
variable {sent : List (String × Bytes)}

theorem Phase.owned (phase : Phase origin batchSize iteration store sent) {tx : Transaction}
    (opened : iteration.transaction? = some tx) : store.owns tx = true := by
  cases phase with
  | starting => cases opened
  | fetching =>
      cases opened
      exact (Transaction.lawful_begin origin).owned
  | working _ _ owned => exact owned tx opened

theorem Phase.rows (phase : Phase origin batchSize iteration store sent) {topic : String}
    {event : Bytes} (publishes : iteration.action batchSize = .publish topic event) :
    store.rows = origin.rows := by
  cases phase with
  | starting => rfl
  | fetching => rfl
  | working _ _ _ _ rows =>
      apply rows
      cases iteration with
      | publishing => exact List.cons_ne_nil _ _
      | _ => cases publishes

/-- No more is sent than there are rows in the batch. -/
theorem Phase.length_sent (phase : Phase origin batchSize iteration store sent) :
    sent.length ≤ (origin.begin.2.batch origin.begin.1 batchSize).length := by
  cases phase with
  | starting => exact Nat.zero_le _
  | fetching => exact Nat.zero_le _
  | working _ _ _ _ _ split =>
      have lengths := congrArg List.length split
      simp only [List.length_append, List.length_map] at lengths
      omega

theorem Phase.called (phase : Phase origin batchSize iteration store sent) {call : Call}
    (calls : iteration.action batchSize = .call call) (now : Instant) :
    Phase origin batchSize (iteration.perform batchSize now none store).1
      (iteration.perform batchSize now none store).2 sent := by
  have called := Iteration.perform_called (fun tx => phase.owned) batchSize now none
  generalize (iteration.perform batchSize now none store).1 = next at called ⊢
  generalize (iteration.perform batchSize now none store).2 = later at called ⊢
  cases called with
  | begun =>
      cases phase with
      | starting => exact .fetching
      | working fetched => cases fetched
  | fetched tx =>
      cases phase with
      | working fetched => cases fetched
      | fetching =>
          refine .working (Iteration.hasFetched_publishNext _ _ _)
            (Iteration.error?_publishNext _ _ _) ?_ ?_ (fun _ => rfl) ?_
          · intro tx opened
            rw [Iteration.transaction?_publishNext, Option.some.injEq] at opened
            subst opened
            exact (Transaction.lawful_begin origin).owned
          · intro message member
            rw [Iteration.untried_publishNext] at member
            exact (Store.mem_batch member).1
          · rw [Iteration.untried_publishNext]
            rfl
  | savedProcessed tx attempts =>
      cases phase with
      | working fetched unbroken owned pending rows split =>
          refine .working (Iteration.hasFetched_afterProcessed _ _)
            (Iteration.error?_afterProcessed _ _) ?_ (by simp) (by simp) ?_
          · intro later opened
            rw [Iteration.transaction?_afterProcessed, Option.some.injEq] at opened
            subst opened
            simpa [Store.owns] using owned tx rfl
          · rw [Iteration.untried_afterProcessed]
            exact split
  | savedFailed tx attempts =>
      cases phase with
      | working fetched unbroken owned pending rows split =>
          refine .working rfl rfl ?_ pending (by simp [Iteration.untried]) split
          intro later opened
          cases opened
          simpa [Store.owns] using owned tx rfl
  | committed tx report =>
      cases phase with
      | working fetched unbroken owned pending rows split =>
          exact .working rfl rfl (by simp [Iteration.transaction?]) pending
            (by simp [Iteration.untried]) split
  | undone injected tx error =>
      cases phase with
      | working fetched unbroken => cases unbroken
  | idle injected iteration uncalled => exact absurd calls (uncalled call)

theorem Phase.answered (phase : Phase origin batchSize iteration store sent) {topic : String}
    {event : Bytes} (publishes : iteration.action batchSize = .publish topic event)
    (result : Except Error Unit) :
    Phase origin batchSize (iteration.answer result).1 store (sent ++ [(topic, event)]) := by
  cases iteration with
  | publishing tx attempts message waiting =>
      cases phase with
      | working fetched unbroken owned pending rows split =>
          have answered : Iteration.Answered _ (.publishing tx attempts message waiting) _ :=
            Iteration.answer_answered (pending message List.mem_cons_self) result
          obtain ⟨rfl, rfl⟩ := Action.publish.inj publishes
          refine .working answered.hasFetched answered.error? ?_ ?_
            (fun _ => rows (List.cons_ne_nil _ _)) ?_
          · intro later opened
            rw [answered.transaction?] at opened
            exact owned later opened
          · intro other member
            rw [answered.untried] at member
            exact pending other (List.mem_of_mem_tail member)
          · rw [answered.untried, List.append_assoc]
            exact split
  | _ => cases publishes

theorem Phase.complete {result : Except Error Report}
    (phase : Phase origin batchSize (.ended result) store sent) :
    (∃ report, result = .ok report) ∧
      sent = (origin.begin.2.batch origin.begin.1 batchSize).map Message.letter := by
  cases phase with
  | working fetched unbroken owned pending rows split =>
      cases result with
      | ok report => exact ⟨⟨report, rfl⟩, by simpa [Iteration.untried] using split⟩
      | error error => cases unbroken

end Phases

/-- An iteration ends if every response comes, and has sent every row of its batch. -/
theorem Timed.finish_complete {Bus : Type} {pace : Pace Bus} {origin : Store} {start : Bus}
    {timed : Timed Bus} (answered : ∀ bus, pace.Reaches start bus → ∀ topic event,
      ∃ delay result, (pace.respond bus topic event).1.within pace.limit = some (delay, result))
    (reached : pace.Reaches start timed.bus)
    (phase : Phase origin pace.batchSize timed.iteration timed.store timed.sent) :
    (∃ report, (timed.finish pace).iteration = .ended (.ok report)) ∧
      (timed.finish pace).sent =
        (origin.begin.2.batch origin.begin.1 pace.batchSize).map Message.letter := by
  fun_induction Timed.finish pace timed with
  | case1 timed result stops =>
      rw [Iteration.ended_of_stop stops] at phase ⊢
      obtain ⟨⟨report, rfl⟩, all⟩ := phase.complete
      exact ⟨⟨report, rfl⟩, all⟩
  | case2 timed call calls ih => exact ih reached (phase.called calls _)
  | case3 timed topic event publishes waits =>
      obtain ⟨delay, result, responds⟩ := answered timed.bus reached topic event
      rw [waits] at responds
      cases responds
  | case4 timed topic event publishes delay result responds ih =>
      exact ih (reached.sent topic event) (phase.answered publishes result)

/-! ## Two iterations abreast -/

/-- Two iterations stand at the same call, and they and their stores are alike up to the moments. -/
inductive Alike : Iteration → Store → Iteration → Store → Prop where
  | same (iteration : Iteration) (store : Store) : Alike iteration store iteration store
  | savingFailed (store : Store) {tx again : Transaction} (alike : tx.timeless = again.timeless)
      (attempts : Attempts) :
      Alike (.savingFailed tx attempts) store (.savingFailed again attempts) store
  | committing (store : Store) {tx again : Transaction} (alike : tx.timeless = again.timeless)
      (report : Report) : Alike (.committing tx report) store (.committing again report) store
  | ended {store later : Store} (alike : store.timeless = later.timeless)
      (result : Except Error Report) : Alike (.ended result) store (.ended result) later

section Alike
variable {iteration other : Iteration} {store later : Store} {batchSize : Nat}

theorem Alike.action (alike : Alike iteration store other later) :
    other.action batchSize = iteration.action batchSize := by
  cases alike <;> rfl

theorem alike_afterProcessed (store : Store) {tx again : Transaction}
    (alike : tx.timeless = again.timeless) (attempts : Attempts) :
    Alike (Iteration.afterProcessed tx attempts) store
      (Iteration.afterProcessed again attempts) store := by
  unfold Iteration.afterProcessed
  split
  · exact .savingFailed store alike attempts
  · exact .committing store alike attempts.report

/-- A call keeps two iterations alike, whatever their clocks show. -/
theorem Alike.called (alike : Alike iteration store other later)
    (owned : ∀ tx, iteration.transaction? = some tx → store.owns tx = true) {call : Call}
    (calls : iteration.action batchSize = .call call) (now otherNow : Instant) :
    Alike (iteration.perform batchSize now none store).1
      (iteration.perform batchSize now none store).2
      (other.perform batchSize otherNow none later).1
      (other.perform batchSize otherNow none later).2 := by
  have owned_again {tx again : Transaction} (alike : tx.timeless = again.timeless)
      (own : store.owns tx = true) : store.owns again = true := by
    have home : tx.timeless.home = again.timeless.home := by rw [alike]
    change tx.home = again.home at home
    rwa [Store.owns, ← home]
  cases alike with
  | same =>
      cases iteration with
      | savingProcessed tx attempts =>
          simp only [Iteration.perform, Store.saveProcessed_eq (owned tx rfl)]
          exact alike_afterProcessed store
            (Store.timeless_settleAll (Save.alike_processed now otherNow) rfl _) attempts
      | _ => exact .same _ _
  | @savingFailed _ tx again alike attempts =>
      have own := owned tx rfl
      simp only [Iteration.perform, Store.saveFailed_eq own,
        Store.saveFailed_eq (owned_again alike own)]
      exact .committing store (Store.timeless_settleAll Save.alike_failed alike _) _
  | @committing _ tx again alike report =>
      have own := owned tx rfl
      simp only [Iteration.perform, Store.commit_eq own, Store.commit_eq (owned_again alike own)]
      refine .ended ?_ _
      rw [Store.timeless_installed, Store.timeless_installed, alike]
  | ended => cases calls

/-- An answer finds two iterations alike that are the same. -/
theorem Alike.answered (alike : Alike iteration store other later) {topic : String}
    {event : Bytes} (publishes : iteration.action batchSize = .publish topic event)
    (result : Except Error Unit) :
    Alike (iteration.answer result).1 store (other.answer result).1 later := by
  cases alike with
  | same => exact .same _ _
  | _ => cases publishes

theorem Alike.of_ended {result : Except Error Report}
    (alike : Alike (.ended result) store other later) :
    other = .ended result ∧ store.timeless = later.timeless := by
  cases alike with
  | same => exact ⟨rfl, rfl⟩
  | ended alike => exact ⟨rfl, alike⟩

end Alike

/-- From a state on two buses give the same results, each within the time that its iteration
grants. -/
structure Pace.Agrees {Bus : Type} (pace other : Pace Bus) (start : Bus) : Prop where
  batchSize : other.batchSize = pace.batchSize
  results : ∀ bus, pace.Reaches start bus → ∀ topic event, ∃ delay otherDelay result,
    (pace.respond bus topic event).1.within pace.limit = some (delay, result) ∧
    (other.respond bus topic event).1.within other.limit = some (otherDelay, result)
  next : ∀ bus topic event, (other.respond bus topic event).2 = (pace.respond bus topic event).2

/-- Two iterations have done the same so far, up to the moments. -/
structure Abreast {Bus : Type} (timed other : Timed Bus) : Prop where
  work : Alike timed.iteration timed.store other.iteration other.store
  bus : other.bus = timed.bus
  sent : other.sent = timed.sent

theorem Abreast.finish {Bus : Type} {pace otherPace : Pace Bus} {start : Bus}
    (agrees : pace.Agrees otherPace start) {origin : Store} {timed other : Timed Bus}
    (reached : pace.Reaches start timed.bus)
    (phase : Phase origin pace.batchSize timed.iteration timed.store timed.sent)
    (abreast : Abreast timed other) : Abreast (timed.finish pace) (other.finish otherPace) := by
  have action {timed other : Timed Bus} (abreast : Abreast timed other) :
      other.iteration.action otherPace.batchSize = timed.iteration.action pace.batchSize := by
    rw [agrees.batchSize]
    exact abreast.work.action
  fun_induction Timed.finish pace timed generalizing other with
  | case1 timed result stops =>
      rw [Timed.finish_stop ((action abreast).trans stops)]
      exact abreast
  | case2 timed call calls ih =>
      rw [Timed.finish_call ((action abreast).trans calls)]
      refine ih reached (phase.called calls _) ⟨?_, abreast.bus, abreast.sent⟩
      simp only [Timed.afterCall, agrees.batchSize]
      exact abreast.work.called (fun tx => phase.owned) calls _ _
  | case3 timed topic event publishes waits =>
      obtain ⟨delay, _, result, responds, _⟩ := agrees.results timed.bus reached topic event
      rw [waits] at responds
      cases responds
  | case4 timed topic event publishes delay result responds ih =>
      obtain ⟨_, otherDelay, same, first, second⟩ :=
        agrees.results timed.bus reached topic event
      rw [responds, Option.some.injEq, Prod.mk.injEq] at first
      obtain ⟨_, rfl⟩ := first
      rw [← abreast.bus] at second
      rw [Timed.finish_publish ((action abreast).trans publishes) second]
      refine ih (reached.sent topic event) (phase.answered publishes result)
        ⟨abreast.work.answered publishes result, ?_, ?_⟩
      · simp only [Timed.afterAnswer, Timed.afterSending, abreast.bus]
        exact agrees.next _ _ _
      · simp only [Timed.afterAnswer, Timed.afterSending, abreast.sent]

/-- What comes of an iteration with a limit on a slow bus, beside one without a limit on the bus
that has hurried. -/
structure Contained {Bus : Type} (store : Store) (batchSize : Nat) (slow prompt : Timed Bus) :
    Prop where
  /-- Both end, and report the same. -/
  reported : ∃ report, slow.iteration = .ended (.ok report) ∧ prompt.iteration = .ended (.ok report)
  /-- They leave the same behind, up to the moments at which rows were processed. -/
  left : slow.store.timeless = prompt.store.timeless
  /-- Every row of the batch was sent, in the order of the rows. -/
  sent : slow.sent = (store.begin.2.batch store.begin.1 batchSize).map Message.letter
  same_sent : slow.sent = prompt.sent

/-- The surroundings without a limit, on the bus that has hurried, by another clock. -/
def Pace.hurried {Bus : Type} (pace : Pace Bus) (limit : Span) (clock : Nat → Instant) :
    Pace Bus where
  batchSize := pace.batchSize
  limit := none
  respond := fun bus topic event =>
    let (response, next) := pace.respond bus topic event
    (response.hurried limit, next)
  clock := clock

/-- Under a limit of full milliseconds an iteration does what it would do without one if the bus
hurried, provided that no response comes together with the end of the limit. -/
theorem contained {Bus : Type} {pace : Pace Bus} {limit : Span} (limited : pace.limit = some limit)
    (whole : 1000000 ∣ limit.nanoseconds) {bus : Bus} (apart : ∀ later, pace.Reaches bus later →
      ∀ topic event, (pace.respond later topic event).1.Apart limit)
    (clock : Nat → Instant) (store : Store) :
    Contained store pace.batchSize (pace.run store bus)
      ((pace.hurried limit clock).run store bus) := by
  have agrees : pace.Agrees (pace.hurried limit clock) bus := by
    refine ⟨rfl, ?_, fun _ _ _ => rfl⟩
    intro later reached topic event
    obtain ⟨delay, result, within, at_once⟩ := (apart later reached topic event).within whole
    exact ⟨delay, 0, result, limited ▸ within, at_once⟩
  have phase : Phase store pace.batchSize .starting store [] := .starting
  obtain ⟨⟨report, ended⟩, sent⟩ :
      (∃ report, (pace.run store bus).iteration = .ended (.ok report)) ∧
      (pace.run store bus).sent =
        (store.begin.2.batch store.begin.1 pace.batchSize).map Message.letter := by
    apply Timed.finish_complete _ (.start : pace.Reaches bus bus) phase
    intro later reached topic event
    obtain ⟨delay, _, result, within, _⟩ := agrees.results later reached topic event
    exact ⟨delay, result, within⟩
  have abreast : Abreast (pace.run store bus) ((pace.hurried limit clock).run store bus) :=
    Abreast.finish agrees .start phase ⟨.same _ _, rfl, rfl⟩
  have work := abreast.work
  rw [ended] at work
  obtain ⟨prompt_ended, left⟩ := work.of_ended
  exact ⟨⟨report, ended, prompt_ended⟩, left, sent, abreast.sent.symm⟩

end Publisher

end Outbox
