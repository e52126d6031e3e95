import Outbox.Proofs.Publisher.Atomicity
import Outbox.Proofs.Publisher.Loop
import Outbox.Proofs.Publisher.Outcomes

/-!
# What one iteration does

One iteration of a fleet makes its exchanges while all the others go on, and nobody else commits
meanwhile.  No call of the iteration to the store fails; the bus answers as it likes.  The iteration
then comes to its end with a report.  It has called the bus once for each row of its batch, in the
order of the rows, and the rows are what the answers make of them; nothing else has changed.
-/

set_option autoImplicit false

namespace Outbox.Publisher

open Time (Instant)

/-! ## One iteration among others -/

/-- One of the others moves, or the iteration makes its next exchange. -/
inductive Turn where
  | other (move : Move)
  | own (clock : Instant) (result : Except Error Unit)

def Turn.isOwn : Turn → Bool
  | .other _ => false
  | .own _ _ => true

/-- A call of the bus, and what it returned. -/
structure Sending where
  topic : String
  event : Bytes
  result : Except Error Unit

def Trial.sending (trial : Trial) : Sending :=
  ⟨trial.message.topic, (Event.ofMessage trial.message).encode, trial.result⟩

/-- A fleet, and the calls of the bus that one iteration of it has made. -/
structure Scene where
  fleet : Fleet
  sendings : List Sending

namespace Scene
variable (run batchSize : Nat)

/-- What a turn is to the fleet: the iteration makes the call that it has come to. -/
def move (scene : Scene) : Turn → Move
  | .other move => move
  | .own clock result =>
    match (scene.fleet.iterations run).map (Iteration.action batchSize) with
    | some (.publish _ _) => .answer run result
    | _ => .call run batchSize clock none

def sending? (scene : Scene) : Turn → Option Sending
  | .other _ => none
  | .own _ result =>
    match (scene.fleet.iterations run).map (Iteration.action batchSize) with
    | some (.publish topic event) => some ⟨topic, event, result⟩
    | _ => none

def step (scene : Scene) (turn : Turn) : Scene where
  fleet := scene.fleet.step (scene.move run batchSize turn)
  sendings := scene.sendings ++ (scene.sending? run batchSize turn).toList

def play (origin : Fleet) (turns : List Turn) : Scene :=
  turns.foldl (step run batchSize) ⟨origin, []⟩

variable {run batchSize} {origin : Fleet}

theorem play_concat (origin : Fleet) (turns : List Turn) (turn : Turn) :
    play run batchSize origin (turns ++ [turn]) =
      (play run batchSize origin turns).step run batchSize turn := by
  simp [play]

theorem sound_play (run batchSize : Nat) (sound : origin.Sound) (turns : List Turn) :
    (play run batchSize origin turns).fleet.Sound := by
  induction turns using List.reverseRecOn with
  | nil => exact sound
  | append_singleton past turn ih =>
      rw [play_concat]
      exact Fleet.sound_step ih _

/-- Whatever every move preserves is still there after more turns. -/
theorem play_kept {property : Fleet → Prop}
    (kept : ∀ fleet move after, fleet.Sound → Fleet.Moved fleet move after → property fleet →
      property after)
    (sound : origin.Sound) (earlier later : List Turn)
    (holds : property (play run batchSize origin earlier).fleet) :
    property (play run batchSize origin (earlier ++ later)).fleet := by
  induction later using List.reverseRecOn with
  | nil => simpa using holds
  | append_singleton between turn ih =>
      have before := sound_play run batchSize sound (earlier ++ between)
      rw [← List.append_assoc, play_concat]
      exact kept _ _ _ before (Fleet.step_moved before _) ih

/-! ## What a turn does to the iteration -/

section Turns
variable {scene : Scene} {iteration : Iteration}

/-- What a turn does to the scene and to the iteration. -/
inductive Advanced (run batchSize : Nat) (scene : Scene) (iteration : Iteration) :
    Turn → Scene → Iteration → Prop where
  | other {move : Move} {after : Fleet} (foreign : move.run? ≠ some run)
      (moved : Fleet.Moved scene.fleet move after) :
      Advanced run batchSize scene iteration (.other move) ⟨after, scene.sendings⟩ iteration
  | called {clock : Instant} {result : Except Error Unit} {next : Iteration} {store : Store}
      (called : Iteration.Called batchSize clock scene.fleet.store none iteration next store) :
      Advanced run batchSize scene iteration (.own clock result)
        ⟨scene.fleet.afterCall run iteration next store, scene.sendings⟩ next
  | answered {clock : Instant} {result : Except Error Unit} {tx : Transaction}
      {attempts : Attempts} {message : Message} {waiting : List Message} {next : Iteration}
      (sends : iteration = .publishing tx attempts message waiting)
      (answered : Iteration.Answered result (.publishing tx attempts message waiting) next) :
      Advanced run batchSize scene iteration (.own clock result)
        ⟨scene.fleet.afterAnswer run ⟨message, result⟩ next,
          scene.sendings ++ [Trial.sending ⟨message, result⟩]⟩ next

theorem step_of_call (running : scene.fleet.iterations run = some iteration)
    (calls : ∀ topic event, iteration.action batchSize ≠ .publish topic event) (clock : Instant)
    (result : Except Error Unit) :
    scene.step run batchSize (.own clock result) =
      ⟨scene.fleet.afterCall run iteration
        (iteration.perform batchSize clock none scene.fleet.store).1
        (iteration.perform batchSize clock none scene.fleet.store).2, scene.sendings⟩ := by
  cases iteration with
  | publishing tx attempts message waiting => exact absurd rfl (calls _ _)
  | _ => simp [step, Scene.move, sending?, running, Iteration.action, Fleet.step]

theorem step_of_publication {tx : Transaction} {attempts : Attempts} {message : Message}
    {waiting : List Message}
    (running : scene.fleet.iterations run = some (.publishing tx attempts message waiting))
    (clock : Instant) (result : Except Error Unit) :
    scene.step run batchSize (.own clock result) =
      ⟨scene.fleet.afterAnswer run ⟨message, result⟩
        ((Iteration.publishing tx attempts message waiting).answer result).1,
        scene.sendings ++ [Trial.sending ⟨message, result⟩]⟩ := by
  simp [step, Scene.move, sending?, running, Iteration.action, Fleet.step, Trial.sending]

theorem step_advanced (batchSize : Nat) (sound : scene.fleet.Sound)
    (running : scene.fleet.iterations run = some iteration) {turn : Turn}
    (foreign : ∀ move, turn = .other move → move.run? ≠ some run) :
    ∃ next, Advanced run batchSize scene iteration turn (scene.step run batchSize turn) next := by
  cases turn with
  | other move =>
      have moved := Fleet.step_moved sound move
      have advanced : Advanced run batchSize scene iteration (.other move)
          ⟨scene.fleet.step move, scene.sendings⟩ iteration := .other (foreign move rfl) moved
      exact ⟨iteration, by simpa [step, Scene.move, sending?] using advanced⟩
  | own clock result =>
      by_cases sends : ∃ tx attempts message waiting,
          iteration = .publishing tx attempts message waiting
      · obtain ⟨tx, attempts, message, waiting, rfl⟩ := sends
        have pending := sound.pending run _ running message (List.mem_cons_self ..)
        rw [step_of_publication running]
        exact ⟨_, .answered rfl (Iteration.answer_answered pending result)⟩
      · have owned (tx : Transaction) (opened : iteration.transaction? = some tx) :
            scene.fleet.store.owns tx = true :=
          (sound.lawful run tx ((Fleet.transaction?_of_running running).trans opened)).1.owned
        rw [step_of_call running]
        · exact ⟨_, .called (Iteration.perform_called owned batchSize clock none)⟩
        · intro topic event publishes
          cases iteration with
          | publishing tx attempts message waiting => exact sends ⟨_, _, _, _, rfl⟩
          | _ => simp [Iteration.action] at publishes

/-- A turn of the iteration is its next exchange. -/
theorem iterations_step_own (running : scene.fleet.iterations run = some iteration)
    (clock : Instant) (result : Except Error Unit) :
    (scene.step run batchSize (.own clock result)).fleet.iterations run =
      some (iteration.exchange batchSize { clock, result } scene.fleet.store).1 := by
  cases iteration with
  | publishing tx attempts message waiting =>
      rw [step_of_publication running]
      simp [Iteration.exchange, Iteration.action, Fleet.afterAnswer]
  | ended report =>
      rw [step_of_call running (by simp [Iteration.action])]
      simp [Iteration.exchange, Iteration.action, Iteration.perform, Fleet.afterCall]
  | _ =>
      rw [step_of_call running (by simp [Iteration.action])]
      simp [Iteration.exchange, Iteration.action, Fleet.afterCall]

end Turns

/-! ## What the iteration claims -/

/-- The batch is what the iteration has fetched: the first pending rows that nobody else held. -/
def Fetched (origin : Fleet) (run batchSize : Nat) (turns : List Turn) (tx : Transaction)
    (batch : List Message) : Prop :=
  ∃ earlier clock result later, turns = earlier ++ .own clock result :: later ∧
    (play run batchSize origin earlier).fleet.iterations run = some (.fetching tx) ∧
    batch = (origin.store.rows.filter fun row =>
      !(play run batchSize origin earlier).fleet.store.isHeldByOther tx row.id &&
        row.isPending).take batchSize

theorem Fetched.later {turns : List Turn} {tx : Transaction} {batch : List Message}
    (fetched : Fetched origin run batchSize turns tx batch) (turn : Turn) :
    Fetched origin run batchSize (turns ++ [turn]) tx batch := by
  obtain ⟨earlier, clock, result, later, split, rest⟩ := fetched
  exact ⟨earlier, clock, result, later ++ [turn], by simp [split], rest⟩

theorem Fetched.part {turns : List Turn} {tx : Transaction} {batch : List Message}
    (fetched : Fetched origin run batchSize turns tx batch) :
    batch.Sublist origin.store.rows := by
  obtain ⟨_, _, _, _, _, _, rfl⟩ := fetched
  exact (List.take_sublist _ _).trans List.filter_sublist

theorem Fetched.claimed {turns : List Turn} {tx : Transaction} {batch : List Message}
    (fetched : Fetched origin run batchSize turns tx batch)
    (distinct : (origin.store.rows.map Message.id).Nodup) : Claimed origin.store batch := by
  obtain ⟨_, _, _, _, _, _, rfl⟩ := fetched
  exact claimed_of_free _ distinct batchSize

/-! ## What the iteration has done so far -/

/-- The rows while the iteration is under way, and after its commit. -/
inductive Left (origin : Store) (journal : Journal) : Iteration → List Message → Prop where
  | before {iteration : Iteration} (under_way : iteration.isEnded = false) :
      Left origin journal iteration origin.rows
  | after (report : Report) (moment : Instant)
      (tried : journal.batch = journal.trials.map Trial.message) :
      Left origin journal (.ended (.ok report)) (origin.rows.map (journal.settled moment))

section Left
variable {home : Store} {journal : Journal} {iteration next : Iteration} {rows : List Message}

theorem Left.ids (left : Left home journal iteration rows) :
    rows.map Message.id = home.rows.map Message.id := by
  cases left with
  | before under_way => rfl
  | after report moment tried =>
      rw [List.map_map]
      apply List.map_congr_left
      intro row _
      exact journal.id_settled moment row

theorem Left.unchanged (left : Left home journal iteration rows)
    (under_way : iteration.isEnded = false) : rows = home.rows := by
  cases left with
  | before => rfl
  | after => cases under_way

theorem isEnded_of_opened {tx : Transaction} (opened : iteration.transaction? = some tx) :
    iteration.isEnded = false := by
  cases iteration with
  | ended result => cases opened
  | _ => rfl

/-- Only its commit changes the rows, and it leaves the outcomes of all attempts. -/
theorem Left.called {batchSize : Nat} {now : Instant} {store later : Store}
    (left : Left home journal iteration store.rows)
    (called : Iteration.Called batchSize now store none iteration next later)
    (unbroken : iteration.error? = none) (progress : Progress journal iteration)
    (lawful : ∀ tx, iteration.transaction? = some tx → tx.Lawful store ∧ tx.inserts = [])
    (distinct : (home.rows.map Message.id).Nodup) :
    Left home (journal.called iteration next) next later.rows := by
  have kept (under_way : iteration.isEnded = false) (still : next.isEnded = false)
      (same : later.rows = store.rows) : Left home (journal.called iteration next) next
        later.rows := by
    rw [same, left.unchanged under_way]
    exact .before still
  cases called with
  | begun => exact kept rfl rfl rfl
  | fetched tx =>
      exact kept rfl (isEnded_of_opened (Iteration.transaction?_publishNext _ _ _)) rfl
  | savedProcessed tx attempts =>
      exact kept rfl (isEnded_of_opened (Iteration.transaction?_afterProcessed _ _)) rfl
  | savedFailed tx attempts => exact kept rfl rfl rfl
  | committed tx report =>
      obtain ⟨lawful, no_inserts⟩ := lawful tx rfl
      have unique : (store.rows.map Message.id).Nodup := left.ids ▸ distinct
      cases progress with
      | committing staged tried =>
          rw [staged.rows_installed lawful no_inserts unique, left.unchanged rfl]
          exact .after report _ tried
  | undone injected tx error => cases unbroken
  | idle injected iteration uncalled =>
      cases iteration with
      | fetching tx => exact absurd rfl (uncalled _)
      | _ => exact left

end Left

/-- What the iteration has done after some turns. -/
structure Underway (origin : Fleet) (run batchSize : Nat) (turns : List Turn) (scene : Scene)
    (iteration : Iteration) : Prop where
  running : scene.fleet.iterations run = some iteration
  unbroken : iteration.error? = none
  progress : Progress (scene.fleet.journals run) iteration
  left : Left origin.store (scene.fleet.journals run) iteration scene.fleet.store.rows
  fetched : iteration.hasFetched = true →
    ∃ tx, Fetched origin run batchSize turns tx (scene.fleet.batch run)
  report : ∀ report, iteration.report? = some report →
    report = (scene.fleet.journals run).attempts.report
  sendings : scene.sendings = (scene.fleet.trials run).map Trial.sending

section Steps
variable {turns : List Turn} {scene : Scene} {iteration next : Iteration}

theorem underway_start (starting : origin.iterations run = some .starting)
    (sound : origin.Sound) : Underway origin run batchSize [] ⟨origin, []⟩ .starting where
  running := starting
  unbroken := rfl
  progress := .starting
  left := .before rfl
  fetched := by
    intro fetched
    cases fetched
  report := by
    intro report reported
    cases reported
  sendings := by rw [(sound.unfetched run _ starting rfl).2, List.map_nil]

/-- What the iteration has claimed is in the rows of the store while it is under way. -/
theorem Underway.claimed (underway : Underway origin run batchSize turns scene iteration)
    (sound : scene.fleet.Sound) (distinct : (origin.store.rows.map Message.id).Nodup)
    (under_way : iteration.isEnded = false) :
    Claimed scene.fleet.store (scene.fleet.batch run) := by
  have rows := underway.left.unchanged under_way
  cases late : iteration.hasFetched with
  | false =>
      rw [(sound.unfetched run _ underway.running late).1]
      exact ⟨by simp, by simp, List.nodup_nil⟩
  | true =>
      obtain ⟨tx, fetched⟩ := underway.fetched late
      obtain ⟨committed, pending, ids⟩ := fetched.claimed distinct
      exact ⟨fun message member => rows ▸ committed message member, pending, ids⟩

theorem Underway.other {move : Move} {after : Fleet}
    (underway : Underway origin run batchSize turns scene iteration)
    (foreign : move.run? ≠ some run) (moved : Fleet.Moved scene.fleet move after)
    (rows : after.store.rows = scene.fleet.store.rows) :
    Underway origin run batchSize (turns ++ [.other move]) ⟨after, scene.sendings⟩ iteration := by
  obtain ⟨iterations, journals⟩ := moved.others foreign
  constructor
  · exact iterations.trans underway.running
  · exact underway.unbroken
  · rw [journals]
    exact underway.progress
  · rw [journals, rows]
    exact underway.left
  · intro late
    obtain ⟨tx, fetched⟩ := underway.fetched late
    rw [moved.batch_other foreign]
    exact ⟨tx, fetched.later _⟩
  · rw [journals]
    exact underway.report
  · rw [Fleet.trials, journals]
    exact underway.sendings

theorem Underway.fetched_called (underway : Underway origin run batchSize turns scene iteration)
    (played : scene = play run batchSize origin turns) (sound : scene.fleet.Sound)
    {clock : Instant} {result : Except Error Unit} {store : Store}
    (called : Iteration.Called batchSize clock scene.fleet.store none iteration next store)
    (late : next.hasFetched = true) :
    ∃ tx, Fetched origin run batchSize (turns ++ [.own clock result]) tx
      ((scene.fleet.journals run).called iteration next).batch := by
  -- Only its fetch claims anything, and then its transaction has neither inserts nor updates.
  cases called with
  | begun => cases late
  | fetched tx =>
      have opened := Fleet.transaction?_of_running underway.running
      have no_inserts := (sound.lawful run tx opened).2.1
      cases underway.progress with
      | fetching unchanged =>
          refine ⟨tx, turns, clock, result, [], rfl, played ▸ underway.running, ?_⟩
          simp only [Journal.called, Iteration.untried_publishNext]
          rw [Store.batch_of_unchanged no_inserts unchanged, underway.left.unchanged rfl, ← played]
  | idle injected iteration uncalled =>
      cases iteration with
      | fetching tx => cases late
      | _ =>
          obtain ⟨tx, fetched⟩ := underway.fetched late
          exact ⟨tx, fetched.later _⟩
  | _ =>
      obtain ⟨tx, fetched⟩ := underway.fetched rfl
      exact ⟨tx, fetched.later _⟩

theorem Underway.called (underway : Underway origin run batchSize turns scene iteration)
    (played : scene = play run batchSize origin turns) (sound : scene.fleet.Sound)
    (distinct : (origin.store.rows.map Message.id).Nodup) {clock : Instant}
    {result : Except Error Unit} {store : Store}
    (called : Iteration.Called batchSize clock scene.fleet.store none iteration next store) :
    Underway origin run batchSize (turns ++ [.own clock result])
      ⟨scene.fleet.afterCall run iteration next store, scene.sendings⟩ next := by
  have lawful (tx : Transaction) (opened : iteration.transaction? = some tx) :
      tx.Lawful scene.fleet.store ∧ tx.inserts = [] := by
    obtain ⟨lawful, no_inserts, _⟩ :=
      sound.lawful run tx ((Fleet.transaction?_of_running underway.running).trans opened)
    exact ⟨lawful, no_inserts⟩
  have nothing (early : iteration.hasFetched = false) : scene.fleet.journals run = {} := by
    obtain ⟨batch, trials⟩ := sound.unfetched run _ underway.running early
    rw [Fleet.batch] at batch
    rw [Fleet.trials] at trials
    cases same : scene.fleet.journals run
    simp_all
  have journal : (scene.fleet.afterCall run iteration next store).journals run =
      (scene.fleet.journals run).called iteration next := by
    simp [Fleet.afterCall]
  constructor
  · simp [Fleet.afterCall]
  · rw [Option.eq_none_iff_forall_ne_some]
    intro error broken
    rcases (called.error_iff error).mp broken with earlier | ⟨injected, _⟩
    · rw [underway.unbroken] at earlier
      cases earlier
    · cases injected
  · rw [journal]
    apply progress_called called (underway.left.ids ▸ distinct)
    · exact fun tx opened => (lawful tx opened).2
    · intro early
      rw [nothing early]
    · exact fun tx opened => underway.claimed sound distinct (isEnded_of_opened opened)
    · exact underway.progress
  · rw [journal]
    exact underway.left.called called underway.unbroken underway.progress lawful distinct
  · intro late
    rw [Fleet.batch, journal]
    exact underway.fetched_called played sound called late
  · intro report reported
    rw [journal]
    exact report_called called nothing underway.report reported
  · rw [Fleet.trials_afterCall]
    exact underway.sendings

theorem Underway.answered {tx : Transaction} {attempts : Attempts} {message : Message}
    {waiting : List Message}
    (underway : Underway origin run batchSize turns scene
      (.publishing tx attempts message waiting)) {clock : Instant} {result : Except Error Unit}
    (answered : Iteration.Answered result (.publishing tx attempts message waiting) next) :
    Underway origin run batchSize (turns ++ [.own clock result])
      ⟨scene.fleet.afterAnswer run ⟨message, result⟩ next,
        scene.sendings ++ [Trial.sending ⟨message, result⟩]⟩ next := by
  have journal : (scene.fleet.afterAnswer run ⟨message, result⟩ next).journals run =
      { scene.fleet.journals run with
        trials := scene.fleet.trials run ++ [⟨message, result⟩] } := by
    simp [Fleet.afterAnswer]
  have opened : next.transaction? = some tx := answered.transaction?
  constructor
  · simp [Fleet.afterAnswer]
  · exact answered.error?
  · rw [journal]
    exact progress_answered answered underway.progress
  · rw [journal]
    have rows := underway.left.unchanged rfl
    exact rows ▸ .before (isEnded_of_opened opened)
  · intro late
    obtain ⟨own, fetched⟩ := underway.fetched rfl
    rw [Fleet.batch_afterAnswer]
    exact ⟨own, fetched.later _⟩
  · intro report reported
    rw [journal]
    have told := report_answered answered underway.progress (underway.report _ rfl)
    exact Option.some.inj (reported.symm.trans told)
  · rw [Fleet.trials_afterAnswer_self, underway.sendings, List.map_append, List.map_singleton]

end Steps

/-! ## Whole runs -/

/-- The others leave the iteration alone, and none of them commits. -/
structure Unrivalled (origin : Fleet) (run batchSize : Nat) (turns : List Turn) : Prop where
  requests : ∀ number, .other (.request (.commit number)) ∉ turns
  foreign : ∀ move, .other move ∈ turns → move.run? ≠ some run
  alone : ∀ other, other ≠ run →
    other ∈ (play run batchSize origin turns).fleet.committed → other ∈ origin.committed

theorem committed_subset (sound : origin.Sound) (earlier later : List Turn) {other : Nat}
    (committed : other ∈ (play run batchSize origin earlier).fleet.committed) :
    other ∈ (play run batchSize origin (earlier ++ later)).fleet.committed := by
  have kept (fleet : Fleet) (move : Move) (after : Fleet) (_ : fleet.Sound)
      (moved : Fleet.Moved fleet move after) (committed : other ∈ fleet.committed) :
      other ∈ after.committed := moved.committed_subset committed
  exact play_kept kept sound earlier later committed

theorem Unrivalled.before {turns : List Turn} {turn : Turn} (sound : origin.Sound)
    (unrivalled : Unrivalled origin run batchSize (turns ++ [turn])) :
    Unrivalled origin run batchSize turns where
  requests := fun number member => unrivalled.requests number (List.mem_append_left _ member)
  foreign := fun move member => unrivalled.foreign move (List.mem_append_left _ member)
  alone := fun other different committed =>
    unrivalled.alone other different (committed_subset sound turns [turn] committed)

/-- Only commits change the rows. -/
theorem rows_of_uncommitted {fleet after : Fleet} {move : Move}
    (moved : Fleet.Moved fleet move after) (sound : fleet.Sound)
    (request : ∀ number, move ≠ .request (.commit number))
    (call : ∀ other, move.run? = some other → other ∈ after.committed →
      other ∈ fleet.committed) : after.store.rows = fleet.store.rows := by
  cases moved with
  | requested change =>
      cases change with
      | committed opened => exact absurd rfl (request _)
      | _ => rfl
  | @called caller _ _ _ iteration next store running called =>
      apply called.rows_of_uncommitted
      by_contra commits
      rw [Bool.not_eq_false] at commits
      obtain ⟨⟨tx, report, rfl⟩, _⟩ := Iteration.commits_cases commits
      have committed := call caller rfl (by simp [Fleet.afterCall, commits])
      obtain ⟨_, ended⟩ := (sound.committed caller).mp committed
      rw [running] at ended
      cases ended
  | _ => rfl

theorem underway_play (starting : origin.iterations run = some .starting) (sound : origin.Sound)
    (distinct : (origin.store.rows.map Message.id).Nodup) {turns : List Turn}
    (unrivalled : Unrivalled origin run batchSize turns) :
    ∃ iteration, Underway origin run batchSize turns (play run batchSize origin turns)
      iteration := by
  induction turns using List.reverseRecOn with
  | nil => exact ⟨.starting, underway_start starting sound⟩
  | append_singleton past turn ih =>
      obtain ⟨iteration, underway⟩ := ih (unrivalled.before sound)
      have before := sound_play run batchSize sound past
      have foreign (move : Move) (own : turn = .other move) : move.run? ≠ some run :=
        unrivalled.foreign move (by simp [own])
      obtain ⟨next, advanced⟩ := step_advanced batchSize before underway.running foreign
      have alone := unrivalled.alone
      rw [play_concat] at alone ⊢
      generalize played : play run batchSize origin past = scene at *
      generalize scene.step run batchSize turn = after at *
      refine ⟨next, ?_⟩
      cases advanced with
      | @other move later apart moved =>
          apply underway.other apart moved
          apply rows_of_uncommitted moved before
          · rintro number rfl
            exact unrivalled.requests number (by simp)
          · -- Whoever of the others has committed by now had done so before the first turn.
            intro other mover committed
            have different : other ≠ run := by
              rintro rfl
              exact apart mover
            have earlier : other ∈ (play run batchSize origin ([] ++ past)).fleet.committed :=
              committed_subset sound [] past (alone other different committed)
            rw [List.nil_append, played] at earlier
            exact earlier
      | called called => exact underway.called played.symm before distinct called
      | answered sends answered =>
          subst sends
          exact underway.answered answered

/-- Every exchange of the iteration brings it nearer to its end. -/
theorem exchangesLeft_play (batchSize : Nat)
    (starting : origin.iterations run = some .starting) (sound : origin.Sound) {turns : List Turn}
    (foreign : ∀ move, .other move ∈ turns → move.run? ≠ some run) :
    ∃ iteration, (play run batchSize origin turns).fleet.iterations run = some iteration ∧
      iteration.exchangesLeft batchSize ≤ batchSize + 5 - turns.countP Turn.isOwn := by
  induction turns using List.reverseRecOn with
  | nil => exact ⟨.starting, starting, Nat.le_refl _⟩
  | append_singleton past turn ih =>
      obtain ⟨iteration, running, near⟩ :=
        ih fun move member => foreign move (List.mem_append_left _ member)
      rw [play_concat, List.countP_append, List.countP_singleton]
      cases turn with
      | other move =>
          have before := sound_play run batchSize sound past
          have stays := ((Fleet.step_moved before move).others (foreign move (by simp))).1
          exact ⟨iteration, stays.trans running, by simpa [Turn.isOwn] using near⟩
      | own clock result =>
          refine ⟨_, iterations_step_own running clock result, ?_⟩
          generalize (play run batchSize origin past).fleet.store = store
          simp only [Turn.isOwn, if_true]
          cases ended : iteration.isEnded with
          | false =>
              have fewer := Iteration.exchangesLeft_exchange batchSize ended { clock, result } store
              omega
          | true =>
              cases iteration with
              | ended report => exact Nat.zero_le _
              | _ => cases ended

/-- The transaction of a fetch is closed when the iteration has ended. -/
theorem unlocked_of_ended (sound : origin.Sound) {turns : List Turn} {tx : Transaction}
    {batch : List Message} (fetched : Fetched origin run batchSize turns tx batch)
    (ended : (play run batchSize origin turns).fleet.transaction? run = none) :
    (play run batchSize origin turns).fleet.store.locksOf tx.number = [] := by
  obtain ⟨earlier, clock, result, later, rfl, running, _⟩ := fetched
  -- The iteration keeps its number until the transaction is closed, and closed it stays.
  have kept (fleet : Fleet) (move : Move) (after : Fleet) (sound : fleet.Sound)
      (moved : Fleet.Moved fleet move after)
      (open_or_closed : (∃ own, fleet.transaction? run = some own ∧ own.number = tx.number) ∨
        fleet.Closed tx.number) :
      (∃ own, after.transaction? run = some own ∧ own.number = tx.number) ∨
        after.Closed tx.number := by
    rcases open_or_closed with ⟨own, opened, same⟩ | closed
    · exact same ▸ moved.number_kept sound opened
    · exact Or.inr (moved.closed closed)
  have opened := Fleet.transaction?_of_running running
  rcases play_kept kept sound earlier (.own clock result :: later)
    (Or.inl ⟨tx, opened, rfl⟩) with ⟨own, still, _⟩ | closed
  · rw [ended] at still
    cases still
  · exact closed.unlocked (sound_play run batchSize sound _)

/-! ## What the iteration leaves behind -/

/-- What becomes of a row. -/
inductive Settles (trials : List Trial) (moment : Instant) (row : Message) : Message → Prop where
  | attempted {trial : Trial} {after : Message} (member : trial ∈ trials)
      (own : trial.message = row) (attempted : Attempted moment row trial.result after) :
      Settles trials moment row after
  | untouched (untried : row ∉ trials.map Trial.message) : Settles trials moment row row

theorem settles_settled {home : Store} {journal : Journal}
    (distinct : (home.rows.map Message.id).Nodup) (claimed : Claimed home journal.batch)
    (tried : journal.batch = journal.trials.map Trial.message)
    (spare : ∀ row ∈ home.rows, row.isPending = true → row.retryCount < Int32.maxValue)
    (moment : Instant) {row : Message} (member : row ∈ home.rows) :
    Settles journal.trials moment row (journal.settled moment row) := by
  unfold Journal.settled
  cases found : journal.trial? row.id with
  | none =>
      apply Settles.untouched
      intro attempted
      obtain ⟨trial, there, rfl⟩ := List.mem_map.mp attempted
      simpa using List.find?_eq_none.mp found trial there
  | some trial =>
      obtain ⟨rfl, pending⟩ := claimed.row_of_trial distinct tried member found
      have there := (Journal.trial?_spec found).1
      exact .attempted there rfl (Trial.attempted pending (spare _ member pending) moment)

/-- The rows of the batch as they have become are the outcomes of the attempts, in this order. -/
theorem filter_settled {home : Store} {journal : Journal}
    (distinct : (home.rows.map Message.id).Nodup) (claimed : Claimed home journal.batch)
    (part : journal.batch.Sublist home.rows)
    (tried : journal.batch = journal.trials.map Trial.message) (moment : Instant) :
    ((home.rows.map (journal.settled moment)).filter fun row =>
      row.id ∈ journal.batch.map Message.id) = journal.trials.map (Trial.outcome moment) := by
  have trials_distinct := claimed.trials_distinct tried
  have outcomes : journal.batch.map (journal.settled moment) =
      journal.trials.map (Trial.outcome moment) := by
    rw [tried, List.map_map]
    apply List.map_congr_left
    intro trial member
    rw [Function.comp_apply, Journal.settled, Journal.trial?_of_mem trials_distinct member]
    rfl
  have ids : (fun row : Message => decide (row.id ∈ journal.batch.map Message.id)) ∘
      journal.settled moment = fun row => decide (row.id ∈ journal.batch.map Message.id) := by
    funext row
    rw [Function.comp_apply, Journal.id_settled]
  rw [List.filter_map, ids, filter_ids_of_sublist part distinct, outcomes]

/-- What the iteration has done when it has ended with a report. -/
structure Exact (origin : Fleet) (run batchSize : Nat) (turns : List Turn) (scene : Scene)
    (report : Report) : Prop where
  /-- The locks that it took for its batch are given back. -/
  batch : ∃ tx, Fetched origin run batchSize turns tx (scene.fleet.batch run) ∧
    scene.fleet.store.locksOf tx.number = []
  tried : (scene.fleet.trials run).map Trial.message = scene.fleet.batch run
  sendings : scene.sendings = (scene.fleet.trials run).map Trial.sending
  rows : ∃ moment, List.Forall₂ (Settles (scene.fleet.trials run) moment) origin.store.rows
    scene.fleet.store.rows
  counts : Counts report (scene.fleet.batch run)
    (scene.fleet.store.rows.filter fun row => row.id ∈ (scene.fleet.batch run).map Message.id)

theorem Underway.exact {turns : List Turn} {scene : Scene} {result : Except Error Report}
    (underway : Underway origin run batchSize turns scene (.ended result))
    (played : scene = play run batchSize origin turns) (sound : origin.Sound)
    (distinct : (origin.store.rows.map Message.id).Nodup)
    (spare : ∀ row ∈ origin.store.rows, row.isPending = true →
      row.retryCount < Int32.maxValue) :
    ∃ report, result = .ok report ∧ Exact origin run batchSize turns scene report := by
  obtain ⟨running, _, _, left, late, reported, sendings⟩ := underway
  obtain ⟨tx, fetched⟩ := late rfl
  have claimed := fetched.claimed distinct
  have closed : scene.fleet.transaction? run = none := Fleet.transaction?_of_running running
  generalize rows_after : scene.fleet.store.rows = rows at left
  cases left with
  | before under_way => cases under_way
  | after report moment tried =>
      refine ⟨report, rfl, ?_⟩
      have counted := filter_settled distinct claimed fetched.part tried moment
      constructor
      · refine ⟨tx, fetched, ?_⟩
        subst played
        exact unlocked_of_ended sound fetched closed
      · exact tried.symm
      · exact sendings
      · refine ⟨moment, ?_⟩
        rw [rows_after, List.forall₂_map_right_iff, List.forall₂_same]
        intro row member
        exact settles_settled distinct claimed tried spare moment member
      · rw [rows_after, reported report rfl]
        exact counted ▸ Journal.counts moment tried claimed.pending

/-- The iteration comes to its end after enough exchanges, and it ends with a report and with each
row of its batch published once and settled by the answer. -/
theorem iteration_is_exact (home : StoreId) (past : List Move) (run batchSize : Nat)
    (turns : List Turn)
    (starting : (Fleet.run home past).iterations run = some .starting)
    (distinct : ((Fleet.run home past).store.rows.map Message.id).Nodup)
    (spare : ∀ row ∈ (Fleet.run home past).store.rows, row.isPending = true →
      row.retryCount < Int32.maxValue)
    (unrivalled : Unrivalled (Fleet.run home past) run batchSize turns) :
    (batchSize + 5 ≤ turns.countP Turn.isOwn →
      ∃ result, (play run batchSize (Fleet.run home past) turns).fleet.iterations run =
        some (.ended result)) ∧
    ∀ result, (play run batchSize (Fleet.run home past) turns).fleet.iterations run =
        some (.ended result) →
      ∃ report, result = .ok report ∧
        Exact (Fleet.run home past) run batchSize turns
          (play run batchSize (Fleet.run home past) turns) report := by
  have sound := Fleet.sound_run home past
  constructor
  · intro enough
    obtain ⟨iteration, running, near⟩ := exchangesLeft_play batchSize starting sound
      unrivalled.foreign
    have none_left : iteration.exchangesLeft batchSize = 0 := by omega
    have ended := Iteration.isEnded_of_exchangesLeft none_left
    cases iteration with
    | ended result => exact ⟨result, running⟩
    | _ => cases ended
  · intro result ended
    obtain ⟨iteration, underway⟩ := underway_play starting sound distinct unrivalled
    have same := underway.running
    rw [ended, Option.some.injEq] at same
    subst same
    exact underway.exact rfl sound distinct spare

/-- Two rows, of which another transaction has locked the first one. -/
def sharedHistory : List Move :=
  [.request .begin, .request (.create 1 .fruit),
    .request (.create 1 { Message.fruit with id := ⟨1, by decide⟩ }), .request (.commit 1),
    .request .begin, .request (.fetch 2 1)]

/-- The iteration fetches the second row, and the bus is busy. -/
def sharedTurns : List Turn :=
  [.own .epoch (.ok ()), .own .epoch (.ok ()), .other (.request .begin),
    .own .epoch (.error (.eventBus "busy")), .own .epoch (.ok ()), .own .epoch (.ok ()),
    .own .epoch (.ok ())]

theorem sharedTurns_are_exact :
    (∃ report, (play 0 1 (Fleet.run 0 sharedHistory) sharedTurns).fleet.iterations 0 =
        some (.ended (.ok report)) ∧
      Exact (Fleet.run 0 sharedHistory) 0 1 sharedTurns
        (play 0 1 (Fleet.run 0 sharedHistory) sharedTurns) report) ∧
    (play 0 1 (Fleet.run 0 sharedHistory) sharedTurns).fleet.store.rows =
      [.fruit, { Message.fruit with
        id := ⟨1, by decide⟩, retryCount := 1, lastError := (Error.eventBus "busy").message }] := by
  have rows : (Fleet.run 0 sharedHistory).store.rows =
      [.fruit, { Message.fruit with id := ⟨1, by decide⟩ }] := by
    rfl
  have committed : (play 0 1 (Fleet.run 0 sharedHistory) sharedTurns).fleet.committed = [0] := by
    rfl
  obtain ⟨ends, exact_end⟩ := iteration_is_exact 0 sharedHistory 0 1 sharedTurns (by rfl)
    (by rw [rows]; decide) (by rw [rows]; decide)
    { requests := by simp [sharedTurns]
      foreign := by
        intro move member
        simp only [sharedTurns, List.mem_cons, Turn.other.injEq, reduceCtorEq, List.not_mem_nil,
          or_false, false_or] at member
        rw [member]
        simp [Move.run?]
      alone := by
        intro other different there
        rw [committed, List.mem_singleton] at there
        exact absurd there different }
  obtain ⟨result, ended⟩ := ends (by decide)
  obtain ⟨report, rfl, exactly⟩ := exact_end result ended
  exact ⟨⟨report, ended, exactly⟩, by rfl⟩

end Scene

end Outbox.Publisher
