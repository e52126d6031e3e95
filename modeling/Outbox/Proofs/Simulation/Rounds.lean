import Outbox.Proofs.Publisher.Solitary
import Outbox.Simulation.Actions

/-!
# Runs of a world are rounds

In a world whose calls to the store do not fail, and whose publications have their results at once,
an iteration that is run for its result is an undisturbed round on the main store: for the results
that the bus of the world gives it, it has the same end, and it leaves the same store behind.
-/

set_option autoImplicit false

namespace Outbox

open Publisher (Action Iteration Response Round Solo)
open Time (Instant)

/-! ## Steps of a round -/

namespace Store

@[simp] theorem id_drop (store : Store) (tx : Transaction) : (store.drop tx).id = store.id := by
  unfold drop
  split <;> rfl

theorem id_of_fetch {store after : Store} {tx : Transaction} {limit : Nat} {batch : List Message}
    (fetched : store.fetch tx limit = .ok (batch, after)) : after.id = store.id := by
  rw [(of_fetch fetched).2]
  rfl

theorem id_of_commit {store after : Store} {tx : Transaction}
    (committed : store.commit tx = .ok after) : after.id = store.id := by
  unfold commit at committed
  split at committed
  · cases committed
    rfl
  · cases committed

theorem id_of_rollback {store after : Store} {tx : Transaction}
    (undone : store.rollback tx = .ok after) : after.id = store.id := by
  unfold rollback at undone
  split at undone
  · cases undone
    rfl
  · cases undone

end Store

theorem Publisher.Iteration.id_perform (iteration : Iteration) (batchSize : Nat)
    (now : Instant) (injected : Option Error) (store : Store) :
    (iteration.perform batchSize now injected store).2.id = store.id := by
  cases injected with
  | some error => cases iteration <;> simp [perform]
  | none =>
      cases iteration with
      | starting => rfl
      | fetching tx =>
          simp only [perform]
          split
          · rfl
          · exact Store.id_of_fetch ‹_›
      | savingProcessed tx attempts =>
          simp only [perform]
          split <;> rfl
      | savingFailed tx attempts =>
          simp only [perform]
          split <;> rfl
      | committing tx report =>
          simp only [perform]
          split
          · exact store.id_drop tx
          · exact Store.id_of_commit ‹_›
      | undoing tx error =>
          simp only [perform]
          split
          · exact store.id_drop tx
          · exact Store.id_of_rollback ‹_›
      | publishing tx attempts message waiting => rfl
      | ended result => rfl

namespace Publisher.Solo

variable {round : Round} {solo : Solo}

theorem finish_stop {result : Except Error Report}
    (stops : solo.iteration.action round.batchSize = .stop result) : solo.finish round = solo := by
  rw [finish]
  split <;> simp_all

theorem finish_call {call : Call} (calls : solo.iteration.action round.batchSize = .call call) :
    solo.finish round = (solo.afterCall round).finish round := by
  rw [finish]
  split <;> simp_all

theorem finish_publish {topic : String} {event : Bytes}
    (publishes : solo.iteration.action round.batchSize = .publish topic event) :
    solo.finish round = (solo.afterAnswer round topic event).finish round := by
  rw [finish]
  split <;> simp_all

/-- Only the answers to the publications to come make a difference. -/
theorem finish_congr {answers others : Nat → Except Error Unit} {batchSize : Nat}
    {now : Instant} (agree : ∀ index, solo.sent.length ≤ index →
      answers index = others index) :
    solo.finish ⟨batchSize, now, answers⟩ = solo.finish ⟨batchSize, now, others⟩ := by
  fun_induction Solo.finish ⟨batchSize, now, answers⟩ solo with
  | case1 solo result stops => exact (@finish_stop ⟨batchSize, now, others⟩ solo result stops).symm
  | case2 solo call calls ih =>
      rw [ih agree, @finish_call ⟨batchSize, now, others⟩ solo call calls]
      rfl
  | case3 solo topic event publishes ih =>
      have next : solo.afterAnswer ⟨batchSize, now, answers⟩ topic event =
          solo.afterAnswer ⟨batchSize, now, others⟩ topic event := by
        simp only [afterAnswer, agree _ (Nat.le_refl _)]
      have later : ∀ index, (solo.afterAnswer ⟨batchSize, now, answers⟩ topic event).sent.length ≤
          index → answers index = others index := by
        intro index bound
        simp only [afterAnswer, List.length_append, List.length_singleton] at bound
        exact agree index (by omega)
      rw [ih later, @finish_publish ⟨batchSize, now, others⟩ solo topic event publishes, next]

end Publisher.Solo

namespace Simulation

/-! ## Prompt responses -/

structure Script.Prompt (script : Script) : Prop where
  usual : Time.pauseOf script.delay = 0
  rules : ∀ rule ∈ script.rules,
    rule.ending ≠ .hang ∧ Time.pauseOf (rule.delay.getD script.delay) = 0

theorem Script.choose_cases (topic : String) (event : Bytes) (rules : List Rule) :
    (Script.choose topic event rules = (none, rules)) ∨
    ∃ before rule after, rules = before ++ rule :: after ∧
      Script.choose topic event rules = (some rule, before ++ rule.used :: after) := by
  induction rules with
  | nil => exact Or.inl rfl
  | cons first rest ih =>
      by_cases fits : first.fits topic event = true
      · exact Or.inr ⟨[], first, rest, rfl, by simp [choose, fits]⟩
      · rcases ih with unchosen | ⟨before, rule, after, split, chosen⟩
        · exact Or.inl (by simp [choose, fits, unchosen])
        · exact Or.inr ⟨first :: before, rule, after, by simp [split],
            by simp [choose, fits, chosen]⟩

theorem Script.Prompt.respond {script : Script} (prompt : script.Prompt) (topic : String)
    (event : Bytes) : ∃ result after,
      script.respond topic event = (.immediate result, after) ∧ after.Prompt := by
  rcases Script.choose_cases topic event script.rules with
    unchosen | ⟨before, rule, after, split, chosen⟩
  · refine ⟨.ok (), script, ?_, prompt⟩
    simp [Script.respond, unchosen, prompt.usual, Response.immediate]
  · have own := prompt.rules rule (by simp [split])
    have responds : ∃ result, rule.response script.delay = .immediate result := by
      unfold Rule.response
      cases ending : rule.ending with
      | accept => exact ⟨.ok (), by simp [own.2, Response.immediate]⟩
      | refuse error => exact ⟨.error error, by simp [own.2, Response.immediate]⟩
      | hang => exact absurd ending own.1
    obtain ⟨result, responds⟩ := responds
    refine ⟨result, { script with rules := before ++ rule.used :: after }, ?_, prompt.usual, ?_⟩
    · simp [Script.respond, chosen, responds]
    · intro other member
      have others := prompt.rules
      simp only [split, List.mem_append, List.mem_cons] at others member
      rcases member with earlier | rfl | later
      · exact others other (Or.inl earlier)
      · exact own
      · exact others other (Or.inr (Or.inr later))

/-! ## Calm worlds -/

/-- No call to the store fails, and the publications on a channel have their results at once. -/
structure World.Calm (world : World) (channel : Nat) : Prop where
  faultless : world.faults = []
  prompt : ∀ script, world.channels[channel]? = some (.scripted script) → script.Prompt

/-- What a world shares with a later one beside its stores. -/
structure World.Beside (world after : World) : Prop where
  clock : after.clock = world.clock
  current : after.current = world.current

namespace World

theorem rouseSubscribers_eq (world : World) (channel : Nat)
    (concerns : Bus.Subscription Handler → Bool)
    (subscriptions : List (Bus.Subscription Handler)) :
    ∃ ready, world.rouseSubscribers channel concerns subscriptions = { world with ready } := by
  unfold rouseSubscribers
  generalize subscriptions.zipIdx = entries
  induction entries generalizing world with
  | nil => exact ⟨world.ready, rfl⟩
  | cons entry rest ih =>
      rw [List.foldl_cons]
      split
      · exact ih (world.rouse _)
      · exact ih world

variable {world : World} {channel : Nat}

theorem trace_of_faultless (faultless : world.faults = []) (call : Call) :
    world.trace call = (none, { world with
      faults := []
      traced := ⟨world.now, call, false⟩ :: world.traced }) := by
  simp [World.trace, faultless, takeFault]

theorem Calm.trace (calm : world.Calm channel) (call : Call) :
    ∃ after, world.trace call = (none, after) ∧ after.Calm channel ∧
      after.stores = world.stores ∧ world.Beside after :=
  ⟨_, trace_of_faultless calm.faultless call, ⟨rfl, calm.prompt⟩, rfl, ⟨rfl, rfl⟩⟩

theorem Calm.put (calm : world.Calm channel) {state : Channel}
    (prompt : ∀ script, state = .scripted script → script.Prompt) :
    (world.putChannel channel state).Calm channel where
  faultless := calm.faultless
  prompt := by
    intro script there
    rw [putChannel, List.getElem?_set, if_pos rfl] at there
    split at there
    · exact prompt script (Option.some.inj there)
    · cases there

theorem Calm.send (calm : world.Calm channel) (topic : String) (event : Bytes) :
    ∃ result after, world.send channel topic event = (.immediate result, after) ∧
      after.Calm channel ∧ after.stores = world.stores ∧ world.Beside after := by
  cases there : world.channels[channel]? with
  | none =>
      simp only [World.send, there]
      exact ⟨_, _, rfl, calm, rfl, ⟨rfl, rfl⟩⟩
  | some state =>
      cases state with
      | discard =>
          simp only [World.send, there]
          exact ⟨_, _, rfl, calm, rfl, ⟨rfl, rfl⟩⟩
      | memory bus =>
          simp only [World.send, there]
          cases published : bus.publish topic event with
          | error error => exact ⟨_, _, rfl, calm, rfl, ⟨rfl, rfl⟩⟩
          | ok changed =>
              have put : (world.putChannel channel (.memory changed)).Calm channel :=
                calm.put (by simp)
              obtain ⟨ready, roused⟩ :=
                (world.putChannel channel (.memory changed)).rouseSubscribers_eq channel
                  (fun subscription => subscription.topic == topic) bus.subscriptions
              simp only [roused]
              exact ⟨_, _, rfl, ⟨put.faultless, put.prompt⟩, rfl, ⟨rfl, rfl⟩⟩
      | scripted script =>
          obtain ⟨result, after, responded, prompt⟩ :=
            (calm.prompt script there).respond topic event
          have put : (world.putChannel channel (.scripted after)).Calm channel := by
            apply calm.put
            intro other same
            exact Channel.scripted.inj same ▸ prompt
          simp only [World.send, there, responded]
          exact ⟨_, _, rfl, ⟨put.faultless, put.prompt⟩, rfl, ⟨rfl, rfl⟩⟩

theorem Calm.putStore (calm : world.Calm channel) (store : Store) :
    (world.putStore store).Calm channel :=
  ⟨calm.faultless, calm.prompt⟩

theorem Calm.count (calm : world.Calm channel) (increments : List Increment) :
    (world.count increments).Calm channel :=
  ⟨calm.faultless, calm.prompt⟩

theorem main_putStore (world : World) {store : Store} (home : store.id = mainStore) :
    (world.putStore store).main = store := by
  simp [putStore, main, Stores.put, home]

end World

/-! ## The same end -/

/-- An iteration of a world has ended as one on its own, with the same store behind it. -/
structure Ran (world : World) (channel : Nat) (outcome : Progress × World) (solo : Solo) :
    Prop where
  ended : ∃ result, outcome.1 = .ended result ∧ solo.iteration = .ended result
  main : outcome.2.main = solo.store
  home : outcome.2.main.id = World.mainStore
  calm : outcome.2.Calm channel
  beside : world.Beside outcome.2

section Steps
variable {settings : Publisher.Settings} {channel : Nat} {world after : World}
variable {iteration : Iteration}

theorem proceed_stop {result : Except Error Publisher.Report}
    (stops : iteration.action settings.batchSize = .stop result) :
    World.proceed settings channel world iteration = (.ended result, world) := by
  rw [World.proceed]
  split <;> simp_all

theorem proceed_call {call : Call} (calls : iteration.action settings.batchSize = .call call)
    (traced : world.trace call = (none, after)) :
    World.proceed settings channel world iteration =
      World.proceed settings channel
        (after.putStore (iteration.perform settings.batchSize after.clock none after.main).2)
        (iteration.perform settings.batchSize after.clock none after.main).1 := by
  rw [World.proceed]
  split <;> simp_all

theorem within_immediate (limit : Option Time.Span) (result : Except Error Unit) :
    (Response.immediate result).within limit = some (0, result) := by
  cases limit <;> simp [Response.immediate, Response.within]

theorem proceed_publish {topic : String} {event : Bytes}
    (publishes : iteration.action settings.batchSize = .publish topic event)
    {result : Except Error Unit}
    (sends : world.send channel topic event = (.immediate result, after)) :
    World.proceed settings channel world iteration =
      World.proceed settings channel (after.count (iteration.answer result).2)
        (iteration.answer result).1 := by
  rw [World.proceed]
  split
  · simp_all
  · simp_all
  · rename_i publishes'
    obtain ⟨rfl, rfl⟩ := Action.publish.inj (publishes.symm.trans publishes')
    simp only [sends, within_immediate]
    rfl

end Steps

/-- In a calm world an iteration goes on to its end as one on its own does, for some answers. -/
theorem World.Calm.ran (settings : Publisher.Settings) {now : Instant} {channel : Nat}
    {world : World} (calm : world.Calm channel) (clock : world.clock = now) {solo : Solo}
    (main : world.main = solo.store) (home : solo.store.id = World.mainStore) :
    ∃ answers, Ran world channel (World.proceed settings channel world solo.iteration)
      (solo.finish ⟨settings.batchSize, now, answers⟩) := by
  cases action : solo.iteration.action settings.batchSize with
  | stop result =>
      refine ⟨fun _ => .ok (), ?_⟩
      rw [proceed_stop action, Solo.finish_stop action]
      exact ⟨⟨result, rfl, Iteration.ended_of_stop action⟩, main, main ▸ home, calm, ⟨rfl, rfl⟩⟩
  | call call =>
      obtain ⟨after, traced, after_calm, stores, beside⟩ := calm.trace call
      have after_main : after.main = solo.store := by
        rw [World.main, stores]
        exact main
      have own : (solo.iteration.perform settings.batchSize now none solo.store).2.id =
          World.mainStore := (solo.iteration.id_perform _ _ _ _).trans home
      obtain ⟨answers, later⟩ := @ran settings now channel _ (after_calm.putStore _)
        (beside.clock.trans clock) (solo.afterCall ⟨settings.batchSize, now, fun _ => .ok ()⟩)
        (after.main_putStore own) own
      refine ⟨answers, ?_⟩
      rw [proceed_call action traced, beside.clock, clock, after_main, Solo.finish_call action]
      exact { later with beside := ⟨later.beside.clock.trans beside.clock,
          later.beside.current.trans beside.current⟩ }
  | publish topic event =>
      obtain ⟨result, after, sends, after_calm, stores, beside⟩ := calm.send topic event
      have after_main : after.main = solo.store := by
        rw [World.main, stores]
        exact main
      obtain ⟨answers, later⟩ := @ran settings now channel _
        (after_calm.count (solo.iteration.answer result).2) (beside.clock.trans clock)
        (solo.afterAnswer ⟨settings.batchSize, now, fun _ => result⟩ topic event) after_main home
      -- The first answer is the one of this publication, the others are those of what follows.
      refine ⟨Function.update answers solo.sent.length result, ?_⟩
      have first : solo.afterAnswer ⟨settings.batchSize, now,
          Function.update answers solo.sent.length result⟩ topic event =
          solo.afterAnswer ⟨settings.batchSize, now, fun _ => result⟩ topic event := by
        simp only [Solo.afterAnswer, Function.update_self]
      rw [proceed_publish action sends, Solo.finish_publish action, first, Solo.finish_congr]
      · exact { later with beside := ⟨later.beside.clock.trans beside.clock,
          later.beside.current.trans beside.current⟩ }
      · intro index bound
        simp only [Solo.afterAnswer, List.length_append, List.length_singleton] at bound
        exact Function.update_of_ne (by omega) _ _
termination_by solo.iteration.rank
decreasing_by
  · exact Iteration.perform_nearer action now none solo.store
  · exact Iteration.answer_nearer action result

/-! ## Runs -/

/-- A run in a calm world is a round on its main store, and leaves a calm world behind. -/
theorem World.Calm.runOnce {world : World} (calm : world.Calm world.current)
    (home : world.main.id = mainStore) (settings : Publisher.Settings) :
    ∃ answers result, (world.runOnce settings).1 = some result ∧
      (Round.run ⟨settings.batchSize, world.clock, answers⟩ world.main).iteration =
        .ended result ∧
      (world.runOnce settings).2.main =
        (Round.run ⟨settings.batchSize, world.clock, answers⟩ world.main).store ∧
      (world.runOnce settings).2.main.id = mainStore ∧
      (world.runOnce settings).2.Calm (world.runOnce settings).2.current := by
  have refreshed : world.refresh.Calm world.current := ⟨calm.faultless, calm.prompt⟩
  obtain ⟨answers, ran⟩ := @ran settings world.clock world.current world.refresh refreshed rfl
    (Solo.start world.main) rfl home
  change Ran _ _ (World.proceed settings world.current world.refresh .starting) _ at ran
  cases proceeded : World.proceed settings world.current world.refresh .starting with
  | mk progress after =>
      rw [proceeded] at ran
      obtain ⟨⟨result, rfl, finished⟩, main, own, after_calm, beside⟩ := ran
      have outcome : world.runOnce settings = (some result, after) := by
        rw [World.runOnce, proceeded]
        rfl
      rw [outcome]
      refine ⟨answers, result, rfl, finished, main, own, ?_⟩
      have current : after.current = world.current := beside.current
      simp only [current]
      exact after_calm

end Simulation

end Outbox
