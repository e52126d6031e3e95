import Mathlib.Logic.Relation
import Outbox.Proofs.Bus.Tasks
import Outbox.Proofs.Simulation.Turns

/-!
# Shutting down the bus of a world

While a world waits for the shutdown of a bus, the shutdown of that bus goes on and its subscribers
leave it.  So what a world says about the end of the shutdown is what traffic says, and once it has
returned no subscriber calls its handler again.
-/

set_option autoImplicit false

namespace Outbox.Simulation

open Bus (Traffic)

/-! ## What is done in a world -/

section Done
variable {channel : Nat} {world : World}

theorem Rides.shutdown {after : World} (rides : Rides channel world after)
    {traffic : Traffic Handler} (carries : world.Carries channel traffic) :
    ∃ moves : List (Traffic.Move Handler),
      after.Carries channel (moves.foldl Traffic.step traffic) ∧
      (moves.foldl Traffic.step traffic).shutdown = traffic.shutdown := by
  obtain ⟨history, opened, arrives⟩ := rides traffic carries
  refine ⟨history.flatMap Bus.Move.steps, arrives, ?_⟩
  clear arrives
  induction history using List.reverseRecOn with
  | nil => rfl
  | append_singleton past move ih =>
      rw [List.mem_append, not_or, List.mem_singleton] at opened
      have last : [move].flatMap Bus.Move.steps = move.steps := List.append_nil _
      rw [List.flatMap_append, last, List.foldl_append,
        Traffic.shutdown_steps _ (Ne.symm opened.2), ih opened.1]

/-- A world that publishes over its bus and waits for the result. -/
theorem World.rides_publish (world : World) (channel : Nat) (topic : String) (event : Bytes) :
    Rides channel world (world.publish topic event).2 := by
  have sent := world.rides_send channel world.current topic event
  unfold World.publish
  generalize world.send world.current topic event = outcome at sent
  obtain ⟨response, after⟩ := outcome
  cases response with
  | never => exact sent
  | after delay result => exact sent.trans ((World.spans_rides channel).waitUntil _ after)

theorem World.rides_subscribe (world : World) (channel : Nat) (topic : String)
    (handler : Handler) : Rides channel world (world.subscribe topic handler).2 := by
  unfold World.subscribe
  split
  · exact .refl channel world
  · rename_i bus there
    split
    · exact .refl channel world
    · rename_i changed subscribed
      by_cases same : world.current = channel
      · subst same
        apply Rides.of_move (.subscribe topic handler) (by simp)
        intro traffic carries
        obtain rfl := Option.some.inj (there.symm.trans carries.bus)
        obtain ⟨opened, rfl⟩ := Bus.Memory.of_subscribe subscribed
        rw [Traffic.steps_subscribe_open opened carries.nothing_pending carries.all_registered]
        exact ⟨World.bus?_putChannel there _, carries.nothing_pending, carries.all_registered⟩
      · exact .of_same (World.bus?_putChannel_ne same _)

theorem World.rides_runOnce (world : World) (channel : Nat) (settings : Publisher.Settings) :
    Rides channel world (world.runOnce settings).2 := by
  have awaited (waits : Nat) (progress : Progress) (world : World) :
      Rides channel world (World.awaitIteration settings waits progress world).2 := by
    induction waits generalizing progress world with
    | zero => exact .refl channel world
    | succ waits ih =>
        cases progress with
        | ended result => exact .refl channel world
        | waiting publication =>
            rw [World.awaitIteration]
            split
            · exact .refl channel world
            · rename_i due _ _
              have passed : Rides channel world
                  (if due ≤ world.now then world.playRound else world.waitUntil due) := by
                split
                · exact (World.spans_rides channel).playRound world
                · exact (World.spans_rides channel).waitUntil due world
              dsimp only
              generalize (if due ≤ world.now then world.playRound else world.waitUntil due) = later
                at passed ⊢
              have called : Rides channel later later.refresh := .of_channels rfl
              have resumed := (World.apart_resume 0 settings later.current later.refresh
                publication).rides channel
              exact ((passed.trans called).trans resumed).trans (ih _ _)
  have called : Rides channel world world.refresh := .of_channels rfl
  have begun := (World.apart_proceed 0 settings world.current world.refresh .starting).rides channel
  exact (called.trans begun).trans (awaited _ _ _)

theorem World.rides_stopWorker (world : World) (channel index : Nat) :
    Rides channel world (world.stopWorker index) := by
  have cancelled : Rides channel world (world.cancelWorker index) := by
    apply Rides.of_channels
    unfold World.cancelWorker
    dsimp only
    split <;> rfl
  exact cancelled.trans ((World.spans_rides channel).awaitWorker index _ _)

/-- What is done in a world while its buses are open.  Transactions, workers that start, faults and
handlers leave the channels alone. -/
inductive Done (world : World) : World → Prop where
  | published (topic : String) (event : Bytes) : Done world (world.publish topic event).2
  | subscribed (topic : String) (handler : Handler) : Done world (world.subscribe topic handler).2
  | ran (settings : Publisher.Settings) : Done world (world.runOnce settings).2
  | advanced (milliseconds : Nat) : Done world (world.advance milliseconds)
  | stopped (index : Nat) : Done world (world.stopWorker index)
  | besides {after : World} (same : after.channels = world.channels) : Done world after

theorem Done.rides {after : World} (done : Done world after) (channel : Nat) :
    Rides channel world after := by
  cases done with
  | published topic event => exact world.rides_publish channel topic event
  | subscribed topic handler => exact world.rides_subscribe channel topic handler
  | ran settings => exact world.rides_runOnce channel settings
  | advanced milliseconds => exact (World.spans_rides channel).advance milliseconds world
  | stopped index => exact world.rides_stopWorker channel index
  | besides same => exact .of_channels same

theorem rides_of_done {origin : World} (done : Relation.ReflTransGen Done origin world)
    (channel : Nat) : Rides channel origin world := by
  induction done with
  | refl => exact .refl channel origin
  | tail _ last ih => exact ih.trans (last.rides channel)

end Done

/-! ## Stages -/

section Stages
variable {channel stages : Nat} {world : World} {bus changed : Bus.Memory Handler}
variable {shutdown next : Bus.Shutdown}

theorem World.putChannel_same (there : world.bus? channel = some bus) :
    world.putChannel channel (.memory bus) = world := by
  unfold World.bus? at there
  split at there
  · rename_i found placed
    obtain rfl := Option.some.inj there
    have same : world.channels.set channel (.memory found) = world.channels := by
      apply List.ext_getElem?
      intro index
      by_cases own : channel = index
      · subst own
        rw [List.getElem?_set_self (List.getElem?_eq_some_iff.mp placed).1, placed]
      · rw [List.getElem?_set_ne own]
    rw [World.putChannel, same]
  · cases there

theorem World.finishShutdown_next (there : world.bus? channel = some bus)
    (goes_on : shutdown.proceed bus = (next, changed)) (further : next ≠ shutdown) :
    World.finishShutdown channel (stages + 1) shutdown world =
      World.finishShutdown channel stages next (world.putChannel channel (.memory changed)) := by
  rw [World.finishShutdown]
  simp only [there, goes_on, if_pos further]

/-- While a task has nothing to do that takes time, a shutdown waits for it at the same moment. -/
theorem World.finishShutdown_waits {task : Nat} (there : world.bus? channel = some bus)
    (stays : shutdown.proceed bus = (shutdown, bus)) (awaited : shutdown.awaited? = some task)
    (uncalled : world.settle.callOf? channel task = none) :
    World.finishShutdown channel (stages + 1) shutdown world =
      World.finishShutdown channel stages shutdown world.settle := by
  rw [World.finishShutdown]
  simp only [there, stays, ne_eq, not_true_eq_false, if_false, awaited,
    World.putChannel_same there, uncalled]

theorem World.finishShutdown_returned (there : world.bus? channel = some bus) (tasks : List Nat) :
    World.finishShutdown channel stages (.returned tasks) world = (.returned tasks, world) := by
  cases stages with
  | zero => rfl
  | succ stages =>
      rw [World.finishShutdown]
      simp only [there, Bus.Shutdown.proceed, ne_eq, not_true_eq_false, if_false,
        Bus.Shutdown.awaited?, World.putChannel_same there]

end Stages

/-! ## The shutdown -/

/-- The bus of a channel is where traffic has brought it, and its shutdown has come so far. -/
structure World.Closes (world : World) (channel : Nat) (traffic : Traffic Handler)
    (shutdown : Bus.Shutdown) : Prop extends world.Carries channel traffic where
  stage : traffic.shutdown = some shutdown

section Closes
variable {channel : Nat} {world : World} {traffic : Traffic Handler} {shutdown : Bus.Shutdown}

/-- The subscribers go on while a shutdown waits. -/
theorem World.Closes.rides {after : World} (closes : world.Closes channel traffic shutdown)
    (rides : Rides channel world after) :
    ∃ moves : List (Traffic.Move Handler),
      after.Closes channel (moves.foldl Traffic.step traffic) shutdown := by
  obtain ⟨moves, carries, same⟩ := rides.shutdown closes.toCarries
  exact ⟨moves, carries, same.trans closes.stage⟩

/-- A shutdown goes on by one stage. -/
theorem World.Closes.proceed (closes : world.Closes channel traffic shutdown) :
    (world.putChannel channel (.memory (shutdown.proceed traffic.bus).2)).Closes channel
      (traffic.step .proceed) (shutdown.proceed traffic.bus).1 := by
  have stepped : traffic.step .proceed = { traffic with
      bus := (shutdown.proceed traffic.bus).2
      shutdown := some (shutdown.proceed traffic.bus).1 } := by
    simp only [Traffic.step, closes.stage]
  rw [stepped]
  exact ⟨⟨bus?_putChannel closes.bus _, closes.nothing_pending, closes.all_registered⟩, rfl⟩

/-- However long a world waits for the end of a shutdown, the shutdown is one of traffic. -/
theorem closes_finishShutdown (stages : Nat) (closes : world.Closes channel traffic shutdown) :
    ∃ moves : List (Traffic.Move Handler),
      (World.finishShutdown channel stages shutdown world).2.Closes channel
        (moves.foldl Traffic.step traffic)
        (World.finishShutdown channel stages shutdown world).1 := by
  induction stages generalizing world traffic shutdown with
  | zero => exact ⟨[], closes⟩
  | succ stages ih =>
      have goes_on := closes.proceed
      rw [World.finishShutdown]
      simp only [closes.bus]
      generalize world.putChannel channel (.memory (shutdown.proceed traffic.bus).2) = next at *
      -- One move to go on, and then those that are made while the world waits.
      have behind {later : World} {stage : Bus.Shutdown}
          (closes : ∃ moves : List (Traffic.Move Handler),
            later.Closes channel (moves.foldl Traffic.step (traffic.step .proceed)) stage) :
          ∃ moves : List (Traffic.Move Handler),
            later.Closes channel (moves.foldl Traffic.step traffic) stage := by
        obtain ⟨moves, arrived⟩ := closes
        exact ⟨.proceed :: moves, arrived⟩
      split
      · exact behind (ih goes_on)
      · rename_i same
        rw [not_not.mp same] at goes_on
        split
        · exact behind ⟨[], goes_on⟩
        · have waited {later : World} (rides : Rides channel next later) :
              ∃ moves : List (Traffic.Move Handler),
                (World.finishShutdown channel stages shutdown later).2.Closes channel
                  (moves.foldl Traffic.step (traffic.step .proceed))
                  (World.finishShutdown channel stages shutdown later).1 := by
            obtain ⟨earlier, there⟩ := goes_on.rides rides
            obtain ⟨moves, arrived⟩ := ih there
            exact ⟨earlier ++ moves, by rwa [List.foldl_append]⟩
          have settled := (World.spans_rides channel).settle next
          split
          · exact behind (waited settled)
          · exact behind (waited (settled.trans ((World.spans_rides channel).waitUntil _ _)))

theorem World.shutDown_of_bus {bus : Bus.Memory Handler}
    (there : world.bus? world.current = some bus) :
    world.shutDown =
      let outcome := World.finishShutdown world.current (World.shutdownStages bus) .called
        ((world.putChannel world.current (.memory bus.shutDown)).rouseSubscribers world.current
          (fun _ => true) bus.subscriptions)
      (some outcome.1, outcome.2) := by
  obtain ⟨ready, roused⟩ :=
    (world.putChannel world.current (.memory bus.shutDown)).rouseSubscribers_eq
      world.current (fun _ => true) bus.subscriptions
  simp only [World.shutDown, there, roused]
  rfl

/-- The shutdown of the bus in use is one of traffic, and comes as far as the world says. -/
theorem closes_shutDown (carries : world.Carries world.current traffic)
    (uncalled : traffic.shutdown = none) :
    ∃ (moves : List (Traffic.Move Handler)) (shutdown : Bus.Shutdown),
      world.shutDown.1 = some shutdown ∧
      world.shutDown.2.Closes world.current ((.shutDown :: moves).foldl Traffic.step traffic)
        shutdown := by
  have called : traffic.step .shutDown = { traffic with
      bus := traffic.bus.shutDown, shutdown := some .called } := by
    simp only [Traffic.step, uncalled]
  obtain ⟨ready, roused⟩ :=
    (world.putChannel world.current (.memory traffic.bus.shutDown)).rouseSubscribers_eq
      world.current (fun _ => true) traffic.bus.subscriptions
  have closes : World.Closes
      { world.putChannel world.current (.memory traffic.bus.shutDown) with ready }
      world.current (traffic.step .shutDown) .called := by
    rw [called]
    exact ⟨⟨World.bus?_putChannel carries.bus _, carries.nothing_pending, carries.all_registered⟩,
      rfl⟩
  obtain ⟨moves, arrived⟩ := closes_finishShutdown (World.shutdownStages traffic.bus) closes
  rw [World.shutDown_of_bus carries.bus, roused]
  exact ⟨moves, _, rfl, arrived⟩

end Closes

/-- The bus in use was empty once, and whatever was done since then, it is traffic.  When its
shutdown has returned, no handler of a subscriber is in a call, and none is called again. -/
theorem finished_of_shutDown {origin world : World} {settings : Bus.Settings}
    (fresh : origin.bus? world.current = some { settings })
    (done : Relation.ReflTransGen Done origin world) {tasks : List Nat}
    (returned : world.shutDown.1 = some (.returned tasks)) :
    ∃ past later : List (Traffic.Move Handler),
      world.Carries world.current (Traffic.run settings past) ∧
      world.shutDown.2.Carries world.current
        (Traffic.run settings (past ++ .shutDown :: later)) ∧
      ∀ index < (Traffic.run settings past).bus.subscriptions.length,
        (Traffic.run settings (past ++ .shutDown :: later)).Finished index := by
  have empty : origin.Carries world.current (Traffic.run settings []) := ⟨fresh, rfl, rfl⟩
  obtain ⟨past, carries, same⟩ := (rides_of_done done world.current).shutdown empty
  have uncalled : (Traffic.run settings past).shutdown = none := same
  obtain ⟨later, shutdown, stage, closes⟩ := closes_shutDown carries uncalled
  obtain rfl := Option.some.inj (stage.symm.trans returned)
  have run : (.shutDown :: later).foldl Traffic.step (Traffic.run settings past) =
      Traffic.run settings (past ++ .shutDown :: later) := (Traffic.run_append ..).symm
  change World.Closes _ _ ((.shutDown :: later).foldl Traffic.step (Traffic.run settings past)) _
    at closes
  rw [run] at closes
  refine ⟨past, later, carries, closes.toCarries, ?_⟩
  intro index came
  apply Traffic.finished_of_returned
  · rw [Traffic.hasReturned, closes.stage]
    rfl
  · apply Traffic.noted_run settings past
    apply (Traffic.known_run settings past).noted_of_registered
    refine ⟨?_, ?_, ?_⟩
    · simpa [Traffic.subscriber?] using came
    · have registered : (Traffic.run settings past).unregistered = [] := carries.all_registered
      rw [registered]
      exact List.not_mem_nil
    · rw [uncalled]
      rfl

end Outbox.Simulation
