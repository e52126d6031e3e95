import Outbox.Simulation.Actions

/-!
# What holds of each turn holds of all waiting

While a world waits, one task goes on after the other, those who let others go first become ready
again, and time passes.  A relation between worlds that holds of each of these, and of what is done
one after the other, holds of the whole time that a world waits.
-/

set_option autoImplicit false

namespace Outbox.Simulation

/-- The relation holds of each single thing that happens while a world waits, and of several of them
one after the other. -/
structure Spans (related : World → World → Prop) : Prop where
  refl : ∀ world, related world world
  trans : ∀ {world next after}, related world next → related next after → related world after
  wake : ∀ (world : World) (task : Task) (others : List Task), world.ready = task :: others →
    related world (({ world with ready := others } : World).refresh.wake task)
  callBack : ∀ world : World, related world world.callBack
  passTo : ∀ (world : World) (moment : Nat), related world (world.passTo moment)

namespace Spans

variable {related : World → World → Prop}

theorem wakeMany (spans : Spans related) (count : Nat) (world : World) :
    related world (World.wakeMany count world) := by
  induction count generalizing world with
  | zero => exact spans.refl world
  | succ count ih =>
      have first : related world world.wakeFirst := by
        unfold World.wakeFirst
        split
        · exact spans.refl world
        · rename_i task others ready
          exact spans.wake world task others ready
      exact spans.trans first (ih _)

theorem playRound (spans : Spans related) (world : World) : related world world.playRound :=
  spans.trans (spans.wakeMany tasksPerRound world) (spans.callBack _)

theorem playRounds (spans : Spans related) (rounds : Nat) (world : World) :
    related world (World.playRounds rounds world) := by
  induction rounds generalizing world with
  | zero => exact spans.refl world
  | succ rounds ih =>
      rw [World.playRounds]
      split
      · exact spans.refl world
      · exact spans.trans (spans.playRound world) (ih _)

/-- All that happens at one moment. -/
theorem settle (spans : Spans related) (world : World) : related world world.settle :=
  spans.trans (spans.playRounds _ world) (spans.playRounds _ _)

theorem passBefore (spans : Spans related) (limit moments : Nat) (world : World) :
    related world (World.passBefore limit moments world) := by
  induction moments generalizing world with
  | zero => exact spans.refl world
  | succ moments ih =>
      have settled := spans.settle world
      rw [World.passBefore]
      split
      · exact settled
      · rename_i due _
        split
        · exact spans.trans (spans.trans settled (spans.passTo _ due)) (ih _)
        · exact settled

/-- All that happens up to a moment. -/
theorem waitUntil (spans : Spans related) (moment : Nat) (world : World) :
    related world (world.waitUntil moment) := by
  unfold World.waitUntil
  split
  · exact spans.refl world
  · exact spans.trans (spans.passBefore moment _ world) (spans.passTo _ moment)

theorem advance (spans : Spans related) (milliseconds : Nat) (world : World) :
    related world (world.advance milliseconds) :=
  spans.trans (spans.waitUntil _ world) (spans.settle _)

/-- All that happens until a worker has stopped that was cancelled. -/
theorem awaitWorker (spans : Spans related) (index rounds : Nat) (world : World) :
    related world (world.awaitWorker index rounds) := by
  induction rounds generalizing world with
  | zero => exact spans.refl world
  | succ rounds ih =>
      have settled := spans.settle world
      rw [World.awaitWorker]
      split
      · exact settled
      · exact spans.trans (spans.trans settled (spans.waitUntil _ _)) (ih _)

end Spans

end Outbox.Simulation
