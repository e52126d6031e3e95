import Outbox.Proofs.Bus.Atomic
import Outbox.Proofs.Simulation.Rounds

/-!
# Buses of a world are traffic

What a world does to one of its buses in memory is a history of that bus: publications and
subscribers from outside, and subscribers at work.  Every step of a history is traffic.  So whatever
holds of all traffic holds of the buses of a world.
-/

set_option autoImplicit false

namespace Outbox.Simulation

open Bus (Traffic)

/-- The bus of a channel is where traffic has brought it, and every request is done. -/
structure World.Carries (world : World) (channel : Nat) (traffic : Traffic Handler) : Prop where
  bus : world.bus? channel = some traffic.bus
  nothing_pending : traffic.pending = []
  all_registered : traffic.unregistered = []

/-- What happens is, for the bus of a channel, a history without a shutdown. -/
def Rides (channel : Nat) (world after : World) : Prop :=
  ∀ traffic, world.Carries channel traffic → ∃ history : List (Bus.Move Handler),
    .shutDown ∉ history ∧
    after.Carries channel ((history.flatMap Bus.Move.steps).foldl Traffic.step traffic)

section Rides
variable {channel : Nat} {world next after : World}

theorem Rides.of_same (same : after.bus? channel = world.bus? channel) :
    Rides channel world after := by
  intro traffic carries
  exact ⟨[], List.not_mem_nil, same.trans carries.bus, carries.nothing_pending,
    carries.all_registered⟩

theorem Rides.of_channels (same : after.channels = world.channels) : Rides channel world after :=
  .of_same (by rw [World.bus?, same, World.bus?])

theorem Rides.refl (channel : Nat) (world : World) : Rides channel world world :=
  .of_same rfl

theorem Rides.trans (first : Rides channel world next) (second : Rides channel next after) :
    Rides channel world after := by
  intro traffic carries
  obtain ⟨earlier, earlier_opened, there⟩ := first traffic carries
  obtain ⟨later, later_opened, arrived⟩ := second _ there
  refine ⟨earlier ++ later, ?_, ?_⟩
  · rw [List.mem_append, not_or]
    exact ⟨earlier_opened, later_opened⟩
  · rwa [List.flatMap_append, List.foldl_append]

theorem Rides.of_move (move : Bus.Move Handler) (opened : move ≠ .shutDown)
    (carries : ∀ traffic, world.Carries channel traffic →
      after.Carries channel (move.steps.foldl Traffic.step traffic)) :
    Rides channel world after := by
  intro traffic there
  refine ⟨[move], by simpa using Ne.symm opened, ?_⟩
  rw [List.flatMap_cons, List.flatMap_nil, List.append_nil]
  exact carries traffic there

end Rides

namespace World

variable {channel : Nat} {world : World}

theorem lt_of_bus? {bus : Bus.Memory Handler} (there : world.bus? channel = some bus) :
    channel < world.channels.length := by
  unfold bus? at there
  split at there
  · exact (List.getElem?_eq_some_iff.mp ‹_›).1
  · cases there

theorem bus?_putChannel {bus : Bus.Memory Handler} (there : world.bus? channel = some bus)
    (changed : Bus.Memory Handler) :
    (world.putChannel channel (.memory changed)).bus? channel = some changed := by
  rw [bus?, putChannel, List.getElem?_set_self (lt_of_bus? there)]

theorem bus?_putChannel_ne {other : Nat} (different : other ≠ channel) (state : Channel) :
    (world.putChannel other state).bus? channel = world.bus? channel := by
  rw [bus?, putChannel, List.getElem?_set_ne different, bus?]

/-- A subscriber of a bus makes a move. -/
theorem rides_modifyBus {other : Nat} {change : Bus.Memory Handler → Bus.Memory Handler}
    (move : Bus.Move Handler) (opened : move ≠ .shutDown)
    (moves : ∀ traffic : Traffic Handler,
      (move.steps.foldl Traffic.step traffic).bus = change traffic.bus ∧
      (move.steps.foldl Traffic.step traffic).pending = traffic.pending ∧
      (move.steps.foldl Traffic.step traffic).unregistered = traffic.unregistered) :
    Rides channel world (world.modifyBus other change) := by
  unfold modifyBus
  split
  · rename_i bus there
    by_cases same : other = channel
    · subst same
      apply Rides.of_move move opened
      intro traffic carries
      obtain ⟨bus_after, pending, unregistered⟩ := moves traffic
      obtain rfl := Option.some.inj (there.symm.trans carries.bus)
      exact ⟨by rw [bus?_putChannel there, bus_after], pending.trans carries.nothing_pending,
        unregistered.trans carries.all_registered⟩
    · exact .of_same (bus?_putChannel_ne same _)
  · exact .refl channel world

theorem rides_next (world : World) (channel other subscription : Nat) :
    Rides channel world (world.modifyBus other fun bus => bus.next subscription) := by
  apply rides_modifyBus (.next subscription) (by simp)
  intro traffic
  rw [Traffic.steps_next]
  exact ⟨rfl, rfl, rfl⟩

theorem rides_answer (world : World) (channel other subscription : Nat) (accepted : Bool) :
    Rides channel world (world.modifyBus other fun bus => bus.answer subscription accepted) := by
  apply rides_modifyBus (.answer subscription accepted) (by simp)
  intro traffic
  obtain ⟨answers, same⟩ := traffic.steps_answer subscription accepted
  rw [same]
  exact ⟨rfl, rfl, rfl⟩

/-- To send an event to a bus in memory is to publish it, if the bus lets it in. -/
theorem rides_send (world : World) (channel other : Nat) (topic : String) (event : Bytes) :
    Rides channel world (world.send other topic event).2 := by
  unfold send
  split
  · rename_i bus there
    have found : world.bus? other = some bus := by rw [bus?, there]
    split
    · rename_i changed published
      obtain ⟨ready, roused⟩ := (world.putChannel other (.memory changed)).rouseSubscribers_eq
        other (fun subscription => subscription.topic == topic) bus.subscriptions
      rw [roused]
      by_cases same : other = channel
      · subst same
        apply Rides.of_move (.publish topic event) (by simp)
        intro traffic carries
        obtain rfl := Option.some.inj (found.symm.trans carries.bus)
        obtain ⟨opened, rfl⟩ := Bus.Memory.of_publish published
        rw [Traffic.steps_publish_open opened carries.nothing_pending]
        exact ⟨bus?_putChannel found _, carries.nothing_pending, carries.all_registered⟩
      · exact .of_same (bus?_putChannel_ne same _)
    · exact .refl channel world
  · rename_i script there
    by_cases same : other = channel
    · subst same
      -- There is no bus in memory here.
      intro traffic carries
      have missing : world.bus? other = none := by rw [bus?, there]
      cases missing.symm.trans carries.bus
    · exact .of_same (bus?_putChannel_ne same _)
  · exact .refl channel world

end World

end Outbox.Simulation
