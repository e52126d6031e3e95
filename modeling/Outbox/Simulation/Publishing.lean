import Outbox.Simulation.Delivery

/-!
# Publishing

Iterations at work: an iteration goes on until it has ended or waits for a publication.  A wait that
is over at once is a step like any other: an iteration waits even for it when no step is left.
-/

set_option autoImplicit false

namespace Outbox.Simulation

open Publisher (Iteration)

/-- When a waiting iteration goes on, unless it has ended or never does. -/
def Progress.due? : Progress → Option Nat
  | .waiting publication => publication.ending.map Prod.fst
  | .ended _ => none

namespace World

/-- A response that comes at once takes no step, and any other takes one. -/
def spendOn? (world : World) : Publisher.Response → Option World
  | .after 0 _ => some world
  | _ => if world.steps = 0 then none else some world.spend

def proceed (settings : Publisher.Settings) (channel : Nat) (world : World)
    (iteration : Iteration) : Progress × World :=
  match _ : iteration.action settings.batchSize with
  | .stop result => (.ended result, world)
  | .call call =>
    let (injected, world) := world.trace call
    let next := iteration.perform settings.batchSize world.clock injected world.main
    proceed settings channel (world.putStore next.2) next.1
  | .publish topic event =>
    let (response, world) := world.send channel topic event
    match response.within settings.publishTimeout, world.spendOn? response with
    | some (0, result), some world =>
      let next := iteration.answer result
      proceed settings channel (world.count next.2) next.1
    | ending, _ =>
      let ending := ending.map fun after => (world.now + after.1, after.2)
      (.waiting ⟨iteration, ending⟩, world)
termination_by iteration.rank
decreasing_by
  · exact Iteration.perform_nearer ‹_› _ _ _
  · exact Iteration.answer_nearer ‹_› _

/-- An iteration goes on if its publication has ended. -/
def resume (settings : Publisher.Settings) (channel : Nat) (world : World)
    (publication : Publication) : Progress × World :=
  match publication.ending with
  | none => (.waiting publication, world)
  | some (due, result) =>
    if world.now < due then (.waiting publication, world)
    else
      let (iteration, increments) := publication.iteration.answer result
      proceed settings channel (world.spend.count increments) iteration

end World

end Outbox.Simulation
