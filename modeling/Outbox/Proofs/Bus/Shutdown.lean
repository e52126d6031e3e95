import Outbox.Proofs.Bus.Atomic
import Outbox.Proofs.Bus.Tasks

/-!
# Shutdown

The calls for a subscriber of a bus that was shut down are those that there would have been without
the shutdown, cut off behind an event, if its handler answers them in the same way.  What is asked
of the bus after the call of the shutdown is turned away.  The shutdown returns, and then there are
no more calls for the subscribers that it waited for.

Two things do not hold.  A handler that serves two subscribers and answers by all its calls may
answer otherwise where the calls for the other subscriber are missing.  And a subscriber at work
whose task the bus takes note of after the shutdown has taken the tasks goes on after its return.
-/

set_option autoImplicit false

namespace Outbox.Bus

variable {Handler : Type}

namespace Subscription

variable {subscription : Subscription Handler} {limit : Nat} {begun : List Bytes}
  {calls : List Handed}

/-- What a handler was called with so far begins the calls for the same events and more. -/
theorem Stands.isPrefix {behaviour : List Handed → Bytes → Bool} {more : List Bytes}
    {full : List Handed} (stands : subscription.Stands limit begun calls)
    (follows : Follows behaviour calls) (trace : Trace limit (begun ++ more) full)
    (full_follows : Follows behaviour full) : calls <+: full := by
  cases stands with
  | free _ own =>
      obtain ⟨rest, rfl, _⟩ := own.continues follows trace full_follows
      exact List.prefix_append _ _
  | busy _ allowed own =>
      rw [List.append_assoc, List.singleton_append] at trace
      exact own.refused_isPrefix allowed follows trace full_follows

end Subscription

namespace Traffic

/-! ## Without the shutdown -/

/-- Traffic without a shutdown in which the same requests have taken effect, and more, and nothing
waits for a subscriber any more.  The handler has a behaviour for the calls of this subscriber. -/
structure Undisturbed (settings : Settings) (traffic : Traffic Handler) (index : Nat)
    (behaviour : List Handed → Bytes → Bool) (more : List (Request Handler))
    (other : List (Move Handler)) : Prop where
  opened : .shutDown ∉ other
  performed : (run settings other).performed = traffic.performed ++ more
  drained : ∃ subscription, (run settings other).subscriber? index = some subscription ∧
    subscription.waiting = []
  follows : Follows behaviour ((run settings other).calls index)

section Undisturbed
variable {settings : Settings} {traffic : Traffic Handler} {index : Nat}
  {subscription : Subscription Handler} {behaviour : List Handed → Bytes → Bool}
  {more : List (Request Handler)} {other : List (Move Handler)}

theorem uncalled_of_opened (settings : Settings) {history : List (Move Handler)}
    (opened : .shutDown ∉ history) : (run settings history).shutdown = none := by
  induction history using List.reverseRecOn with
  | nil => rfl
  | append_singleton past move ih =>
      rw [List.mem_append, List.mem_singleton, not_or] at opened
      have uncalled := ih opened.1
      rw [run_concat]
      cases move with
      | shutDown => exact absurd rfl opened.2
      | perform position =>
          simp only [step]
          split
          · exact uncalled
          · rename_i request _
            cases request <;> exact uncalled
      | look _ => exact uncalled
      | take _ => exact uncalled
      | proceed =>
          simp only [step, uncalled]
      | _ =>
          simp only [step]
          split <;> exact uncalled

/-- Where nothing waits for a subscriber of an open bus, all that is meant for it is settled. -/
theorem trace_of_waiting (sound : traffic.Sound settings) (uncalled : traffic.shutdown = none)
    (there : traffic.subscriber? index = some subscription) (nothing : subscription.waiting = []) :
    Trace settings.maxRedeliveries (meant settings traffic.taken subscription.topic index)
      (traffic.calls index) := by
  obtain ⟨begun, missed, stands, same, whole⟩ := (sound.attended index subscription there).stands
  simp only [Subscription.waiting, List.append_eq_nil_iff, Option.toList_eq_nil_iff,
    Option.map_eq_none_iff] at nothing
  rw [same, nothing.2, whole (sound.opened uncalled _ (List.mem_of_getElem? there)),
    List.append_nil, List.append_nil]
  exact stands.trace nothing.1

theorem taken_append {after : Traffic Handler}
    (performed : after.performed = traffic.performed ++ more) :
    after.taken = traffic.taken ++ more.map Request.move := by
  rw [taken, performed, List.map_append, taken]

theorem newcomers_append_left {past : List (Bus.Move Handler)}
    (came : index < (newcomers past).length) (later : List (Bus.Move Handler)) :
    (newcomers (past ++ later))[index]? = (newcomers past)[index]? := by
  rw [newcomers, List.filterMap_append]
  exact List.getElem?_append_left came

/-- The calls for a subscriber without the shutdown settle what was meant for it, and what was
published on top of that. -/
theorem Undisturbed.trace (undisturbed : Undisturbed settings traffic index behaviour more other)
    (sound : traffic.Sound settings) (there : traffic.subscriber? index = some subscription) :
    Trace settings.maxRedeliveries
      (meant settings traffic.taken subscription.topic index ++
        published subscription.topic (more.map Request.move))
      ((run settings other).calls index) := by
  obtain ⟨opened, performed, ⟨later, later_there, nothing⟩, _⟩ := undisturbed
  have later_sound := sound_run settings other
  have taken := taken_append performed
  have came := later_sound.came_of_subscriber later_there
  rw [taken, newcomers_append_left (sound.index_lt there), sound.came_of_subscriber there] at came
  have same_topic : subscription.topic = later.topic :=
    congrArg Prod.fst (Option.some.inj came)
  have trace :=
    trace_of_waiting later_sound (uncalled_of_opened settings opened) later_there nothing
  rwa [taken, meant_append settings (sound.index_lt there), ← same_topic] at trace

theorem requests_map_move (requests : List (Request Handler)) :
    Bus.requests (requests.map Request.move) = requests.map Request.move := by
  rw [Bus.requests, List.filter_eq_self]
  intro move member
  obtain ⟨request, _, rfl⟩ := List.mem_map.mp member
  cases request <;> rfl

theorem move_injective :
    Function.Injective (Request.move : Request Handler → Bus.Move Handler) := by
  intro first second same
  cases first <;> cases second <;> cases same <;> rfl

theorem steps_opened {history : List (Bus.Move Handler)} (opened : .shutDown ∉ history) :
    .shutDown ∉ history.flatMap Bus.Move.steps := by
  intro member
  obtain ⟨move, there, among⟩ := List.mem_flatMap.mp member
  cases move with
  | shutDown => exact opened there
  | _ => simp [Bus.Move.steps] at among

theorem requests_nextMoves (count : Nat) (observed : Observed Handler) :
    requests (Observed.nextMoves behaviour index count observed) = [] := by
  apply List.filter_eq_nil_iff.mpr
  intro move member
  rcases Observed.isOf_of_mem_nextMoves member with rfl | ⟨accepted, rfl⟩ <;>
    simp [Bus.Move.isRequest]

/-- There is such traffic, whatever else is asked of the bus. -/
theorem exists_undisturbed (sound : traffic.Sound settings)
    (there : traffic.subscriber? index = some subscription)
    (behaviour : List Handed → Bytes → Bool) (more : List (Request Handler)) :
    ∃ other, Undisturbed settings traffic index behaviour more other := by
  let asked := (traffic.performed ++ more).map Request.move
  have only_requests : requests asked = asked := requests_map_move _
  have opened : .shutDown ∉ asked := by
    rw [← only_requests]
    simp [requests, Bus.Move.isRequest]
  have came : (newcomers asked)[index]? = some (subscription.topic, subscription.handler) := by
    simp only [asked, List.map_append]
    exact (newcomers_append_left (sound.index_lt there) _).trans (sound.came_of_subscriber there)
  obtain ⟨newest, newest_there, _⟩ :=
    (Observed.sound_run settings opened).subscriber_of_came came
  have uncalled : (Observed.run settings asked).calls index = [] := by
    have silent := Observed.calls_requests (Observed.start settings) asked
    rw [only_requests] at silent
    exact congrFun silent index
  let moves := Observed.nextMoves behaviour index (newest.effort settings.maxRedeliveries)
    (Observed.run settings asked)
  obtain ⟨last, last_there, _, nothing⟩ := Observed.drained_after opened newest_there behaviour
  have follows : Follows behaviour ((Observed.run settings (asked ++ moves)).calls index) := by
    rw [Observed.run_append]
    apply Observed.follows_nextMoves
    rw [uncalled]
    trivial
  have all_opened : .shutDown ∉ asked ++ moves := by
    intro member
    rcases List.mem_append.mp member with request | own
    · exact opened request
    · rcases Observed.isOf_of_mem_nextMoves own with next | ⟨accepted, answer⟩
      · cases next
      · cases answer
  have mirrors := mirrors_run settings (asked ++ moves)
  have taken := mirrors.taken
    (mirrors.bus ▸ (Observed.sound_run settings all_opened).opened)
  have nothing_more : requests moves = [] := requests_nextMoves _ _
  refine ⟨(asked ++ moves).flatMap Bus.Move.steps, steps_opened all_opened, ?_, ?_, ?_⟩
  · apply List.map_injective_iff.mpr move_injective
    refine taken.trans ?_
    rw [requests, List.filter_append, ← requests, ← requests, only_requests, nothing_more,
      List.append_nil]
  · rw [subscriber?, mirrors.bus]
    exact ⟨last, last_there, nothing⟩
  · rwa [mirrors.calls]

end Undisturbed

/-! ## Shutdowns -/

/-- How the calls for a subscriber end. -/
structure CutShort (settings : Settings) (traffic : Traffic Handler) (index : Nat)
    (subscription : Subscription Handler) (behaviour : List Handed → Bytes → Bool) : Prop where
  comparable : ∀ more, ∃ other, Undisturbed settings traffic index behaviour more other
  begins : ∀ more other, Undisturbed settings traffic index behaviour more other →
    traffic.calls index <+: (run settings other).calls index
  /-- The calls for a subscriber that has left settle all events that it has begun with, and nothing
  else.  The calls for the other events that were meant for it are missing. -/
  between_events : subscription.ended = true → ∃ begun rest,
    meant settings traffic.taken subscription.topic index = begun ++ rest ∧
    Trace settings.maxRedeliveries begun (traffic.calls index) ∧
    ∀ more other, Undisturbed settings traffic index behaviour more other →
      ∃ missing, (run settings other).calls index = traffic.calls index ++ missing ∧
        Trace settings.maxRedeliveries
          (rest ++ published subscription.topic (more.map Request.move)) missing

theorem Sound.cutShort {settings : Settings} {traffic : Traffic Handler}
    (sound : traffic.Sound settings) {index : Nat} {subscription : Subscription Handler}
    (there : traffic.subscriber? index = some subscription)
    {behaviour : List Handed → Bytes → Bool} (follows : Follows behaviour (traffic.calls index)) :
    CutShort settings traffic index subscription behaviour where
  comparable := exists_undisturbed sound there behaviour
  begins := by
    intro more other undisturbed
    obtain ⟨begun, missed, stands, same, _⟩ := (sound.attended index subscription there).stands
    have full := undisturbed.trace sound there
    rw [same, List.append_assoc] at full
    exact stands.isPrefix follows full undisturbed.follows
  between_events := by
    intro ended
    obtain ⟨begun, rest, same, trace⟩ := (sound.attended index subscription there).trace ended
    refine ⟨begun, rest, same, trace, ?_⟩
    intro more other undisturbed
    have full := undisturbed.trace sound there
    rw [same, List.append_assoc] at full
    exact trace.continues follows full undisturbed.follows

/-- After the call of a shutdown every subscriber carries on with the event in its hand, or with one
that it was about to take, and leaves.  The calls for it are cut short between two events, and a
subscriber that came too late has none.  The shutdown returns, and the handlers are not called any
more for those whose requests were done when it took the tasks.  What is asked of the bus is turned
away, and nothing comes of it. -/
theorem shutDown_cuts_between_events (settings : Settings) (before after : List (Move Handler)) :
    (∀ index subscription behaviour,
      (run settings (before ++ .shutDown :: after)).subscriber? index = some subscription →
      Follows behaviour ((run settings (before ++ .shutDown :: after)).calls index) →
      CutShort settings (run settings (before ++ .shutDown :: after)) index subscription
        behaviour) ∧
    (∀ index earlier, (run settings before).subscriber? index = some earlier →
      ∃ later, (run settings (before ++ .shutDown :: after)).subscriber? index = some later ∧
        earlier.Finishes settings.maxRedeliveries ((run settings before).calls index) later
          ((run settings (before ++ .shutDown :: after)).calls index)) ∧
    (∀ index, (run settings before).subscriber? index = none →
      (run settings (before ++ .shutDown :: after)).calls index = [] ∧
      ∀ subscription,
        (run settings (before ++ .shutDown :: after)).subscriber? index = some subscription →
        subscription.inHand = none) ∧
    (∀ behaviours, (run settings (before ++ .shutDown :: after)).Behaves behaviours →
      ∃ moves : List (Move Handler),
        (∀ move ∈ moves, move = .proceed ∨
          ∃ index ∈ (run settings (before ++ .shutDown :: after)).noted, move.IsOf index) ∧
        (run settings (before ++ .shutDown :: (after ++ moves))).hasReturned = true ∧
        (run settings (before ++ .shutDown :: (after ++ moves))).Behaves behaviours) ∧
    ((run settings (before ++ .shutDown :: after)).hasReturned = true →
      ∀ past index, past <+: before ++ .shutDown :: after →
        (run settings past).Registered index →
        (run settings (before ++ .shutDown :: after)).Finished index) ∧
    (∀ topic event, (run settings (before ++ .shutDown :: after)).bus.publish topic event =
      .error (.eventBus "in-memory bus is shut down")) ∧
    (∀ topic handler, (run settings (before ++ .shutDown :: after)).bus.subscribe topic handler =
      .error (.eventBus "in-memory bus is shut down")) ∧
    ∀ request, run settings (before ++ .shutDown :: (after ++ [.ask request])) =
      { run settings (before ++ .shutDown :: after) with
        refused := (run settings (before ++ .shutDown :: after)).refused ++ [request] } := by
  have sound := sound_run settings (before ++ .shutDown :: after)
  have closing := closing_run settings before after
  have later (more : List (Move Handler)) : before ++ .shutDown :: (after ++ more) =
      before ++ .shutDown :: after ++ more := by rw [List.append_assoc, List.cons_append]
  refine ⟨?_, closing.finishes, ?_, ?_, ?_, Memory.publish_closed closing.closed,
    Memory.subscribe_closed closing.closed, ?_⟩
  · intro index subscription behaviour there follows
    exact sound.cutShort there follows
  · intro index absent
    obtain ⟨silent, rest⟩ := closing.newcomers index absent
    exact ⟨silent, fun subscription there => (rest subscription there).1⟩
  · intro behaviours behaves
    have called := sound.closed.symm.trans closing.closed
    simp only [later]
    exact returns settings (before ++ .shutDown :: after) called behaves
  · intro returned past index begins registered
    obtain ⟨rest, same⟩ := begins
    have noted := (known_run settings past).noted_of_registered registered
    have still := noted_run settings past rest noted
    rw [same] at still
    exact finished_of_returned settings returned still
  · intro request
    rw [later, run_concat]
    simp only [step, Memory.ensureOpen_closed closing.closed]

/-- Two subscribers of a bus that hands a refused event over once more.  The first has an event in
hand that it refused, and another one in its queue; the second is about to take its first. -/
def busyHistory : List (Move Unit) :=
  [.ask (.subscribe "fruit" ()), .perform 0, .register 0, .ask (.subscribe "fruit" ()), .perform 0,
    .ask (.publish "fruit" [1]), .perform 0, .register 0, .ask (.publish "fruit" [2]), .perform 0,
    .look 0, .take 0, .answer 0 false, .look 1]

def lateHistory : List (Move Unit) :=
  [.ask (.publish "fruit" [3]), .proceed, .take 1, .proceed, .answer 0 true, .answer 1 true,
    .look 1, .proceed, .look 0, .proceed, .proceed, .proceed]

/-- Each subscriber settles one event and leaves the other one.  Then the shutdown returns. -/
theorem busyHistory_is_cut_short :
    CutShort { maxRedeliveries := 1 }
      (run { maxRedeliveries := 1 } (busyHistory ++ .shutDown :: lateHistory)) 0
      { topic := "fruit", handler := (), queue := [[2]], listed := false, ended := true }
      (fun calls _ => !calls.isEmpty) ∧
    (run { maxRedeliveries := 1 } (busyHistory ++ .shutDown :: lateHistory)).calls 0 =
      [⟨[1], false⟩, ⟨[1], true⟩] ∧
    (run { maxRedeliveries := 1 } (busyHistory ++ .shutDown :: lateHistory)).calls 1 =
      [⟨[1], true⟩] ∧
    (run { maxRedeliveries := 1 } (busyHistory ++ .shutDown :: lateHistory)).Finished 0 ∧
    (run { maxRedeliveries := 1 } (busyHistory ++ .shutDown :: lateHistory)).Finished 1 := by
  obtain ⟨cut, _, _, _, returned, _⟩ :=
    shutDown_cuts_between_events { maxRedeliveries := 1 } busyHistory lateHistory
  have finished := returned rfl busyHistory
  exact ⟨cut 0 _ _ rfl ⟨rfl, rfl, trivial⟩, rfl, rfl,
    finished 0 (List.prefix_append _ _) ⟨rfl, List.not_mem_nil, rfl⟩,
    finished 1 (List.prefix_append _ _) ⟨rfl, List.not_mem_nil, rfl⟩⟩

/-! ## What a shutdown does not keep -/

/-- Two subscribers with one handler, each with an event in hand.  The second has another one in its
queue. -/
def sharedHistory : List (Move Unit) :=
  [.ask (.subscribe "fruit" ()), .perform 0, .register 0, .ask (.subscribe "stone" ()), .perform 0,
    .register 0, .ask (.publish "stone" [1]), .perform 0, .ask (.publish "stone" [2]), .perform 0,
    .look 1, .take 1, .answer 1 false, .ask (.publish "fruit" [7]), .perform 0, .look 0, .take 0]

/-- With a shutdown the second subscriber leaves after its first event. -/
def cutHistory : List (Move Unit) :=
  [.answer 1 false, .look 1, .answer 0 false, .answer 0 false, .look 0]

/-- Without it the second subscriber goes on between the calls for the first. -/
def wholeHistory : List (Move Unit) :=
  [.answer 1 false, .look 1, .take 1, .answer 0 false, .answer 1 false, .answer 0 true,
    .answer 1 true]

/-- A handler that refuses the first four calls that it has, for whomever they are. -/
def refusesFour (calls : List Handed) (_event : Bytes) : Bool :=
  decide (4 ≤ calls.length)

/-- The subscriber is at work before the bus takes note of its task, and meanwhile the bus is shut
down. -/
def lateTaskHistory : List (Move Unit) :=
  [.ask (.publish "fruit" [1]), .perform 0, .ask (.subscribe "fruit" ()), .perform 0, .look 0,
    .take 0, .shutDown, .proceed, .proceed, .proceed]

/-- A handler that serves two subscribers is called for the first as it would not have been without
the shutdown.  And a shutdown returns while a handler is in a call, which is called again after. -/
theorem sharedHandler_and_lateTask_escape :
    (Follows refusesFour
        ((run { maxRedeliveries := 1 } (sharedHistory ++ .shutDown :: cutHistory)).answers.map
          Prod.snd) ∧
      Follows refusesFour
        ((run { maxRedeliveries := 1 } (sharedHistory ++ wholeHistory)).answers.map Prod.snd) ∧
      .shutDown ∉ sharedHistory ++ wholeHistory ∧
      (run { maxRedeliveries := 1 } (sharedHistory ++ wholeHistory)).performed =
        (run { maxRedeliveries := 1 } (sharedHistory ++ .shutDown :: cutHistory)).performed ∧
      (∀ subscription ∈
          (run { maxRedeliveries := 1 } (sharedHistory ++ wholeHistory)).bus.subscriptions,
        subscription.waiting = []) ∧
      ¬(run { maxRedeliveries := 1 } (sharedHistory ++ .shutDown :: cutHistory)).calls 0 <+:
        (run { maxRedeliveries := 1 } (sharedHistory ++ wholeHistory)).calls 0) ∧
    (run {} lateTaskHistory).hasReturned = true ∧
    (run {} lateTaskHistory).calls 0 = [] ∧
    (run {} (lateTaskHistory ++ [.answer 0 false, .answer 0 false])).calls 0 =
      [⟨[1], false⟩, ⟨[1], false⟩] := by
  refine ⟨⟨?_, ?_, ?_, rfl, ?_, ?_⟩, rfl, rfl, rfl⟩
  · exact ⟨rfl, rfl, rfl, rfl, trivial⟩
  · exact ⟨rfl, rfl, rfl, rfl, rfl, rfl, trivial⟩
  · simp [sharedHistory, wholeHistory]
  · intro subscription member
    have both : (run { maxRedeliveries := 1 } (sharedHistory ++ wholeHistory)).bus.subscriptions =
        [{ topic := "fruit", handler := () }, { topic := "stone", handler := () }] := rfl
    rw [both] at member
    simp only [List.mem_cons, List.not_mem_nil, or_false] at member
    rcases member with rfl | rfl <;> rfl
  · have cut : (run { maxRedeliveries := 1 } (sharedHistory ++ .shutDown :: cutHistory)).calls 0 =
        [⟨[7], false⟩, ⟨[7], false⟩] := rfl
    have whole : (run { maxRedeliveries := 1 } (sharedHistory ++ wholeHistory)).calls 0 =
        [⟨[7], false⟩, ⟨[7], true⟩] := rfl
    rw [cut, whole]
    decide

end Traffic

end Outbox.Bus
