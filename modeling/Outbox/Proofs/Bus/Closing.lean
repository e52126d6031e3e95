import Outbox.Proofs.Bus.Traffic

/-!
# After the call of a shutdown

What a move can do to a subscriber is listed once; what holds from the call of a shutdown on is
derived from it.  A subscriber that has an event in hand carries on with it.  One that had just
looked may begin with one more event, and no other begins with anything.  One that has left is not
heard of again.
-/

set_option autoImplicit false

namespace Outbox.Bus

variable {Handler : Type}

namespace Subscription

variable {subscription earlier later after : Subscription Handler} {limit : Nat}
  {calls laterCalls new : List Handed} {isShutDown : Bool}

/-! ## Changes -/

/-- All that a move can do to a subscriber, with the calls that its handler answers thereby. -/
inductive Change (limit : Nat) (isShutDown : Bool) (subscription : Subscription Handler) :
    Subscription Handler → List Handed → Prop where
  | same : Change limit isShutDown subscription subscription []
  | offer (topic : String) (event : Bytes) :
      Change limit isShutDown subscription (subscription.offer topic event) []
  | unlist : Change limit isShutDown subscription subscription.unlist []
  | look : Change limit isShutDown subscription (subscription.look isShutDown) []
  | take : Change limit isShutDown subscription subscription.take []
  | answer {delivery : Delivery} (held : subscription.inHand = some delivery) (accepted : Bool) :
      Change limit isShutDown subscription (subscription.answer limit accepted)
        [⟨delivery.event, accepted⟩]

/-- Nobody who has left comes back. -/
theorem Change.ended (change : subscription.Change limit isShutDown after new)
    (left : subscription.ended = true) : after.ended = true := by
  cases change with
  | same => exact left
  | offer topic event => rwa [ended_offer]
  | unlist => exact left
  | look => exact ended_look isShutDown left
  | take => rwa [ended_take]
  | answer held accepted => rwa [ended_answer]

/-- The subscriber has nothing in hand and is not about to take anything. -/
def AtRest (subscription : Subscription Handler) : Prop :=
  subscription.inHand = none ∧ subscription.looking = false

@[simp] theorem looking_offer (topic : String) (event : Bytes)
    (subscription : Subscription Handler) :
    (subscription.offer topic event).looking = subscription.looking := by
  unfold offer
  split <;> rfl

theorem look_closed (free : subscription.inHand = none) :
    subscription.look true = { subscription with looking := false, ended := true } := by
  simp [Subscription.look, free]

theorem look_busy {delivery : Delivery} (held : subscription.inHand = some delivery)
    (isShutDown : Bool) : subscription.look isShutDown = subscription := by
  simp [Subscription.look, held]

theorem take_unlooked (unlooked : subscription.looking = false) :
    subscription.take = subscription := by
  rcases subscription with ⟨topic, handler, queue, inHand, listed, looking, ended⟩
  obtain rfl : looking = false := unlooked
  cases inHand <;> rfl

/-- On a bus that was shut down, a subscriber at rest stays at rest. -/
theorem Change.atRest (change : subscription.Change limit true after new)
    (rest : subscription.AtRest) : after.AtRest ∧ new = [] := by
  cases change with
  | same => exact ⟨rest, rfl⟩
  | offer topic event =>
      exact ⟨⟨(inHand_offer ..).trans rest.1, (looking_offer ..).trans rest.2⟩, rfl⟩
  | unlist => exact ⟨rest, rfl⟩
  | look =>
      rw [look_closed rest.1]
      exact ⟨⟨rest.1, rfl⟩, rfl⟩
  | take =>
      rw [take_unlooked rest.2]
      exact ⟨rest, rfl⟩
  | answer held accepted =>
      rw [rest.1] at held
      cases held

/-! ## Subscribers of a bus that was shut down -/

/-- How a subscriber stands after a shutdown was called, against how it stood then.  It has begun
with nothing more, or, if it had looked before, with one more event. -/
structure Finishes (limit : Nat) (earlier : Subscription Handler) (calls : List Handed)
    (later : Subscription Handler) (laterCalls : List Handed) : Prop where
  looked : later.looking = true → earlier.looking = true
  stands : ∀ begun, earlier.Stands limit begun calls →
    ∃ more, later.Stands limit (begun ++ more) laterCalls ∧ more.length ≤ 1 ∧
      (more ≠ [] → earlier.looking = true ∧ later.looking = false)

theorem finishes_self (limit : Nat) (subscription : Subscription Handler) (calls : List Handed) :
    Finishes limit subscription calls subscription calls where
  looked := id
  stands := fun begun stands => ⟨[], by rwa [List.append_nil], Nat.zero_le 1, absurd rfl⟩

/-- A change that leaves the event in hand as it is, and does not make the subscriber look. -/
theorem Finishes.kept (finishes : earlier.Finishes limit calls later laterCalls)
    (same_hand : after.inHand = later.inHand)
    (looked : after.looking = true → later.looking = true) :
    earlier.Finishes limit calls after laterCalls where
  looked := fun looking => finishes.looked (looked looking)
  stands := by
    intro begun stands
    obtain ⟨more, later_stands, one, once⟩ := finishes.stands begun stands
    refine ⟨more, later_stands.congr same_hand, one, ?_⟩
    intro begins
    obtain ⟨looking, unlooking⟩ := once begins
    refine ⟨looking, ?_⟩
    cases again : after.looking with
    | false => rfl
    | true => exact absurd (unlooking ▸ looked again) Bool.false_ne_true

theorem Finishes.take (finishes : earlier.Finishes limit calls later laterCalls) :
    earlier.Finishes limit calls later.take laterCalls := by
  unfold Subscription.take
  split
  · rename_i event queue unheld looking queued
    refine ⟨by rintro ⟨⟩, ?_⟩
    intro begun stands
    obtain ⟨more, later_stands, _, once⟩ := finishes.stands begun stands
    -- It has begun with nothing more so far, for it still looks.
    obtain rfl : more = [] := by
      by_contra begins
      rw [(once begins).2] at looking
      cases looking
    rw [List.append_nil] at later_stands
    have taken := @Stands.busy _ limit
      { later with looking := false, queue := queue, inHand := some { event } } _ _
      { event } rfl (Nat.zero_le limit) (later_stands.trace unheld)
    rw [refused, List.replicate_zero, List.append_nil] at taken
    exact ⟨[event], taken, Nat.le_refl 1, fun _ => ⟨finishes.looked looking, rfl⟩⟩
  · exact finishes.kept rfl (by rintro ⟨⟩)

theorem Finishes.answer (finishes : earlier.Finishes limit calls later laterCalls)
    {delivery : Delivery} (held : later.inHand = some delivery) (accepted : Bool) :
    earlier.Finishes limit calls (later.answer limit accepted)
      (laterCalls ++ [⟨delivery.event, accepted⟩]) := by
  obtain ⟨inHand, same⟩ := exists_inHand_answer limit accepted later
  have looking : (later.answer limit accepted).looking = later.looking := by rw [same]
  refine ⟨fun looked => finishes.looked (looking ▸ looked), ?_⟩
  intro begun stands
  obtain ⟨more, later_stands, one, once⟩ := finishes.stands begun stands
  rw [looking]
  exact ⟨more, later_stands.answer held accepted, one, once⟩

theorem Change.finishes (change : later.Change limit true after new)
    (finishes : earlier.Finishes limit calls later laterCalls) :
    earlier.Finishes limit calls after (laterCalls ++ new) := by
  cases change with
  | answer held accepted => exact finishes.answer held accepted
  | same =>
      rw [List.append_nil]
      exact finishes
  | offer topic event =>
      rw [List.append_nil]
      exact finishes.kept (inHand_offer ..) (looking_offer topic event later ▸ id)
  | unlist =>
      rw [List.append_nil]
      exact finishes.kept rfl id
  | look =>
      rw [List.append_nil]
      apply finishes.kept (inHand_look ..)
      cases held : later.inHand with
      | none =>
          rw [look_closed held]
          rintro ⟨⟩
      | some delivery =>
          rw [look_busy held]
          exact id
  | take =>
      rw [List.append_nil]
      exact finishes.take

end Subscription

namespace Traffic

variable {settings : Settings} {traffic : Traffic Handler}

/-! ## Moves, seen from one subscriber -/

section Moves
variable {move : Move Handler} {index : Nat} {subscription : Subscription Handler}

theorem getElem?_modify (bus : Memory Handler) (index : Nat)
    (change : Subscription Handler → Subscription Handler) (other : Nat) :
    (bus.modify index change).subscriptions[other]? =
      if index = other then bus.subscriptions[other]?.map change
      else bus.subscriptions[other]? := by
  rw [Memory.modify, List.getElem?_modify]
  by_cases own : index = other <;> simp [own]

/-- A move of a subscriber is a change of this one, and none of the others. -/
theorem exists_change_modify {isShutDown : Bool} {limit : Nat} {changed : Nat}
    {change : Subscription Handler → Subscription Handler} {new : List Handed}
    (there : traffic.subscriber? index = some subscription)
    (own : changed = index → subscription.Change limit isShutDown (change subscription) new) :
    ∃ after, (traffic.bus.modify changed change).subscriptions[index]? = some after ∧
      subscription.Change limit isShutDown after (if changed = index then new else []) := by
  rw [subscriber?] at there
  rw [getElem?_modify, there]
  by_cases same : changed = index
  · rw [if_pos same, if_pos same]
    exact ⟨_, rfl, own same⟩
  · rw [if_neg same, if_neg same]
    exact ⟨_, rfl, .same⟩

theorem exists_change_proceed {isShutDown : Bool} {limit : Nat} (shutdown : Shutdown)
    (there : traffic.subscriber? index = some subscription) :
    ∃ after, (shutdown.proceed traffic.bus).2.subscriptions[index]? = some after ∧
      subscription.Change limit isShutDown after [] := by
  rw [subscriber?] at there
  cases shutdown with
  | called =>
      exact ⟨subscription.unlist, by simp [Shutdown.proceed, Memory.clear, there], .unlist⟩
  | awaiting tasks past =>
      simp only [Shutdown.proceed]
      split <;> exact ⟨subscription, there, .same⟩
  | _ => exact ⟨subscription, there, .same⟩

theorem exists_change_perform {isShutDown : Bool} {limit : Nat} (request : Request Handler)
    (there : traffic.subscriber? index = some subscription) :
    ∃ after, (traffic.perform request).subscriber? index = some after ∧
      subscription.Change limit isShutDown after [] := by
  rw [subscriber?] at there
  cases request with
  | publish topic event =>
      exact ⟨_, by simp [subscriber?, perform, Memory.put, there], .offer topic event⟩
  | subscribe topic handler =>
      have came := (List.getElem?_eq_some_iff.mp there).1
      exact ⟨subscription, (List.getElem?_append_left came).trans there, .same⟩

/-- What a move does to a subscriber. -/
theorem exists_change (configured : traffic.bus.settings = settings) (move : Move Handler)
    (there : traffic.subscriber? index = some subscription) :
    ∃ after new, (traffic.step move).subscriber? index = some after ∧
      (traffic.step move).calls index = traffic.calls index ++ new ∧
      subscription.Change settings.maxRedeliveries traffic.bus.isShutDown after new := by
  have nothing : traffic.calls index = traffic.calls index ++ [] := (List.append_nil _).symm
  cases move with
  | ask request =>
      simp only [step]
      split <;> exact ⟨subscription, [], there, nothing, .same⟩
  | perform position =>
      simp only [step]
      split
      · exact ⟨subscription, [], there, nothing, .same⟩
      · rename_i request _
        obtain ⟨after, after_there, change⟩ :=
          @exists_change_perform _ { traffic with pending := traffic.pending.eraseIdx position }
            _ _ _ _ request there
        refine ⟨after, [], after_there, ?_, change⟩
        cases request <;> exact nothing
  | register position =>
      simp only [step]
      split <;> exact ⟨subscription, [], there, nothing, .same⟩
  | look other =>
      obtain ⟨after, after_there, change⟩ := exists_change_modify there fun _ => .look
      rw [ite_self] at change
      exact ⟨after, [], after_there, nothing, change⟩
  | take other =>
      obtain ⟨after, after_there, change⟩ := exists_change_modify there fun _ => .take
      rw [ite_self] at change
      exact ⟨after, [], after_there, nothing, change⟩
  | answer other accepted =>
      cases held : (traffic.subscriber? other).bind Subscription.inHand with
      | none =>
          rw [step_answer_free held]
          exact ⟨subscription, [], there, nothing, .same⟩
      | some delivery =>
          obtain ⟨busy, busy_there, in_hand⟩ := Option.bind_eq_some_iff.mp held
          rw [step_answer busy_there in_hand, Memory.answer, configured]
          have own (same : other = index) : subscription.Change settings.maxRedeliveries
              traffic.bus.isShutDown (subscription.answer settings.maxRedeliveries accepted)
              [⟨delivery.event, accepted⟩] := by
            rw [same] at busy_there
            obtain rfl := Option.some.inj (there.symm.trans busy_there)
            exact .answer in_hand accepted
          obtain ⟨after, after_there, change⟩ := exists_change_modify there own
          exact ⟨after, _, after_there, calls_answer .., change⟩
  | shutDown =>
      simp only [step]
      split <;> exact ⟨subscription, [], there, nothing, .same⟩
  | proceed =>
      simp only [step]
      split
      · exact ⟨subscription, [], there, nothing, .same⟩
      · rename_i shutdown _
        obtain ⟨after, after_there, change⟩ := exists_change_proceed shutdown there
        exact ⟨after, [], after_there, nothing, change⟩

theorem absent_of_length {after : Traffic Handler} (absent : traffic.subscriber? index = none)
    (same : after.bus.subscriptions.length = traffic.bus.subscriptions.length) :
    after.subscriber? index = none := by
  rw [subscriber?, List.getElem?_eq_none_iff] at absent ⊢
  omega

theorem length_proceed (shutdown : Shutdown) (bus : Memory Handler) :
    (shutdown.proceed bus).2.subscriptions.length = bus.subscriptions.length := by
  cases shutdown with
  | called => exact List.length_map _
  | awaiting tasks past =>
      simp only [Shutdown.proceed]
      split <;> rfl
  | _ => rfl

/-- A subscriber that a request brings. -/
theorem newcomer_of_subscribe (topic : String) (handler : Handler)
    (absent : traffic.subscriber? index = none)
    (there : (traffic.perform (.subscribe topic handler)).subscriber? index = some subscription) :
    subscription.AtRest ∧ index ∈ (traffic.perform (.subscribe topic handler)).unregistered := by
  rw [subscriber?, List.getElem?_eq_none_iff] at absent
  rw [subscriber?, perform, Memory.engage, List.getElem?_append_right absent,
    List.getElem?_singleton] at there
  split at there
  · rename_i newest
    obtain rfl := Option.some.inj there
    obtain rfl : index = traffic.bus.subscriptions.length :=
      Nat.le_antisymm (Nat.sub_eq_zero_iff_le.mp newest) absent
    exact ⟨⟨rfl, rfl⟩, List.mem_append_right _ (List.mem_singleton_self _)⟩
  · cases there

/-- No call is answered for a subscriber that has not come.  One that comes is at rest, and the bus
has yet to take note of its task. -/
theorem newcomer_of_step (move : Move Handler) (absent : traffic.subscriber? index = none) :
    (traffic.step move).calls index = traffic.calls index ∧
      ∀ subscription, (traffic.step move).subscriber? index = some subscription →
        subscription.AtRest ∧ index ∈ (traffic.step move).unregistered := by
  have still {after : Traffic Handler}
      (same : after.bus.subscriptions.length = traffic.bus.subscriptions.length) :
      ∀ subscription, after.subscriber? index = some subscription →
        subscription.AtRest ∧ index ∈ after.unregistered := by
    rw [absent_of_length absent same]
    rintro _ ⟨⟩
  cases move with
  | ask request =>
      simp only [step]
      split <;> exact ⟨rfl, still rfl⟩
  | perform position =>
      simp only [step]
      split
      · exact ⟨rfl, still rfl⟩
      · rename_i request _
        cases request with
        | publish topic event => exact ⟨rfl, still (List.length_map _)⟩
        | subscribe topic handler =>
            exact ⟨rfl, fun _ there => newcomer_of_subscribe topic handler absent there⟩
  | register position =>
      simp only [step]
      split <;> exact ⟨rfl, still rfl⟩
  | look other => exact ⟨rfl, still (List.length_modify ..)⟩
  | take other => exact ⟨rfl, still (List.length_modify ..)⟩
  | answer other accepted =>
      cases held : (traffic.subscriber? other).bind Subscription.inHand with
      | none =>
          rw [step_answer_free held]
          exact ⟨rfl, still rfl⟩
      | some delivery =>
          obtain ⟨busy, busy_there, in_hand⟩ := Option.bind_eq_some_iff.mp held
          have different : other ≠ index := by
            rintro rfl
            rw [absent] at busy_there
            cases busy_there
          rw [step_answer busy_there in_hand]
          refine ⟨(calls_answer ..).trans ?_, still (List.length_modify ..)⟩
          rw [if_neg different, List.append_nil]
  | shutDown =>
      simp only [step]
      split <;> exact ⟨rfl, still rfl⟩
  | proceed =>
      simp only [step]
      split
      · exact ⟨rfl, still rfl⟩
      · exact ⟨rfl, still (length_proceed ..)⟩

theorem isShutDown_proceed (shutdown : Shutdown) (bus : Memory Handler) :
    (shutdown.proceed bus).2.isShutDown = bus.isShutDown := by
  cases shutdown with
  | awaiting tasks past =>
      simp only [Shutdown.proceed]
      split <;> rfl
  | _ => rfl

/-- No bus is opened again. -/
theorem isShutDown_step (move : Move Handler) (closed : traffic.bus.isShutDown = true) :
    (traffic.step move).bus.isShutDown = true := by
  cases move with
  | ask request =>
      simp only [step]
      split <;> exact closed
  | perform position =>
      simp only [step]
      split
      · exact closed
      · rename_i request _
        cases request <;> exact closed
  | register position =>
      simp only [step]
      split <;> exact closed
  | look other => exact closed
  | take other => exact closed
  | answer other accepted =>
      simp only [step]
      split <;> exact closed
  | shutDown =>
      simp only [step]
      split
      · rfl
      · exact closed
  | proceed =>
      simp only [step]
      split
      · exact closed
      · exact (isShutDown_proceed ..).trans closed

end Moves

/-! ## After the call of a shutdown -/

theorem isShutDown_called (settings : Settings) (before : List (Move Handler)) :
    (run settings (before ++ [.shutDown])).bus.isShutDown = true := by
  have sound := sound_run settings before
  rw [run_concat]
  simp only [step]
  split
  · rfl
  · rename_i shutdown stage
    rw [sound.closed, stage]
    rfl

/-- How traffic stands after a shutdown was called, against how it stood before. -/
structure Closing (settings : Settings) (traffic before : Traffic Handler) : Prop where
  closed : traffic.bus.isShutDown = true
  finishes : ∀ index earlier, before.subscriber? index = some earlier →
    ∃ later, traffic.subscriber? index = some later ∧
      earlier.Finishes settings.maxRedeliveries (before.calls index) later (traffic.calls index)
  newcomers : ∀ index, before.subscriber? index = none →
    traffic.calls index = [] ∧
      ∀ subscription, traffic.subscriber? index = some subscription → subscription.AtRest

theorem Closing.step {before : Traffic Handler} (closing : traffic.Closing settings before)
    (configured : traffic.bus.settings = settings) (move : Move Handler) :
    (traffic.step move).Closing settings before where
  closed := isShutDown_step move closing.closed
  finishes := by
    intro index earlier there
    obtain ⟨later, later_there, finishes⟩ := closing.finishes index earlier there
    obtain ⟨after, new, after_there, calls, change⟩ := exists_change configured move later_there
    rw [closing.closed] at change
    exact ⟨after, after_there, calls ▸ change.finishes finishes⟩
  newcomers := by
    intro index absent
    obtain ⟨silent, rest⟩ := closing.newcomers index absent
    cases there : traffic.subscriber? index with
    | none =>
        obtain ⟨calls, newcomer⟩ := newcomer_of_step move there
        exact ⟨calls.trans silent, fun subscription came => (newcomer subscription came).1⟩
    | some subscription =>
        obtain ⟨after, new, after_there, calls, change⟩ := exists_change configured move there
        rw [closing.closed] at change
        obtain ⟨after_rest, rfl⟩ := change.atRest (rest subscription there)
        refine ⟨by rw [calls, silent, List.append_nil], ?_⟩
        intro same same_there
        obtain rfl := Option.some.inj (after_there.symm.trans same_there)
        exact after_rest

theorem closing_run (settings : Settings) (before after : List (Move Handler)) :
    (run settings (before ++ .shutDown :: after)).Closing settings (run settings before) := by
  induction after using List.reverseRecOn with
  | nil =>
      have unmoved (index : Nat) :
          (run settings (before ++ [.shutDown])).subscriber? index =
            (run settings before).subscriber? index ∧
          (run settings (before ++ [.shutDown])).calls index =
            (run settings before).calls index := by
        rw [run_concat]
        simp only [Traffic.step]
        split <;> exact ⟨rfl, rfl⟩
      refine ⟨isShutDown_called settings before, ?_, ?_⟩
      · intro index earlier there
        rw [(unmoved index).1, (unmoved index).2]
        exact ⟨earlier, there, Subscription.finishes_self ..⟩
      · intro index absent
        rw [(unmoved index).1, (unmoved index).2, absent]
        exact ⟨(sound_run settings before).silent index absent, by rintro _ ⟨⟩⟩
  | append_singleton after move ih =>
      rw [← List.cons_append, ← List.append_assoc, run_concat]
      exact ih.step (sound_run settings _).configured move

/-- Whatever comes, the handler is not in a call for the subscriber, and is not called again. -/
def Finished (traffic : Traffic Handler) (index : Nat) : Prop :=
  ∀ more : List (Move Handler),
    (∃ gone, (more.foldl step traffic).subscriber? index = some gone ∧ gone.inHand = none) ∧
    (more.foldl step traffic).calls index = traffic.calls index

theorem finished_of_ended (settings : Settings) (history : List (Move Handler)) {index : Nat}
    {subscription : Subscription Handler}
    (there : (run settings history).subscriber? index = some subscription)
    (ended : subscription.ended = true) : (run settings history).Finished index := by
  have sound := sound_run settings history
  have closed := sound.shut_of_ended there ended
  have rest : subscription.AtRest := (sound.attended index subscription there).left ended
  have still (more : List (Move Handler)) :
      (run settings (history ++ more)).bus.isShutDown = true ∧
      (∃ gone, (run settings (history ++ more)).subscriber? index = some gone ∧ gone.AtRest) ∧
      (run settings (history ++ more)).calls index = (run settings history).calls index := by
    induction more using List.reverseRecOn with
    | nil =>
        rw [List.append_nil]
        exact ⟨closed, ⟨subscription, there, rest⟩, rfl⟩
    | append_singleton more move ih =>
        obtain ⟨still_closed, ⟨gone, gone_there, gone_rest⟩, same⟩ := ih
        rw [← List.append_assoc, run_concat]
        obtain ⟨after, new, after_there, calls, change⟩ :=
          exists_change (sound_run settings (history ++ more)).configured move gone_there
        rw [still_closed] at change
        obtain ⟨after_rest, rfl⟩ := change.atRest gone_rest
        exact ⟨isShutDown_step move still_closed, ⟨after, after_there, after_rest⟩,
          by rw [calls, same, List.append_nil]⟩
  intro more
  obtain ⟨_, ⟨gone, gone_there, gone_rest⟩, same⟩ := still more
  rw [← run_append]
  exact ⟨⟨gone, gone_there, gone_rest.1⟩, same⟩

end Traffic

end Outbox.Bus
