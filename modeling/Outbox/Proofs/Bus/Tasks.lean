import Outbox.Proofs.Bus.Closing
import Outbox.Proofs.Bus.Drained

/-!
# The tasks that a shutdown waits for

A shutdown takes the tasks that the bus has taken note of by then.  Once it has returned, each of
them has come to its end.  It does return: every subscriber goes on with the event in its hand, and
leaves after it, whatever its handler says.
-/

set_option autoImplicit false

namespace Outbox.Bus

variable {Handler : Type}

namespace Shutdown

/-- The tasks that a shutdown has taken. -/
def taken? : Shutdown → Option (List Nat)
  | .awaiting tasks _ => some tasks
  | .returned tasks => some tasks
  | _ => none

/-- The tasks that a shutdown has waited for. -/
def waitedFor : Shutdown → List Nat
  | .awaiting tasks past => tasks.take past
  | .returned tasks => tasks
  | _ => []

end Shutdown

namespace Traffic

variable {settings : Settings} {traffic after : Traffic Handler} {index : Nat}

/-- The tasks that a shutdown waits for: those that it has taken, or would take by now. -/
def noted (traffic : Traffic Handler) : List Nat :=
  (traffic.shutdown.bind Shutdown.taken?).getD traffic.bus.tasks

def hasReturned (traffic : Traffic Handler) : Bool :=
  traffic.shutdown.any Shutdown.hasReturned

/-- The request that brought the subscriber is done, and no shutdown has taken the tasks yet. -/
def Registered (traffic : Traffic Handler) (index : Nat) : Prop :=
  (traffic.subscriber? index).isSome = true ∧ index ∉ traffic.unregistered ∧
    traffic.shutdown.bind Shutdown.taken? = none

/-! ## Whom the bus knows -/

theorem hasLeft_iff : traffic.bus.hasLeft index = true ↔
    ∃ subscription, traffic.subscriber? index = some subscription ∧ subscription.ended = true := by
  rw [Memory.hasLeft, Option.any_eq_true, subscriber?]

theorem isSome_step (configured : traffic.bus.settings = settings) (move : Move Handler)
    (came : (traffic.subscriber? index).isSome = true) :
    ((traffic.step move).subscriber? index).isSome = true := by
  obtain ⟨subscription, there⟩ := Option.isSome_iff_exists.mp came
  obtain ⟨later, _, later_there, _⟩ := exists_change configured move there
  rw [later_there]
  rfl

theorem hasLeft_step (configured : traffic.bus.settings = settings) (move : Move Handler)
    (left : traffic.bus.hasLeft index = true) :
    (traffic.step move).bus.hasLeft index = true := by
  obtain ⟨subscription, there, ended⟩ := hasLeft_iff.mp left
  obtain ⟨later, _, later_there, _, change⟩ := exists_change configured move there
  exact hasLeft_iff.mpr ⟨later, later_there, change.ended ended⟩

/-- Every subscriber is known to the bus by its task, or is about to be. -/
structure Known (traffic : Traffic Handler) : Prop where
  unregistered_came : ∀ index ∈ traffic.unregistered, (traffic.subscriber? index).isSome = true
  tasks_came : ∀ index ∈ traffic.bus.tasks, (traffic.subscriber? index).isSome = true
  taken_came : ∀ tasks, traffic.shutdown.bind Shutdown.taken? = some tasks →
    ∀ index ∈ tasks, (traffic.subscriber? index).isSome = true
  registered : ∀ index, traffic.Registered index → index ∈ traffic.bus.tasks
  waitedFor : ∀ shutdown, traffic.shutdown = some shutdown →
    ∀ index ∈ shutdown.waitedFor, traffic.bus.hasLeft index = true

theorem noted_of_untaken (untaken : traffic.shutdown.bind Shutdown.taken? = none) :
    traffic.noted = traffic.bus.tasks := by
  rw [noted, untaken]
  rfl

theorem noted_of_taken {tasks : List Nat}
    (taken : traffic.shutdown.bind Shutdown.taken? = some tasks) : traffic.noted = tasks := by
  rw [noted, taken]
  rfl

theorem Known.noted_came (known : traffic.Known) (member : index ∈ traffic.noted) :
    (traffic.subscriber? index).isSome = true := by
  cases taken : traffic.shutdown.bind Shutdown.taken? with
  | none => exact known.tasks_came index (noted_of_untaken taken ▸ member)
  | some tasks => exact known.taken_came tasks taken index (noted_of_taken taken ▸ member)

theorem Known.noted_of_registered (known : traffic.Known) (registered : traffic.Registered index) :
    index ∈ traffic.noted := by
  rw [noted_of_untaken registered.2.2]
  exact known.registered index registered

/-! ### What a move keeps -/

section Known
variable (known : traffic.Known) (configured : traffic.bus.settings = settings)
include known configured

/-- A move after which the bus knows the same tasks, and the shutdown is where it was. -/
theorem Known.kept (move : Move Handler)
    (shutdown : (traffic.step move).shutdown = traffic.shutdown)
    (tasks : (traffic.step move).bus.tasks = traffic.bus.tasks)
    (still : ∀ index ∈ traffic.unregistered, index ∈ (traffic.step move).unregistered)
    (came : ∀ index ∈ (traffic.step move).unregistered,
      ((traffic.step move).subscriber? index).isSome = true) :
    (traffic.step move).Known ∧ traffic.noted ⊆ (traffic.step move).noted := by
  refine ⟨⟨came, ?_, ?_, ?_, ?_⟩, ?_⟩
  · intro index member
    exact isSome_step configured move (known.tasks_came index (tasks ▸ member))
  · intro taken was_taken index member
    rw [shutdown] at was_taken
    exact isSome_step configured move (known.taken_came taken was_taken index member)
  · rintro index ⟨there, done, untaken⟩
    rw [tasks]
    apply known.registered
    refine ⟨?_, fun waiting => done (still index waiting), shutdown ▸ untaken⟩
    cases earlier : traffic.subscriber? index with
    | some subscription => rfl
    | none =>
        obtain ⟨subscription, newcomer⟩ := Option.isSome_iff_exists.mp there
        exact absurd ((newcomer_of_step move earlier).2 subscription newcomer).2 done
  · intro stage at_stage index member
    exact hasLeft_step configured move (known.waitedFor stage (shutdown ▸ at_stage) index member)
  · rw [noted, noted, shutdown, tasks]
    exact List.Subset.refl _

theorem Known.perform (position : Nat) :
    (traffic.step (.perform position)).Known ∧
      traffic.noted ⊆ (traffic.step (.perform position)).noted := by
  have kept := known.kept configured (.perform position)
  have came (index : Nat) (waiting : index ∈ traffic.unregistered) :=
    isSome_step configured (.perform position) (known.unregistered_came index waiting)
  simp only [Traffic.step] at kept came ⊢
  split
  · exact ⟨known, List.Subset.refl _⟩
  · rename_i request asked
    simp only [asked] at kept came
    cases request with
    | publish topic event => exact kept rfl rfl (fun _ => id) came
    | subscribe topic handler =>
        refine kept rfl rfl (fun _ => List.mem_append_left _) ?_
        intro index member
        rcases List.mem_append.mp member with earlier | newest
        · exact came index earlier
        · rw [List.mem_singleton.mp newest]
          simp [subscriber?, Traffic.perform, Memory.engage]

omit configured in
theorem Known.register (position : Nat) :
    (traffic.step (.register position)).Known ∧
      traffic.noted ⊆ (traffic.step (.register position)).noted := by
  simp only [Traffic.step]
  split
  · exact ⟨known, List.Subset.refl _⟩
  · rename_i newest waiting
    refine ⟨⟨?_, ?_, known.taken_came, ?_, known.waitedFor⟩, ?_⟩
    · intro index member
      exact known.unregistered_came index (List.mem_of_mem_eraseIdx member)
    · intro index member
      rcases List.mem_append.mp member with earlier | last
      · exact known.tasks_came index earlier
      · rw [List.mem_singleton.mp last]
        exact known.unregistered_came newest (List.mem_of_getElem? waiting)
    · rintro index ⟨there, done, untaken⟩
      by_cases same : index = newest
      · exact List.mem_append_right _ (List.mem_singleton.mpr same)
      · apply List.mem_append_left
        apply known.registered
        refine ⟨there, ?_, untaken⟩
        intro still
        obtain ⟨other, at_other⟩ := List.getElem?_of_mem still
        have different : other ≠ position := by
          rintro rfl
          exact same (Option.some.inj (at_other.symm.trans waiting))
        exact done (List.mem_eraseIdx_iff_getElem?.mpr ⟨other, different, at_other⟩)
    · unfold noted
      cases traffic.shutdown.bind Shutdown.taken? with
      | none => exact List.subset_append_left _ _
      | some tasks => exact List.Subset.refl _

omit configured in
/-- A shutdown that has yet to take the tasks. -/
theorem Known.untaken (untaken : traffic.shutdown.bind Shutdown.taken? = none)
    (subscribers : ∀ index, (after.subscriber? index).isSome = (traffic.subscriber? index).isSome)
    (tasks : after.bus.tasks = traffic.bus.tasks)
    (unregistered : after.unregistered = traffic.unregistered)
    (still_untaken : after.shutdown.bind Shutdown.taken? = none)
    (waitedFor : ∀ shutdown, after.shutdown = some shutdown → shutdown.waitedFor = []) :
    after.Known ∧ traffic.noted ⊆ after.noted := by
  refine ⟨⟨?_, ?_, ?_, ?_, ?_⟩, ?_⟩
  · intro index member
    exact (subscribers index).trans (known.unregistered_came index (unregistered ▸ member))
  · intro index member
    exact (subscribers index).trans (known.tasks_came index (tasks ▸ member))
  · rw [still_untaken]
    rintro _ ⟨⟩
  · rintro index ⟨there, done, _⟩
    rw [tasks]
    exact known.registered index ⟨subscribers index ▸ there, unregistered ▸ done, untaken⟩
  · intro shutdown stage index member
    rw [waitedFor shutdown stage] at member
    cases member
  · rw [noted_of_untaken untaken, noted_of_untaken still_untaken, tasks]
    exact List.Subset.refl _

omit configured in
/-- A shutdown that has taken the tasks. -/
theorem Known.taken {tasks left : List Nat} (noted : traffic.noted = tasks) {shutdown : Shutdown}
    (taken : shutdown.taken? = some tasks)
    (waitedFor : ∀ index ∈ shutdown.waitedFor, traffic.bus.hasLeft index = true)
    (subset : ∀ index ∈ left, index ∈ traffic.bus.tasks) :
    Known { traffic with bus := { traffic.bus with tasks := left }, shutdown := some shutdown } ∧
      traffic.noted ⊆ Traffic.noted
        { traffic with bus := { traffic.bus with tasks := left }, shutdown := some shutdown } := by
  refine ⟨⟨known.unregistered_came,
    fun index member => known.tasks_came index (subset index member), ?_, ?_, ?_⟩, ?_⟩
  · intro same was_taken index member
    obtain rfl := Option.some.inj (taken.symm.trans was_taken)
    exact known.noted_came (noted.symm ▸ member)
  · rintro index ⟨_, _, untaken⟩
    cases taken.symm.trans untaken
  · intro same stage
    obtain rfl := Option.some.inj stage
    exact waitedFor
  · rw [noted, @noted_of_taken _
      { traffic with bus := { traffic.bus with tasks := left }, shutdown := some shutdown } _ taken]
    exact List.Subset.refl _

omit configured in
theorem Known.proceed :
    (traffic.step .proceed).Known ∧ traffic.noted ⊆ (traffic.step .proceed).noted := by
  cases stage : traffic.shutdown with
  | none =>
      simp only [Traffic.step, stage]
      exact ⟨known, List.Subset.refl _⟩
  | some shutdown =>
      simp only [Traffic.step, stage]
      cases shutdown with
      | called =>
          refine known.untaken (by rw [stage]; rfl) ?_ rfl rfl rfl ?_
          · intro index
            simp [subscriber?, Shutdown.proceed, Memory.clear]
          · intro after at_stage
            obtain rfl := Option.some.inj at_stage
            rfl
      | cleared =>
          exact known.taken (noted_of_untaken (by rw [stage]; rfl)) rfl
            (fun _ member => absurd member List.not_mem_nil) (List.nil_subset _)
      | awaiting tasks past =>
          have noted : traffic.noted = tasks := noted_of_taken (by rw [stage]; rfl)
          have waitedFor := known.waitedFor _ stage
          simp only [Shutdown.proceed]
          split
          · rename_i none_left
            refine known.taken noted rfl ?_ fun _ => id
            have all := List.take_of_length_le (List.getElem?_eq_none_iff.mp none_left)
            rwa [Shutdown.waitedFor, all] at waitedFor
          · rename_i task awaited
            by_cases left : traffic.bus.hasLeft task = true
            · rw [if_pos left]
              refine known.taken noted rfl ?_ fun _ => id
              intro index member
              rw [Shutdown.waitedFor, List.take_add_one, awaited, List.mem_append] at member
              rcases member with earlier | last
              · exact waitedFor index earlier
              · obtain rfl := Option.some.inj (Option.mem_toList.mp last)
                exact left
            · rw [if_neg left]
              exact known.taken noted rfl waitedFor fun _ => id
      | returned tasks =>
          exact known.taken (noted_of_taken (by rw [stage]; rfl)) rfl (known.waitedFor _ stage)
            fun _ => id

theorem Known.step (move : Move Handler) :
    (traffic.step move).Known ∧ traffic.noted ⊆ (traffic.step move).noted := by
  have came (index : Nat) (waiting : index ∈ traffic.unregistered) :=
    isSome_step configured move (known.unregistered_came index waiting)
  have kept := known.kept configured move
  cases move with
  | ask request =>
      simp only [Traffic.step] at kept came ⊢
      split
      · rename_i let_in
        rw [let_in] at kept came
        exact kept rfl rfl (fun _ => id) came
      · rename_i turned_away
        rw [turned_away] at kept came
        exact kept rfl rfl (fun _ => id) came
  | perform position => exact known.perform configured position
  | register position => exact known.register position
  | look other => exact kept rfl rfl (fun _ => id) came
  | take other => exact kept rfl rfl (fun _ => id) came
  | answer other accepted =>
      cases held : (traffic.subscriber? other).bind Subscription.inHand with
      | none =>
          rw [step_answer_free held]
          exact ⟨known, List.Subset.refl _⟩
      | some delivery =>
          obtain ⟨busy, there, in_hand⟩ := Option.bind_eq_some_iff.mp held
          rw [step_answer there in_hand] at kept came ⊢
          exact kept rfl rfl (fun _ => id) came
  | shutDown =>
      simp only [Traffic.step]
      split
      · rename_i uncalled
        refine known.untaken (by rw [uncalled]; rfl) (fun _ => rfl) rfl rfl rfl ?_
        intro after at_stage
        obtain rfl := Option.some.inj at_stage
        rfl
      · exact ⟨known, List.Subset.refl _⟩
  | proceed => exact known.proceed

end Known

theorem known_run (settings : Settings) (history : List (Move Handler)) :
    (run settings history).Known := by
  induction history using List.reverseRecOn with
  | nil => constructor <;> simp [run, start, Registered, subscriber?]
  | append_singleton past move ih =>
      rw [run_concat]
      exact (ih.step (sound_run settings past).configured move).1

/-- What a shutdown waits for, it does not forget. -/
theorem noted_run (settings : Settings) (past later : List (Move Handler)) :
    (run settings past).noted ⊆ (run settings (past ++ later)).noted := by
  induction later using List.reverseRecOn with
  | nil =>
      rw [List.append_nil]
      exact List.Subset.refl _
  | append_singleton later move ih =>
      rw [← List.append_assoc, run_concat]
      exact List.Subset.trans ih
        ((known_run settings _).step (sound_run settings _).configured move).2

/-- After the return of a shutdown, the handlers of the subscribers that it waited for are not
called any more. -/
theorem finished_of_returned (settings : Settings) {history : List (Move Handler)}
    (returned : (run settings history).hasReturned = true)
    (noted : index ∈ (run settings history).noted) : (run settings history).Finished index := by
  obtain ⟨shutdown, stage, done⟩ := (Option.any_eq_true _ _).mp returned
  cases shutdown with
  | returned tasks =>
      have same : (run settings history).noted = tasks := noted_of_taken (by rw [stage]; rfl)
      have left := (known_run settings history).waitedFor _ stage index (same ▸ noted)
      obtain ⟨subscription, there, ended⟩ := hasLeft_iff.mp left
      exact finished_of_ended settings history there ended
  | _ => cases done

/-! ## Return -/

/-- The subscriber of an index goes on, or its handler does. -/
def Move.IsOf (index : Nat) (move : Move Handler) : Prop :=
  move = .look index ∨ move = .take index ∨ ∃ accepted, move = .answer index accepted

/-- The handlers have behaviours, each for the calls of one subscriber. -/
def Behaves (behaviours : Nat → List Handed → Bytes → Bool) (traffic : Traffic Handler) : Prop :=
  ∀ index, Follows (behaviours index) (traffic.calls index)

section Return
variable {behaviours : Nat → List Handed → Bytes → Bool}

theorem subscriber?_answer {subscription : Subscription Handler}
    (there : traffic.subscriber? index = some subscription) {delivery : Delivery}
    (held : subscription.inHand = some delivery) (accepted : Bool) :
    (traffic.step (.answer index accepted)).subscriber? index =
      some (subscription.answer traffic.bus.settings.maxRedeliveries accepted) := by
  rw [step_answer there held]
  rw [subscriber?] at there
  rw [subscriber?, Memory.answer, getElem?_modify, if_pos rfl, there]
  rfl

theorem Behaves.answer (behaves : traffic.Behaves behaviours) {subscription : Subscription Handler}
    (there : traffic.subscriber? index = some subscription) {delivery : Delivery}
    (held : subscription.inHand = some delivery) :
    (traffic.step (.answer index
      (behaviours index (traffic.calls index) delivery.event))).Behaves behaviours := by
  intro other
  rw [calls_step_answer there held]
  by_cases own : index = other
  · subst own
    rw [if_pos rfl]
    exact (behaves index).concat delivery.event
  · rw [if_neg own, List.append_nil]
    exact behaves other

theorem Behaves.proceed (behaves : traffic.Behaves behaviours) :
    (traffic.step .proceed).Behaves behaviours := by
  have same : (traffic.step .proceed).answers = traffic.answers := by
    simp only [step]
    split <;> rfl
  intro index
  rw [calls, same]
  exact behaves index

/-- A subscriber that goes on leaves a bus that was shut down. -/
theorem leaves (settings : Settings) (history : List (Move Handler))
    (closed : (run settings history).bus.isShutDown = true)
    (came : ((run settings history).subscriber? index).isSome = true)
    (behaves : (run settings history).Behaves behaviours) :
    ∃ moves : List (Move Handler), (∀ move ∈ moves, move.IsOf index) ∧
      (run settings (history ++ moves)).bus.hasLeft index = true ∧
      (run settings (history ++ moves)).shutdown = (run settings history).shutdown ∧
      (run settings (history ++ moves)).Behaves behaviours := by
  obtain ⟨subscription, there⟩ := Option.isSome_iff_exists.mp came
  induction bound : subscription.effort settings.maxRedeliveries using Nat.strongRecOn
    generalizing history subscription with
  | ind bound ih =>
      have sound := sound_run settings history
      cases held : subscription.inHand with
      | none =>
          refine ⟨[.look index], ?_, ?_, ?_, ?_⟩
          · intro move member
            exact List.mem_singleton.mp member ▸ .inl rfl
          · rw [run_concat, hasLeft_iff]
            rw [subscriber?] at there
            refine ⟨subscription.look true, ?_, by rw [Subscription.look_closed held]⟩
            rw [subscriber?, step, Memory.look, getElem?_modify, if_pos rfl, there, closed]
            rfl
          · rw [run_concat]
            rfl
          · rw [run_concat]
            exact behaves
      | some delivery =>
          obtain ⟨begun, _, stands, _⟩ := (sound.attended index subscription there).stands
          let accepted := behaviours index ((run settings history).calls index) delivery.event
          have gone_on := subscriber?_answer there held accepted
          rw [sound.configured] at gone_on
          have less := Subscription.effort_answer stands held accepted
          rw [bound] at less
          have after := behaves.answer there held
          have still := isShutDown_step (.answer index accepted) closed
          have stage : ((run settings history).step (.answer index accepted)).shutdown =
              (run settings history).shutdown := by rw [step_answer there held]
          rw [← run_concat] at gone_on after still stage
          obtain ⟨moves, own, left, same, behaves_after⟩ :=
            ih _ less (history ++ [.answer index accepted]) still
              (by rw [gone_on]; rfl) after _ gone_on rfl
          rw [List.append_assoc, List.singleton_append] at left same behaves_after
          exact ⟨_ :: moves, List.forall_mem_cons.mpr ⟨.inr (.inr ⟨_, rfl⟩), own⟩, left,
            same.trans stage, behaves_after⟩

/-- The shutdown returns, if nobody but these tasks goes on. -/
def Returns (settings : Settings) (history : List (Move Handler)) (tasks : List Nat)
    (behaviours : Nat → List Handed → Bytes → Bool) : Prop :=
  ∃ moves : List (Move Handler),
    (∀ move ∈ moves, move = .proceed ∨ ∃ index ∈ tasks, move.IsOf index) ∧
    (run settings (history ++ moves)).hasReturned = true ∧
    (run settings (history ++ moves)).Behaves behaviours

theorem Returns.before {history moves : List (Move Handler)} {tasks : List Nat}
    (own : ∀ move ∈ moves, move = .proceed ∨ ∃ index ∈ tasks, move.IsOf index)
    (returns : Returns settings (history ++ moves) tasks behaviours) :
    Returns settings history tasks behaviours := by
  obtain ⟨later, of_tasks, returned, behaves⟩ := returns
  rw [List.append_assoc] at returned behaves
  refine ⟨moves ++ later, ?_, returned, behaves⟩
  intro move member
  rcases List.mem_append.mp member with first | last
  · exact own move first
  · exact of_tasks move last

theorem Returns.of_proceed {history : List (Move Handler)} {tasks : List Nat}
    (returns : Returns settings (history ++ [.proceed]) tasks behaviours) :
    Returns settings history tasks behaviours :=
  returns.before fun _ member => .inl (List.mem_singleton.mp member)

theorem Behaves.run_proceed {history : List (Move Handler)}
    (behaves : (run settings history).Behaves behaviours) :
    (run settings (history ++ [.proceed])).Behaves behaviours := by
  rw [run_concat]
  exact behaves.proceed

theorem returns_of_awaiting (settings : Settings) {tasks : List Nat} {past : Nat}
    (history : List (Move Handler))
    (stage : (run settings history).shutdown = some (.awaiting tasks past))
    (behaves : (run settings history).Behaves behaviours) :
    Returns settings history tasks behaviours := by
  induction left : tasks.length - past generalizing history past with
  | zero =>
      have none_left : tasks[past]? = none := List.getElem?_eq_none (Nat.sub_eq_zero_iff_le.mp left)
      refine ⟨[.proceed], fun move member => .inl (List.mem_singleton.mp member), ?_,
        behaves.run_proceed⟩
      rw [run_concat, hasReturned]
      simp only [step, stage, Shutdown.proceed, none_left]
      rfl
  | succ count ih =>
      have more : past < tasks.length := by omega
      have awaited : tasks[past]? = some tasks[past] := List.getElem?_eq_getElem more
      have taken : (run settings history).shutdown.bind Shutdown.taken? = some tasks := by
        rw [stage]
        rfl
      have came := (known_run settings history).taken_came tasks taken _ (List.getElem_mem more)
      have closed : (run settings history).bus.isShutDown = true := by
        rw [(sound_run settings history).closed, stage]
        rfl
      obtain ⟨moves, own, gone, same, behaves_after⟩ := leaves settings history closed came behaves
      rw [stage] at same
      -- The task is over, and the shutdown goes on to the next one.
      have onward : (run settings (history ++ moves ++ [.proceed])).shutdown =
          some (.awaiting tasks (past + 1)) := by
        rw [run_concat]
        simp only [step, same, Shutdown.proceed, awaited, gone, if_pos]
      have later := ih _ onward behaves_after.run_proceed (by omega)
      exact later.of_proceed.before fun move member =>
        .inr ⟨_, List.getElem_mem more, own move member⟩

theorem returns_of_cleared (settings : Settings) (history : List (Move Handler))
    (stage : (run settings history).shutdown = some .cleared)
    (behaves : (run settings history).Behaves behaviours) :
    Returns settings history (run settings history).bus.tasks behaviours := by
  have taking : (run settings (history ++ [.proceed])).shutdown =
      some (.awaiting (run settings history).bus.tasks 0) := by
    rw [run_concat]
    simp only [step, stage, Shutdown.proceed]
  exact (returns_of_awaiting settings _ taking behaves.run_proceed).of_proceed

/-- A shutdown that was called returns. -/
theorem returns (settings : Settings) (history : List (Move Handler))
    (called : (run settings history).shutdown.isSome = true)
    (behaves : (run settings history).Behaves behaviours) :
    Returns settings history (run settings history).noted behaviours := by
  obtain ⟨shutdown, stage⟩ := Option.isSome_iff_exists.mp called
  cases shutdown with
  | called =>
      have cleared : (run settings (history ++ [.proceed])).shutdown = some .cleared := by
        rw [run_concat]
        simp only [step, stage, Shutdown.proceed]
      have same : (run settings (history ++ [.proceed])).bus.tasks =
          (run settings history).bus.tasks := by
        rw [run_concat]
        simp only [step, stage, Shutdown.proceed, Memory.clear]
      have returned := returns_of_cleared settings _ cleared behaves.run_proceed
      rw [same, ← noted_of_untaken (by rw [stage]; rfl)] at returned
      exact returned.of_proceed
  | cleared =>
      rw [noted_of_untaken (by rw [stage]; rfl)]
      exact returns_of_cleared settings history stage behaves
  | awaiting tasks past =>
      rw [@noted_of_taken _ _ tasks (by rw [stage]; rfl)]
      exact returns_of_awaiting settings history stage behaves
  | returned tasks =>
      refine ⟨[], by simp, ?_, ?_⟩
      · rw [List.append_nil, hasReturned, stage]
        rfl
      · rwa [List.append_nil]

end Return

end Traffic

end Outbox.Bus
