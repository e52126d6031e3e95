import Outbox.Proofs.Metrics.Samples

/-!
# Registries at work

A registry is asked to register counters, to count increments and to export.  A registration that is
refused leaves no trace.  Every counter that was registered has the samples of the increments that
came after it, told apart by the fingerprints of their label values: the export shows for each of
them the number of increments exactly if no two of their label values share a fingerprint.
-/

set_option autoImplicit false

namespace Outbox.Registry

open Counter (fingerprint tallied Distinguished)

/-! ## Registering a counter -/

theorem areDistinct_iff {names : List String} : areDistinct names = true ↔ names.Nodup := by
  induction names with
  | nil => simp [areDistinct]
  | cons name names ih => simp [areDistinct, ih]

/-- What may be registered. -/
structure Allowed (name help : String) (labelNames : List String) : Prop where
  named : isCounterName name = true
  helped : help ≠ ""
  labelled : ∀ label ∈ labelNames, isLabelName label = true
  distinct : labelNames.Nodup

theorem makeCounter_eq (name help : String) (labelNames : List String)
    [Decidable (Allowed name help labelNames)] :
    makeCounter name help labelNames =
      if Allowed name help labelNames then .ok { name, help, labelNames } else .error .invalid := by
  have rules : Allowed name help labelNames ↔
      (!isCounterName name || help.isEmpty || !labelNames.all isLabelName ||
        !areDistinct labelNames) = false := by
    simp only [Bool.or_eq_false_iff, Bool.not_eq_false', List.all_eq_true, areDistinct_iff]
    constructor
    · rintro ⟨named, helped, labelled, distinct⟩
      exact ⟨⟨⟨named, by simpa using helped⟩, labelled⟩, distinct⟩
    · rintro ⟨⟨⟨named, helped⟩, labelled⟩, distinct⟩
      exact ⟨named, by simpa using helped, labelled, distinct⟩
  unfold makeCounter
  by_cases allowed : Allowed name help labelNames
  · rw [if_pos allowed, rules.mp allowed]
    rfl
  · rw [if_neg allowed, if_pos]
    rw [rules, Bool.not_eq_false] at allowed
    exact allowed

section Enrolling
variable {registry : Registry} {name help : String} {labelNames : List String}

/-- There is a counter of this name, or of one with the same fingerprint. -/
def Taken (registry : Registry) (name : String) : Prop :=
  ∃ counter ∈ registry.counters, fingerprint [counter.name] = fingerprint [name]

/-- The registry with a further counter. -/
def joined (registry : Registry) (counter : Counter) : Registry :=
  (registry.append counter).connect counter.name

/-- What a registration comes to. -/
inductive Enrolled (registry : Registry) (name help : String) (labelNames : List String) :
    Except RegistrationError Unit × Registry → Prop where
  | invalid (banned : ¬Allowed name help labelNames) :
      Enrolled registry name help labelNames (.error .invalid, registry)
  | taken (allowed : Allowed name help labelNames) (taken : registry.Taken name) :
      Enrolled registry name help labelNames (.error .taken, registry)
  | joined (allowed : Allowed name help labelNames) (new : ¬registry.Taken name) :
      Enrolled registry name help labelNames
        (.ok (), registry.joined { name, help, labelNames })

theorem isTaken_iff : registry.isTaken name = true ↔ registry.Taken name := by
  simp [isTaken, Taken]

theorem enrolled (registry : Registry) (name help : String) (labelNames : List String) :
    Enrolled registry name help labelNames (registry.enrol name help labelNames) := by
  classical
  rw [enrol, makeCounter_eq]
  by_cases allowed : Allowed name help labelNames
  · rw [if_pos allowed]
    dsimp only
    rw [add]
    by_cases taken : registry.Taken name
    · rw [if_pos (isTaken_iff.mpr taken)]
      exact .taken allowed taken
    · rw [if_neg (fun marked => taken (isTaken_iff.mp marked))]
      exact .joined allowed taken
  · rw [if_neg allowed]
    exact .invalid allowed

variable {result : Except RegistrationError Unit × Registry}

theorem Enrolled.invalid_iff (done : Enrolled registry name help labelNames result) :
    result.1 = .error .invalid ↔ ¬Allowed name help labelNames := by
  cases done with
  | invalid banned => exact iff_of_true rfl banned
  | taken allowed taken => exact iff_of_false (by simp) (not_not.mpr allowed)
  | joined allowed new => exact iff_of_false (by simp) (not_not.mpr allowed)

theorem Enrolled.taken_iff (done : Enrolled registry name help labelNames result) :
    result.1 = .error .taken ↔ Allowed name help labelNames ∧ registry.Taken name := by
  cases done with
  | invalid banned => exact iff_of_false (by simp) fun both => banned both.1
  | taken allowed taken => exact iff_of_true rfl ⟨allowed, taken⟩
  | joined allowed new => exact iff_of_false (by simp) fun both => new both.2

theorem Enrolled.kept (done : Enrolled registry name help labelNames result)
    {error : RegistrationError} (refused : result.1 = .error error) : result.2 = registry := by
  cases done with
  | invalid => rfl
  | taken => rfl
  | joined => cases refused

end Enrolling

/-! ## Sound registries -/

/-- Names have different fingerprints, each name leads to its counter, and so do label names to
their values. -/
structure Sound (registry : Registry) : Prop where
  apart : (registry.counters.map fun counter => fingerprint [counter.name]).Nodup
  placed : ∀ name,
    registry.place? name = registry.counters.findIdx? fun counter => counter.name = name
  labelled : ∀ counter ∈ registry.counters, counter.labelNames.Nodup

namespace Sound
variable {registry : Registry} (sound : registry.Sound)
include sound

theorem eq_of_name {counter other : Counter} (here : counter ∈ registry.counters)
    (there : other ∈ registry.counters) (same : counter.name = other.name) : counter = other :=
  List.inj_on_of_nodup_map sound.apart here there (by simp only [same])

/-- An increment is counted by the counter of its name and by no other. -/
theorem counters_record (increment : Increment) :
    (registry.record increment).counters = registry.counters.map fun counter =>
      if counter.name = increment.name then counter.count increment.labels else counter := by
  unfold record
  rw [sound.placed]
  cases found : registry.counters.findIdx? fun counter => counter.name = increment.name with
  | none =>
      rw [List.findIdx?_eq_none_iff] at found
      have unchanged : (registry.counters.map fun counter =>
          if counter.name = increment.name then counter.count increment.labels else counter) =
          registry.counters.map id := by
        apply List.map_congr_left
        intro counter member
        exact if_neg (by simpa using found counter member)
      rw [unchanged, List.map_id]
  | some place =>
      obtain ⟨within, named, _⟩ := List.findIdx?_eq_some_iff_getElem.mp found
      rw [decide_eq_true_eq] at named
      apply List.ext_getElem (by simp)
      intro index inside _
      have member : index < registry.counters.length := by simpa using inside
      rw [List.getElem_modify, List.getElem_map]
      by_cases here : place = index
      · subst here
        rw [if_pos rfl, if_pos named]
      · have other : registry.counters[index].name ≠ increment.name := by
          intro same
          apply here
          apply (List.getElem?_inj (by simpa using within) sound.apart).mp
          simp [List.getElem?_eq_getElem within, List.getElem?_eq_getElem member, named, same]
        rw [if_neg here, if_neg other]

theorem record (increment : Increment) : (registry.record increment).Sound := by
  have counters := sound.counters_record increment
  have names : ∀ counter : Counter,
      (if counter.name = increment.name then counter.count increment.labels else counter).name =
        counter.name ∧
      (if counter.name = increment.name then counter.count increment.labels
        else counter).labelNames = counter.labelNames := by
    intro counter
    split <;> exact ⟨rfl, rfl⟩
  have places : (registry.record increment).places = registry.places := by
    unfold Registry.record
    split <;> rfl
  refine ⟨?_, ?_, ?_⟩
  · rw [counters, List.map_map]
    simpa only [Function.comp_def, names] using sound.apart
  · intro name
    have placed := sound.placed name
    unfold place? at placed ⊢
    rw [places, counters, List.findIdx?_map]
    simpa only [Function.comp_def, names] using placed
  · rw [counters]
    intro counter member
    obtain ⟨before, there, rfl⟩ := List.mem_map.mp member
    rw [(names before).2]
    exact sound.labelled before there

theorem joined {counter : Counter} (new : ¬registry.Taken counter.name)
    (distinct : counter.labelNames.Nodup) : (registry.joined counter).Sound := by
  have fresh : fingerprint [counter.name] ∉
      registry.counters.map fun counter => fingerprint [counter.name] := by
    intro member
    obtain ⟨other, there, same⟩ := List.mem_map.mp member
    exact new ⟨other, there, same⟩
  have unknown : (registry.counters.findIdx? fun other => other.name = counter.name) = none := by
    rw [List.findIdx?_eq_none_iff]
    intro other there
    rw [decide_eq_false_iff_not]
    intro same
    exact new ⟨other, there, by rw [same]⟩
  refine ⟨?_, ?_, ?_⟩
  · have extended := List.Nodup.concat fresh sound.apart
    simpa [Registry.joined, append, connect] using extended
  · intro name
    have before := sound.placed name
    unfold place? at before
    by_cases same : counter.name = name
    · subst same
      simp [place?, Registry.joined, append, connect, List.findIdx?_append, unknown,
        List.findIdx?_cons]
    · simp only [place?, Registry.joined, append, connect, List.findIdx?_append, same,
        List.find?_cons, decide_false, before, List.findIdx?_cons]
      simp
  · intro other member
    obtain there | rfl := List.mem_append.mp member |>.imp_right List.mem_singleton.mp
    · exact sound.labelled other there
    · exact distinct

end Sound

theorem sound_empty : Sound {} :=
  ⟨List.nodup_nil, fun _ => rfl, fun _ member => by cases member⟩

/-! ## Requests one after the other -/

inductive Request where
  | register (name help : String) (labelNames : List String)
  | count (increment : Increment)
  | gather

inductive Reply where
  | registered
  | refused (error : RegistrationError)
  | counted
  | gathered (text : String)

def answer (registry : Registry) : Request → Reply × Registry
  | .register name help labelNames =>
    match registry.enrol name help labelNames with
    | (.error error, after) => (.refused error, after)
    | (.ok _, after) => (.registered, after)
  | .count increment => (.counted, registry.record increment)
  | .gather => (.gathered registry.text, registry)

def after (registry : Registry) (requests : List Request) : Registry :=
  requests.foldl (fun registry request => (registry.answer request).2) registry

def replies (registry : Registry) : List Request → List Reply
  | [] => []
  | request :: later => (registry.answer request).1 :: (registry.answer request).2.replies later

theorem after_concat (registry : Registry) (requests : List Request) (request : Request) :
    registry.after (requests ++ [request]) = ((registry.after requests).answer request).2 := by
  simp [after]

/-- A refused registration is answered and changes no later reply. -/
theorem replies_of_refused {registry : Registry} {name help : String} {labelNames : List String}
    {error : RegistrationError}
    (refused : (registry.enrol name help labelNames).1 = .error error) (later : List Request) :
    registry.replies (.register name help labelNames :: later) =
      .refused error :: registry.replies later := by
  have kept := (enrolled registry name help labelNames).kept refused
  have reply : registry.answer (.register name help labelNames) = (.refused error, registry) := by
    rw [answer]
    generalize registry.enrol name help labelNames = result at refused kept
    obtain ⟨outcome, left⟩ := result
    dsimp only at refused kept
    subst outcome
    rw [kept]
  rw [replies, reply]

/-- What a request can do to a registry. -/
inductive Answered (registry : Registry) : Request → Reply × Registry → Prop where
  | refused {name help : String} {labelNames : List String} (error : RegistrationError)
      (barred : Allowed name help labelNames → registry.Taken name) :
      Answered registry (.register name help labelNames) (.refused error, registry)
  | registered {name help : String} {labelNames : List String}
      (allowed : Allowed name help labelNames) (new : ¬registry.Taken name) :
      Answered registry (.register name help labelNames)
        (.registered, registry.joined { name, help, labelNames })
  | counted (increment : Increment) :
      Answered registry (.count increment) (.counted, registry.record increment)
  | gathered : Answered registry .gather (.gathered registry.text, registry)

theorem answered (registry : Registry) (request : Request) :
    Answered registry request (registry.answer request) := by
  cases request with
  | register name help labelNames =>
      have done := enrolled registry name help labelNames
      rw [answer]
      generalize registry.enrol name help labelNames = result at done
      cases done with
      | invalid banned => exact .refused _ fun allowed => absurd allowed banned
      | taken allowed taken => exact .refused _ fun _ => taken
      | joined allowed new => exact .registered allowed new
  | count increment => exact .counted increment
  | gather => exact .gathered

theorem Answered.sound {registry : Registry} {request : Request} {result : Reply × Registry}
    (done : Answered registry request result) (sound : registry.Sound) : result.2.Sound := by
  cases done with
  | refused error barred => exact sound
  | registered allowed new => exact sound.joined new allowed.distinct
  | counted increment => exact sound.record increment
  | gathered => exact sound

theorem sound_after (requests : List Request) : (after {} requests).Sound := by
  induction requests using List.reverseRecOn with
  | nil => exact sound_empty
  | append_singleton before request ih =>
      rw [after_concat]
      exact (answered _ request).sound ih

/-! ## What was registered, and what was asked since -/

/-- The label values of the increments of a counter among some requests. -/
def asked (counter : Counter) (requests : List Request) : List (List String) :=
  requests.filterMap fun
    | .count increment =>
      if increment.name = counter.name then some (counter.project increment.labels) else none
    | _ => none

theorem asked_concat (counter : Counter) (requests : List Request) (request : Request) :
    asked counter (requests ++ [request]) = asked counter requests ++ asked counter [request] :=
  List.filterMap_append

/-- A counter of this name, help and labels was registered before these last requests. -/
def Registered (counter : Counter) (history since : List Request) : Prop :=
  ∃ before,
    history = before ++ .register counter.name counter.help counter.labelNames :: since ∧
      Allowed counter.name counter.help counter.labelNames ∧
      ¬(after {} before).Taken counter.name

/-- A counter with the samples of the values that were asked for. -/
def withAsked (counter : Counter) (requests : List Request) : Counter :=
  { counter with samples := tallied (asked counter requests) }

section Registered
variable {counter : Counter} {history since : List Request}

theorem Registered.later (registered : Registered counter history since) (request : Request) :
    Registered counter (history ++ [request]) (since ++ [request]) := by
  obtain ⟨before, rfl, allowed, new⟩ := registered
  refine ⟨before, ?_, allowed, new⟩
  rw [List.append_assoc, List.cons_append]

/-- A counter after one more request. -/
def served (request : Request) (counter : Counter) : Counter :=
  { counter with
    samples := (asked counter [request]).foldl (fun samples values => Counter.bump values samples)
      counter.samples }

theorem served_withAsked (counter : Counter) (since : List Request) (request : Request) :
    served request (withAsked counter since) = withAsked counter (since ++ [request]) := by
  unfold withAsked
  rw [asked_concat, tallied, tallied, List.foldl_append]
  rfl

theorem map_served {request : Request} (uncounted : ∀ increment, request ≠ .count increment)
    (counters : List Counter) : counters.map (served request) = counters := by
  have same : served request = id := by
    funext counter
    cases request with
    | register => rfl
    | count increment => exact absurd rfl (uncounted increment)
    | gather => rfl
  rw [same, List.map_id]

/-- A request serves every counter, and the registration of a new one adds it. -/
theorem Answered.counters {registry : Registry} {request : Request} {result : Reply × Registry}
    (done : Answered registry request result) (sound : registry.Sound) :
    ∃ added : List Counter, result.2.counters = registry.counters.map (served request) ++ added ∧
      ∀ counter : Counter, counter ∈ added ↔
        request = .register counter.name counter.help counter.labelNames ∧
        Allowed counter.name counter.help counter.labelNames ∧ ¬registry.Taken counter.name ∧
        counter.samples = [] := by
  cases done with
  | refused error barred =>
      refine ⟨[], by simp [map_served], fun counter => iff_of_false (by simp) ?_⟩
      rintro ⟨same, allowed, new, _⟩
      cases same
      exact new (barred allowed)
  | @registered name help labelNames allowed new =>
      refine ⟨[{ name, help, labelNames }], by simp [map_served, joined, append, connect], ?_⟩
      intro counter
      rw [List.mem_singleton]
      constructor
      · rintro rfl
        exact ⟨rfl, allowed, new, rfl⟩
      · rintro ⟨same, _, _, empty⟩
        cases same
        cases counter
        cases empty
        rfl
  | counted increment =>
      refine ⟨[], ?_, fun counter => iff_of_false (by simp) (by simp)⟩
      rw [List.append_nil]
      refine (sound.counters_record increment).trans ?_
      apply List.map_congr_left
      intro counter _
      by_cases same : counter.name = increment.name
      · simp [served, asked, same, Counter.count]
      · simp [served, asked, Ne.symm same, same]
  | gathered =>
      exact ⟨[], by simp [map_served], fun counter => iff_of_false (by simp) (by simp)⟩

/-- Every exported counter was registered and has the samples of what was asked for since. -/
theorem registered_of_mem (member : counter ∈ (after {} history).counters) :
    ∃ since, Registered counter history since ∧ counter = withAsked counter since := by
  induction history using List.reverseRecOn generalizing counter with
  | nil => cases member
  | append_singleton before request ih =>
      rw [after_concat] at member
      obtain ⟨added, counters, new⟩ :=
        (answered (after {} before) request).counters (sound_after before)
      rw [counters] at member
      obtain there | fresh := List.mem_append.mp member
      · obtain ⟨earlier, inside, rfl⟩ := List.mem_map.mp there
        obtain ⟨since, registered, samples⟩ := ih inside
        refine ⟨since ++ [request], registered.later request, ?_⟩
        calc served request earlier
            = served request (withAsked earlier since) := by rw [← samples]
          _ = withAsked earlier (since ++ [request]) := served_withAsked earlier since request
      · obtain ⟨rfl, allowed, free, empty⟩ := (new counter).mp fresh
        refine ⟨[], ⟨before, rfl, allowed, free⟩, ?_⟩
        unfold withAsked
        rw [show tallied (asked counter []) = counter.samples from empty.symm]

/-- Every counter that was registered is exported. -/
theorem Registered.mem (registered : Registered counter history since) :
    withAsked counter since ∈ (after {} history).counters := by
  obtain ⟨before, rfl, allowed, free⟩ := registered
  induction since using List.reverseRecOn with
  | nil =>
      obtain ⟨added, counters, new⟩ := (answered (after {} before)
        (.register counter.name counter.help counter.labelNames)).counters (sound_after before)
      rw [after_concat, counters]
      exact List.mem_append_right _ ((new (withAsked counter [])).mpr ⟨rfl, allowed, free, rfl⟩)
  | append_singleton since request ih =>
      rw [← List.cons_append, ← List.append_assoc, after_concat, ← served_withAsked]
      obtain ⟨added, counters, _⟩ := (answered _ request).counters (sound_after _)
      rw [counters]
      exact List.mem_append_left _ (List.mem_map_of_mem ih)

end Registered

/-! ## What is exported -/

/-- The export has a family of this name with a sample of these labels and count. -/
def Exports (registry : Registry) (name : String) (labels : List (String × String))
    (count : Nat) : Prop :=
  ∃ family ∈ registry.families, family.name = name ∧ (labels, count) ∈ family.sortedSamples

/-- The export has a sample for the label values of each increment since the registration, with the
number of increments with these values, and no others. -/
def Exact (registry : Registry) (counter : Counter) (since : List Request) : Prop :=
  ∀ labels count, registry.Exports counter.name labels count ↔
    ∃ values ∈ asked counter since, labels = counter.labelsByName values ∧
      count = (asked counter since).count values

theorem mem_families_iff {registry : Registry} {counter : Counter} :
    counter ∈ registry.families ↔ counter ∈ registry.counters ∧ counter.samples ≠ [] := by
  simp [families, List.mem_mergeSort]

theorem length_of_asked {counter : Counter} {requests : List Request} {values : List String}
    (member : values ∈ asked counter requests) :
    values.length = counter.labelNames.length := by
  obtain ⟨request, _, found⟩ := List.mem_filterMap.mp member
  cases request with
  | register => cases found
  | count increment =>
      dsimp only at found
      split at found
      · rw [← Option.some.inj found, counter.length_project]
      · cases found
  | gather => cases found

section Exports
variable {counter : Counter} {history since : List Request}

/-- Families are the registered counters that were asked for. -/
theorem exists_family_iff {name : String} :
    (∃ family ∈ (after {} history).families, family.name = name) ↔
      ∃ counter since, Registered counter history since ∧ counter.name = name ∧
        asked counter since ≠ [] := by
  constructor
  · rintro ⟨family, member, rfl⟩
    obtain ⟨inside, sampled⟩ := mem_families_iff.mp member
    obtain ⟨since, registered, samples⟩ := registered_of_mem inside
    refine ⟨family, since, registered, rfl, ?_⟩
    rw [samples] at sampled
    exact fun silent => sampled (Counter.tallied_eq_nil_iff.mpr silent)
  · rintro ⟨counter, since, registered, rfl, called⟩
    refine ⟨withAsked counter since, mem_families_iff.mpr ⟨registered.mem, ?_⟩, rfl⟩
    exact fun empty => called (Counter.tallied_eq_nil_iff.mp empty)

/-- A registered counter exports one sample for each fingerprint of label values since. -/
theorem Registered.exports_iff (registered : Registered counter history since)
    {labels : List (String × String)} {count : Nat} :
    (after {} history).Exports counter.name labels count ↔
      ∃ values,
        ((asked counter since).find? fun other => fingerprint other = fingerprint values) =
          some values ∧
        labels = counter.labelsByName values ∧
        count = (asked counter since).countP fun other =>
          fingerprint other = fingerprint values := by
  have own : (after {} history).Exports counter.name labels count ↔
      (labels, count) ∈ (withAsked counter since).sortedSamples := by
    constructor
    · rintro ⟨family, member, named, sample⟩
      have inside := (mem_families_iff.mp member).1
      have same := (sound_after history).eq_of_name inside registered.mem named
      rwa [same] at sample
    · intro sample
      obtain ⟨values, there, _⟩ := Counter.mem_sortedSamples_iff.mp sample
      refine ⟨_, mem_families_iff.mpr ⟨registered.mem, ?_⟩, rfl, sample⟩
      exact List.ne_nil_of_mem there
  rw [own, Counter.mem_sortedSamples_iff]
  constructor
  · rintro ⟨values, sample, labelled⟩
    obtain ⟨first, counted⟩ := Counter.mem_tallied_iff.mp sample
    exact ⟨values, first, labelled, counted⟩
  · rintro ⟨values, first, labelled, counted⟩
    exact ⟨values, Counter.mem_tallied_iff.mpr ⟨first, counted⟩, labelled⟩

/-- The export of a counter is exact exactly if its label values are told apart. -/
theorem Registered.exact_iff (registered : Registered counter history since) :
    (after {} history).Exact counter since ↔ Distinguished (asked counter since) := by
  constructor
  · intro exact_counts
    apply Counter.distinguished_of_find?
    intro values member
    obtain ⟨first, found, labelled, _⟩ := registered.exports_iff.mp
      ((exact_counts _ _).mpr ⟨values, member, rfl, rfl⟩)
    obtain ⟨_, _, allowed, _⟩ := registered
    have same := Counter.labelsByName_inj allowed.distinct (length_of_asked member)
      (length_of_asked (List.mem_of_find?_eq_some found)) labelled
    rw [same, found]
  · intro distinguished labels count
    rw [registered.exports_iff]
    constructor
    · rintro ⟨values, found, labelled, counted⟩
      have member := List.mem_of_find?_eq_some found
      exact ⟨values, member, labelled, counted.trans (distinguished.countP_eq_count member)⟩
    · rintro ⟨values, member, labelled, counted⟩
      exact ⟨values, distinguished.find? member, labelled,
        counted.trans (distinguished.countP_eq_count member).symm⟩

end Exports

/-! ## A registry of a publisher -/

def registration (counter : Counter) : Request :=
  .register counter.name counter.help counter.labelNames

theorem holding_concat (before : List Counter) (counter : Counter) :
    holding (before ++ [counter]) = (holding before).joined counter := by
  simp [holding, joined]

theorem counters_holding (counters : List Counter) : (holding counters).counters = counters := by
  induction counters using List.reverseRecOn with
  | nil => rfl
  | append_singleton before counter ih =>
      rw [holding_concat]
      simp [joined, append, connect, ih]

/-- A registry that holds counters is one that has registered them. -/
theorem after_registrations {counters : List Counter}
    (apart : (counters.map fun counter => fingerprint [counter.name]).Nodup)
    (allowed : ∀ counter ∈ counters, counter.samples = [] ∧
      Allowed counter.name counter.help counter.labelNames) :
    after {} (counters.map registration) = holding counters := by
  induction counters using List.reverseRecOn with
  | nil => rfl
  | append_singleton before counter ih =>
      rw [List.map_append, List.nodup_append] at apart
      obtain ⟨earlier, _, other⟩ := apart
      have reached := ih earlier fun counter member =>
        allowed counter (List.mem_append_left _ member)
      obtain ⟨empty, fit⟩ := allowed counter (List.mem_append_right _ (List.mem_singleton_self _))
      have free : ¬(holding before).Taken counter.name := by
        rintro ⟨found, member, same⟩
        rw [counters_holding] at member
        exact other _ (List.mem_map_of_mem member) _ (List.mem_singleton_self _) same
      have blank : (⟨counter.name, counter.help, counter.labelNames, []⟩ : Counter) = counter := by
        cases counter
        cases empty
        rfl
      rw [List.map_append, List.map_singleton, after_concat, reached, holding_concat]
      have done := enrolled (holding before) counter.name counter.help counter.labelNames
      rw [registration, answer]
      generalize (holding before).enrol counter.name counter.help counter.labelNames = result
        at done
      cases done with
      | invalid banned => exact absurd fit banned
      | taken _ taken => exact absurd taken free
      | joined => rw [blank]

/-- The registrations that the registry of a publisher begins with. -/
def opening : List Request :=
  publisherCounters.map registration

theorem after_opening : after {} opening = forPublisher := by
  apply after_registrations
  · decide +kernel
  · intro counter member
    simp only [publisherCounters, List.mem_cons, List.not_mem_nil, or_false] at member
    obtain rfl | rfl | rfl := member
    · exact ⟨rfl, by decide, by decide, by decide, by decide⟩
    · exact ⟨rfl, by decide, by decide, by decide, by decide⟩
    · exact ⟨rfl, by decide, by decide, by decide, by decide⟩

theorem after_history (requests : List Request) :
    after {} (opening ++ requests) = forPublisher.after requests := by
  rw [← after_opening, after, after, after, List.foldl_append]

/-- After any requests to the registry of a publisher: a registration is refused exactly if it is
not allowed or the name is taken, and a refused one changes nothing, now or later.  The counters are
those that were registered, and a family is exported exactly if its counter was registered and has
counted since.  For each fingerprint of label values it has one sample, with the first values and
the number of all.  These are the numbers of the values themselves exactly if no two of them that
differ share a fingerprint. -/
theorem exports_are_exact_iff (requests : List Request) :
    let history := opening ++ requests
    let registry := forPublisher.after requests
    (∀ name help labelNames,
      ((registry.enrol name help labelNames).1 = .error .invalid ↔
        ¬Allowed name help labelNames) ∧
      ((registry.enrol name help labelNames).1 = .error .taken ↔
        Allowed name help labelNames ∧ registry.Taken name) ∧
      ∀ error, (registry.enrol name help labelNames).1 = .error error →
        (registry.enrol name help labelNames).2 = registry ∧
        ∀ later, registry.replies (.register name help labelNames :: later) =
          .refused error :: registry.replies later) ∧
    (∀ counter, counter ∈ registry.counters ↔
      ∃ since, Registered counter history since ∧ counter = withAsked counter since) ∧
    (∀ name, (∃ family ∈ registry.families, family.name = name) ↔
      ∃ counter since, Registered counter history since ∧ counter.name = name ∧
        asked counter since ≠ []) ∧
    ∀ counter since, Registered counter history since →
      (∀ labels count, registry.Exports counter.name labels count ↔
        ∃ values,
          ((asked counter since).find? fun other => fingerprint other = fingerprint values) =
            some values ∧
          labels = counter.labelsByName values ∧
          count = (asked counter since).countP fun other =>
            fingerprint other = fingerprint values) ∧
      (registry.Exact counter since ↔ Distinguished (asked counter since)) := by
  intro history registry
  have reached : after {} history = registry := after_history requests
  rw [← reached]
  refine ⟨?_, ?_, fun name => exists_family_iff, ?_⟩
  · intro name help labelNames
    have done := enrolled (after {} history) name help labelNames
    refine ⟨done.invalid_iff, done.taken_iff, ?_⟩
    intro error refused
    exact ⟨done.kept refused, replies_of_refused refused⟩
  · intro counter
    constructor
    · exact registered_of_mem
    · rintro ⟨since, registered, same⟩
      rw [same]
      exact registered.mem
  · intro counter since registered
    exact ⟨fun labels count => registered.exports_iff, registered.exact_iff⟩

def visits : Counter :=
  { name := "visits", help := "Visits by place and day", labelNames := ["place", "day"] }

/-- The requests after a registration that the registry of a publisher accepts. -/
theorem registered_visits (since : List Request) :
    Registered visits (opening ++ registration visits :: since) since := by
  refine ⟨opening, rfl, ⟨by decide, by decide, by decide, by decide⟩, ?_⟩
  rw [after_opening, ← isTaken_iff]
  decide +kernel

/-- The values of both increments spell the same text. -/
def confusedVisits : List Request :=
  [.count ⟨"visits", [("place", "ab"), ("day", "c")]⟩,
    .count ⟨"visits", [("day", "bc"), ("place", "a")]⟩]

theorem confusedVisits_are_merged :
    let registry := forPublisher.after (registration visits :: confusedVisits)
    registry.Exports "visits" (visits.labelsByName ["ab", "c"]) 2 ∧
    ¬registry.Exports "visits" (visits.labelsByName ["a", "bc"]) 1 ∧
    ¬registry.Exact visits confusedVisits := by
  have registered := registered_visits confusedVisits
  have asked_visits : asked visits confusedVisits = [["ab", "c"], ["a", "bc"]] := by decide
  have exports := @Registered.exports_iff _ _ _ registered
  have exact_iff := registered.exact_iff
  have same : fingerprint ["ab", "c"] = fingerprint ["a", "bc"] := rfl
  rw [after_history, asked_visits] at exports exact_iff
  refine ⟨?_, ?_, ?_⟩
  · refine exports.mpr ⟨["ab", "c"], ?_, rfl, ?_⟩
    · simp
    · simp [same]
  · intro shown
    obtain ⟨values, first, _, counted⟩ := exports.mp shown
    have found : fingerprint ["ab", "c"] = fingerprint values := by
      have member := List.mem_of_find?_eq_some first
      simp only [List.mem_cons, List.not_mem_nil, or_false] at member
      rcases member with rfl | rfl
      · rfl
      · exact same
    simp [← found, ← same] at counted
  · rw [exact_iff]
    intro distinguished
    have equal := distinguished _ (by simp) _ (by simp) same
    simp at equal

/-- Labels in another order, with a further label, and with a missing one. -/
def plainVisits : List Request :=
  [.count ⟨"visits", [("place", "ab"), ("day", "c")]⟩,
    .register "visits" "Visits" [],
    .count ⟨"visits", [("day", "c"), ("place", "ab"), ("day", "d"), ("hour", "e")]⟩,
    .count ⟨"visits", [("place", "ab")]⟩,
    .count ⟨"visitors", []⟩]

theorem plainVisits_are_counted :
    let registry := forPublisher.after (registration visits :: plainVisits)
    registry.Exact visits plainVisits ∧
    registry.Exports "visits" (visits.labelsByName ["ab", "c"]) 2 ∧
    registry.Exports "visits" (visits.labelsByName ["ab", ""]) 1 ∧
    (registry.enrol "visits" "Visits" []).2 = registry := by
  intro registry
  have registered := registered_visits plainVisits
  have asked_visits :
      asked visits plainVisits = [["ab", "c"], ["ab", "c"], ["ab", ""]] := by decide
  have different : fingerprint ["ab", "c"] ≠ fingerprint ["ab", ""] := by decide
  obtain ⟨answers, _, _, exports⟩ := exports_are_exact_iff (registration visits :: plainVisits)
  obtain ⟨_, exact_iff⟩ := exports visits plainVisits registered
  have distinguished : Distinguished (asked visits plainVisits) := by
    rw [asked_visits]
    intro values member others there same
    simp only [List.mem_cons, List.not_mem_nil, or_false] at member there
    rcases member with rfl | rfl | rfl <;> rcases there with rfl | rfl | rfl
    all_goals first | rfl | exact absurd same different | exact absurd same different.symm
  have shown := exact_iff.mpr distinguished
  obtain ⟨_, taken, kept⟩ := answers "visits" "Visits" []
  refine ⟨shown, ?_, ?_, ?_⟩
  · refine (shown _ _).mpr ⟨["ab", "c"], ?_, rfl, ?_⟩
    · simp [asked_visits]
    · rw [asked_visits]
      decide
  · refine (shown _ _).mpr ⟨["ab", ""], ?_, rfl, ?_⟩
    · simp [asked_visits]
    · rw [asked_visits]
      decide
  · apply (kept .taken (taken.mpr ⟨⟨by decide, by decide, by decide, by decide⟩, ?_⟩)).1
    refine ⟨withAsked visits plainVisits, ?_, rfl⟩
    exact after_history (registration visits :: plainVisits) ▸ registered.mem

end Outbox.Registry
