import Outbox.Proofs.Envelope
import Outbox.Proofs.Json.Objects

/-!
# Objects with further members

A reader of envelopes asks for its six members.  It finds them in any order, in any spelling and
among any members of other names, whose values are passed over.  It never accepts an object in which
one of the six is missing or stands twice.
-/

set_option autoImplicit false

namespace Outbox.Envelope

open Json (Blank Field ObjectText Restates Spells Stops fieldsBytes)

/-! ## One member -/

section Reading
variable {format : Format} {envelope : Envelope} {draft : Draft} {gap rest : Bytes}

/-- White space before a value is of no account. -/
theorem Draft.read_blank (blank : Blank gap) (member : Member) (bytes : Bytes) :
    draft.read format (gap ++ bytes) member = draft.read format bytes member := by
  cases member <;>
    simp only [Draft.read, Json.readParsed, Json.readString, Json.readInteger, Json.readOctets,
      blank.dropSpace]

/-- What is read from a text does not depend on its spelling. -/
theorem Draft.read_spelled {text : List Char} {content other : Bytes}
    (spells : Spells text content) (spelled : Spells text other) (member : Member) :
    draft.read format (0x22 :: (content ++ 0x22 :: rest)) member =
      draft.read format (0x22 :: (other ++ 0x22 :: rest)) member := by
  cases member <;>
    simp only [Draft.read, Json.readParsed, spells.readString, spelled.readString,
      spells.readInteger, spelled.readInteger, spells.readOctets, spelled.readOctets]

/-- A value of an envelope is read in every spelling. -/
theorem Draft.read_restated {value : Bytes} {member : Member}
    (restates : Restates (envelope.valueText format member) value) (blank : Blank gap)
    (stops : Stops rest) :
    draft.read format (gap ++ (value ++ rest)) member = .ok (draft.put envelope member, rest) := by
  have read : draft.read format (Utf8.encode (envelope.valueText format member) ++ rest) member =
      .ok (draft.put envelope member, rest) := Draft.read_valueText member stops
  rw [Draft.read_blank blank]
  generalize envelope.valueText format member = text at restates read
  cases restates with
  | same => exact read
  | @respelled text content spells =>
      rw [Json.encode_quote] at read
      rw [List.cons_append, List.append_assoc, List.singleton_append,
        Draft.read_spelled spells (.quoted text), read]

/-- A reader fills in its member if it reads the value and takes what a reader would take that
passes over it. -/
theorem Draft.of_reader {α : Type} {bytes : Bytes} {member : Member}
    {result : Except Json.Fault (α × Bytes)} (fill : α → Draft)
    (passed : ∀ {value after}, result = .ok (value, after) → Json.skipValue bytes = .ok after)
    (has : ∀ value other, (fill value).has other = (draft.has other || other = member))
    {filled : Draft}
    (read : (result >>= fun found => .ok (fill found.1, found.2)) = .ok (filled, rest)) :
    Json.skipValue bytes = .ok rest ∧
      ∀ other, filled.has other = (draft.has other || other = member) := by
  cases result with
  | error fault => cases read
  | ok found =>
      cases read
      exact ⟨passed rfl, has found.1⟩

/-- A reader that succeeds stops where the value ends, and the draft has its member then. -/
theorem Draft.of_read (form : format.contentForm = .base64) {bytes : Bytes} {member : Member}
    {filled : Draft} (read : draft.read format bytes member = .ok (filled, rest)) :
    Json.skipValue bytes = .ok rest ∧
      ∀ other, filled.has other = (draft.has other || other = member) := by
  cases member with
  | id =>
      refine Draft.of_reader (fun id => { draft with id := some id })
        Json.skipValue_of_readParsed ?_ read
      intro _ other
      cases other <;> simp [Draft.has]
  | time =>
      refine Draft.of_reader (fun time => { draft with time := some time })
        Json.skipValue_of_readParsed ?_ read
      intro _ other
      cases other <;> simp [Draft.has]
  | aggregateId =>
      refine Draft.of_reader (fun aggregateId => { draft with aggregateId := some aggregateId })
        Json.skipValue_of_readInteger ?_ read
      intro _ other
      cases other <;> simp [Draft.has]
  | kind =>
      refine Draft.of_reader (fun kind => { draft with kind := some kind })
        Json.skipValue_of_readString ?_ read
      intro _ other
      cases other <;> simp [Draft.has]
  | content =>
      simp only [Draft.read, form] at read
      refine Draft.of_reader (fun content => { draft with content := some content })
        Json.skipValue_of_readParsed ?_ read
      intro _ other
      cases other <;> simp [Draft.has]
  | metadata =>
      refine Draft.of_reader (fun metadata => { draft with metadata := some metadata })
        Json.skipValue_of_readString ?_ read
      intro _ other
      cases other <;> simp [Draft.has]

/-! ## One member of an object -/

theorem nextName_field {first : Bool} (blank : Blank gap) (field : Field) (fields : List Field)
    (behind : Bytes) :
    nextName first (gap ++ fieldsBytes first (field :: fields) behind) =
      .ok (true, field.tail (fieldsBytes false fields behind)) := by
  cases first with
  | true => exact nextName_first blank field.beforeName.blank _
  | false => exact nextName_later blank field.beforeName.blank _

/-- What becomes of a member: a known one is read unless it was there before, an unknown one is
passed over. -/
theorem readMembers_field {first : Bool} (blank : Blank gap) (field : Field) (fields : List Field)
    (behind : Bytes) (fuel : Nat) :
    readMembers format draft first (fuel + 1) (gap ++ fieldsBytes first (field :: fields) behind) =
      match format.member? field.name.toList with
      | none =>
        readMembers format draft false fuel
          (field.behindValue.bytes ++ fieldsBytes false fields behind)
      | some member =>
        if draft.has member then .error (.repeatedMember (format.name member))
        else
          match draft.read format (field.beforeValue.bytes ++ (field.value ++
              (field.behindValue.bytes ++ fieldsBytes false fields behind))) member with
          | .error fault => .error fault
          | .ok (draft, rest) => readMembers format draft false fuel rest := by
  have named := field.spelled.readText
  have skipped := field.written.skipValue field.beforeValue.blank (field.stops fields behind)
  have reached := Json.expectColon_blank field.beforeColon.blank
  rw [readMembers, nextName_field blank]
  cases known : format.member? field.name.toList with
  | none => simp only [Field.tail, named, known, reached, skipped]
  | some member =>
      by_cases present : draft.has member = true
      · simp only [Field.tail, named, known, if_pos present]
      · cases outcome : draft.read format (field.beforeValue.bytes ++ (field.value ++
            (field.behindValue.bytes ++ fieldsBytes false fields behind))) member <;>
          simp only [Field.tail, named, known, if_neg present, reached, outcome]

end Reading

/-! ## All members of an object -/

/-- The members of an envelope that stand in an object, each as often as it stands there. -/
def Format.membersIn (format : Format) (fields : List Field) : List Member :=
  fields.filterMap fun field => format.member? field.name.toList

/-- The draft with some members of an envelope. -/
def Draft.part (envelope : Envelope) (present : Member → Bool) : Draft where
  id := if present .id then some envelope.id else none
  time := if present .time then some envelope.time else none
  aggregateId := if present .aggregateId then some envelope.aggregateId else none
  kind := if present .kind then some envelope.kind.toList else none
  content := if present .content then some envelope.content else none
  metadata := if present .metadata then some envelope.metadata.toList else none

section Draft
variable {format : Format} {envelope : Envelope} {present : Member → Bool}

theorem Draft.has_part (member : Member) :
    (Draft.part envelope present).has member = present member := by
  cases member <;> cases found : present _ <;> simp [Draft.has, Draft.part, found]

theorem Draft.put_part (member : Member) :
    (Draft.part envelope present).put envelope member =
      Draft.part envelope fun other => present other || other = member := by
  cases member <;> simp [Draft.put, Draft.part]

theorem Draft.complete_part (all : ∀ member, present member = true) :
    (Draft.part envelope present).complete format = .ok envelope := by
  simp [Draft.part, Draft.complete, all]

end Draft

section Run
variable {format : Format} {envelope : Envelope} {gap behind : Bytes} {fields : List Field}

/-- Members of an envelope that stand in an object once are read into the draft, whatever stands
between them. -/
theorem readMembers_all {present : Member → Bool} {first : Bool} (blank : Blank gap) {fuel : Nat}
    (enough : fields.length < fuel)
    (told : ∀ field ∈ fields, ∀ member, format.member? field.name.toList = some member →
      Restates (envelope.valueText format member) field.value)
    (distinct : (format.membersIn fields).Nodup)
    (new : ∀ member ∈ format.membersIn fields, present member = false) :
    readMembers format (.part envelope present) first fuel
        (gap ++ fieldsBytes first fields behind) =
      .ok (.part envelope fun member => present member || member ∈ format.membersIn fields,
        behind) := by
  induction fields generalizing present first gap fuel with
  | nil =>
      cases fuel with
      | zero => omega
      | succ fuel =>
          rw [readMembers, fieldsBytes, nextName_closing first blank]
          simp [Format.membersIn]
  | cons field fields ih =>
      cases fuel with
      | zero => omega
      | succ fuel =>
          have less : fields.length < fuel := by
            rw [List.length_cons] at enough
            omega
          have later := fun other there => told other (List.mem_cons_of_mem field there)
          rw [readMembers_field blank]
          cases known : format.member? field.name.toList with
          | none =>
              have same : format.membersIn (field :: fields) = format.membersIn fields :=
                List.filterMap_cons_none known
              rw [same] at distinct new ⊢
              exact ih field.behindValue.blank less later distinct new
          | some member =>
              have more : format.membersIn (field :: fields) =
                  member :: format.membersIn fields := List.filterMap_cons_some known
              rw [more] at distinct new ⊢
              -- The draft grows by this member, which no later field names again.
              obtain ⟨alone, distinct⟩ := List.nodup_cons.mp distinct
              have fresh := new member (List.mem_cons_self ..)
              have restates := told field (List.mem_cons_self ..) member known
              simp only [Draft.has_part, fresh, Draft.put_part,
                Draft.read_restated restates field.beforeValue.blank (field.stops fields behind)]
              rw [if_neg (by decide), ih field.behindValue.blank less later distinct]
              · simp [Bool.or_assoc]
              · intro other there
                have different : other ≠ member := by
                  rintro rfl
                  exact alone there
                simp [new other (List.mem_cons_of_mem _ there), different]

/-- A reader that comes to the end of an object has found each member of its draft once. -/
theorem count_of_readMembers (form : format.contentForm = .base64) {first : Bool}
    {draft filled : Draft} {fuel : Nat} {rest : Bytes} (blank : Blank gap)
    (read : readMembers format draft first fuel (gap ++ fieldsBytes first fields behind) =
      .ok (filled, rest)) (member : Member) :
    (filled.has member).toNat =
      (draft.has member).toNat + (format.membersIn fields).count member := by
  induction fields generalizing draft first gap fuel with
  | nil =>
      cases fuel with
      | zero => cases read
      | succ fuel =>
          rw [readMembers, fieldsBytes, nextName_closing first blank] at read
          cases read
          rfl
  | cons field fields ih =>
      cases fuel with
      | zero => cases read
      | succ fuel =>
          have skipped := field.written.skipValue field.beforeValue.blank
            (field.stops fields behind)
          rw [readMembers_field blank] at read
          cases known : format.member? field.name.toList with
          | none =>
              have same : format.membersIn (field :: fields) = format.membersIn fields :=
                List.filterMap_cons_none known
              simp only [known] at read
              rw [same]
              exact ih field.behindValue.blank read
          | some found =>
              have more : format.membersIn (field :: fields) =
                  found :: format.membersIn fields := List.filterMap_cons_some known
              simp only [known] at read
              split at read
              · cases read
              · rename_i absent
                split at read
                · cases read
                · rename_i next after value
                  -- The value may be of any kind, but a reader that accepts it stops at its end, so
                  -- that the next member is met at its beginning.
                  obtain ⟨ended, has⟩ := Draft.of_read form value
                  rw [skipped] at ended
                  cases ended
                  have rest := ih field.behindValue.blank read
                  rw [more, rest, has member]
                  by_cases same : member = found
                  · subst same
                    simp only [Bool.not_eq_true] at absent
                    simp [absent, Nat.add_comm]
                  · simp [same, Ne.symm same]

end Run

/-! ## Whole objects -/

/-- A draft from which an envelope was made lacks nothing. -/
theorem Draft.has_of_complete {format : Format} {draft : Draft} {envelope : Envelope}
    (complete : draft.complete format = .ok envelope) (member : Member) :
    draft.has member = true := by
  unfold Draft.complete at complete
  split at complete
  · cases member <;> rfl
  · split at complete <;> cases complete

/-- The fuel of the reader is enough for all members. -/
theorem read_object (format : Format) (object : ObjectText) :
    ∃ fuel, object.fields.length < fuel ∧
      read format object.bytes =
        match readMembers format {} true fuel
            (object.behindBrace.bytes ++ fieldsBytes true object.fields object.behind.bytes) with
        | .error fault => .error fault
        | .ok (draft, rest) =>
          match draft.complete format with
          | .error fault => .error fault
          | .ok envelope => Json.finish (.ok (envelope, rest)) := by
  have long := Json.length_le_fieldsBytes true object.fields object.behind.bytes
  refine ⟨(object.behindBrace.bytes ++
    fieldsBytes true object.fields object.behind.bytes).length + 1, ?_, ?_⟩
  · rw [List.length_append]
    omega
  · rw [read, readValue, ObjectText.bytes, object.before.blank.dropSpace_visible rfl]
    simp only
    rw [if_neg (by decide), if_pos trivial]
    generalize readMembers format {} true _ _ = result
    cases result with
    | error fault => rfl
    | ok result =>
        cases complete : result.1.complete format <;> simp [complete, Json.finish]

section Objects
variable {format : Format} (legible : format.Legible)
include legible

theorem Format.Legible.member?_eq (name : String) (member : Member) :
    format.member? name.toList = some member ↔ name = format.name member := by
  constructor
  · intro found
    have same := List.find?_some found
    simp only [decide_eq_true_eq] at same
    exact (String.toList_inj.mp same).symm
  · rintro rfl
    exact legible member

theorem Format.Legible.length_valuesOf (object : ObjectText) (member : Member) :
    (object.valuesOf (format.name member)).length =
      (format.membersIn object.fields).count member := by
  rw [List.count, Format.membersIn, List.countP_filterMap, ObjectText.valuesOf, List.length_map,
    ← List.countP_eq_length_filter]
  apply List.countP_congr
  intro field _
  have named := legible.member?_eq field.name member
  cases known : format.member? field.name.toList with
  | none =>
      rw [known] at named
      simpa using named.symm
  | some other =>
      rw [known] at named
      simpa using named.symm

theorem Format.Legible.mem_valuesOf {object : ObjectText} {field : Field} {member : Member}
    (stands : field ∈ object.fields) (known : format.member? field.name.toList = some member) :
    field.value ∈ object.valuesOf (format.name member) := by
  apply List.mem_map_of_mem
  rw [List.mem_filter]
  exact ⟨stands, by simpa using (legible.member?_eq field.name member).mp known⟩

/-- An object with the six members of an envelope, and any others, is read as this envelope. -/
theorem read_of_members {object : ObjectText} {envelope : Envelope}
    (told : ∀ member, ∃ value, object.valuesOf (format.name member) = [value] ∧
      Restates (envelope.valueText format member) value) :
    read format object.bytes = .ok envelope := by
  have once : ∀ member, (format.membersIn object.fields).count member = 1 := by
    intro member
    obtain ⟨value, only, _⟩ := told member
    rw [← legible.length_valuesOf, only]
    rfl
  have distinct : (format.membersIn object.fields).Nodup := by
    rw [List.nodup_iff_count]
    exact fun member => Nat.le_of_eq (once member)
  have all : ∀ member, member ∈ format.membersIn object.fields := by
    intro member
    rw [← List.count_pos_iff, once member]
    exact Nat.one_pos
  have restated : ∀ field ∈ object.fields, ∀ member,
      format.member? field.name.toList = some member →
      Restates (envelope.valueText format member) field.value := by
    intro field stands member known
    obtain ⟨value, only, restates⟩ := told member
    have listed := legible.mem_valuesOf stands known
    rw [only, List.mem_singleton] at listed
    rw [listed]
    exact restates
  have complete : (Draft.part envelope fun member =>
      false || member ∈ format.membersIn object.fields).complete format = .ok envelope := by
    apply Draft.complete_part
    intro member
    simp [all member]
  have start : ({} : Draft) = .part envelope fun _ => false := rfl
  obtain ⟨fuel, enough, same⟩ := read_object format object
  rw [same, start,
    readMembers_all object.behindBrace.blank enough restated distinct fun _ _ => rfl]
  simp only [complete]
  rw [Json.finish, ← List.append_nil object.behind.bytes, object.behind.blank.dropSpace]
  rfl

/-- An object in which a member is missing or stands twice is refused. -/
theorem fault_of_members (form : format.contentForm = .base64) {object : ObjectText}
    {member : Member} (uncertain : (object.valuesOf (format.name member)).length ≠ 1) :
    ∃ fault, read format object.bytes = .error fault := by
  obtain ⟨fuel, _, same⟩ := read_object format object
  rw [same]
  cases run : readMembers format {} true fuel
      (object.behindBrace.bytes ++ fieldsBytes true object.fields object.behind.bytes) with
  | error fault => exact ⟨fault, rfl⟩
  | ok result =>
      obtain ⟨filled, rest⟩ := result
      have count := count_of_readMembers form object.behindBrace.blank run member
      have absent : ({} : Draft).has member = false := by
        cases member <;> rfl
      rw [← legible.length_valuesOf, absent] at count
      cases complete : filled.complete format with
      | error fault => exact ⟨fault, by simp [complete]⟩
      | ok envelope =>
          rw [Draft.has_of_complete complete] at count
          exact absurd (by simpa using count.symm) uncertain

end Objects

/-! ## The writer's own members -/

theorem written_valueText {format : Format} (form : format.contentForm = .base64)
    (envelope : Envelope) (member : Member) :
    Json.Written .value (Utf8.encode (envelope.valueText format member)) := by
  cases member with
  | aggregateId => exact Json.written_integerText _
  | content =>
      simp only [valueText, form]
      exact Json.written_quote _
  | id | time | kind | metadata => exact Json.written_quote _

/-- A member as the writer writes it. -/
def field {format : Format} (form : format.contentForm = .base64) (envelope : Envelope)
    (member : Member) : Field where
  name := format.name member
  spelling := Utf8.encode ((format.name member).toList.flatMap Json.quoteChar)
  value := Utf8.encode (envelope.valueText format member)
  spelled := .quoted _
  written := written_valueText form envelope member

/-- The writer's own text is the object of these members, without any white space. -/
theorem encode_text_eq_object {format : Format} (form : format.contentForm = .base64)
    (envelope : Envelope) :
    Utf8.encode (envelope.text format) =
      ObjectText.bytes { fields := Member.all.map (field form envelope) } := by
  rw [encode_text]
  simp only [ObjectText.bytes, Member.all, List.map_cons, List.map_nil, fieldsBytes, Field.tail,
    field, Json.Space.none, memberTail, Json.itemBytes_cons, encode_memberText]
  simp [Json.itemBytes]

end Outbox.Envelope

namespace Outbox.Event

open Json (Blank Exponent Field Figure Literal ObjectText Restates Written)

/-- Decoding rests on the six members alone.  Whatever other members an object has, and however it
is laid out, it is decoded to the event whose members it has, each once; and it is never decoded if
one of the six is missing or stands there twice. -/
theorem decoding_rests_on_members (object : ObjectText) :
    (∀ event : Event,
      (∀ member, ∃ value, object.valuesOf (format.name member) = [value] ∧
        Restates (event.toEnvelope.valueText format member) value) →
      decode object.bytes = .ok event) ∧
    ((∃ member, (object.valuesOf (format.name member)).length ≠ 1) →
      ∃ fault, decode object.bytes = .error (.serialization fault)) := by
  constructor
  · intro event told
    have read := Envelope.read_of_members legible told
    rw [decode, read]
    rfl
  · rintro ⟨member, uncertain⟩
    obtain ⟨fault, refused⟩ := Envelope.fault_of_members legible rfl uncertain
    exact ⟨fault, by rw [decode, refused]⟩

def pear : Event where
  id := ⟨7, by decide⟩
  createdAt := .epoch
  aggregateId := -3
  aggregateType := "fruit"
  payload := [0x70, 0x00]
  metadata := "ripe"

/-- A member that no event has: an object, `"a":[1e5]` between braces. -/
def note : Field where
  name := "note"
  spelling := Utf8.encode ("note".toList.flatMap Json.quoteChar)
  value := [0x7B, 0x22, 0x61, 0x22, 0x3A, 0x5B, 0x31, 0x65, 0x35, 0x5D, 0x7D]
  beforeColon := ⟨[0x09], by simp [Blank, Json.isSpace]⟩
  spelled := .quoted _
  written := by
    have digit : ∀ byte, Json.isDigit byte = true → Json.Digits [byte] := by
      intro byte digit
      exact ⟨by simp, by simpa using digit⟩
    have number : Written .value [0x31, 0x65, 0x35] :=
      .number (@Figure.mk [] [0x31] [] [0x65, 0x35] (Or.inl rfl) (digit 0x31 rfl) (by decide)
        .absent (@Exponent.present 0x65 [] [0x35] (Or.inl rfl) (Or.inl rfl) (digit 0x35 rfl)))
    have list : Written .value [0x5B, 0x31, 0x65, 0x35, 0x5D] :=
      @Written.filled .list [0x31, 0x65, 0x35] [0x5D]
        (@Written.element [] _ Blank.nil number) (@Written.closing .list [] Blank.nil)
    have name : Literal [0x61] := .plain (by decide) (by decide) (by decide) .nil
    exact @Written.filled .object [0x22, 0x61, 0x22, 0x3A, 0x5B, 0x31, 0x65, 0x35, 0x5D] [0x7D]
      (@Written.member [] [0x61] [] [] _ Blank.nil name Blank.nil Blank.nil list)
      (@Written.closing .object [] Blank.nil)

def pearMember (member : Envelope.Member) : Field :=
  Envelope.field (show format.contentForm = .base64 from rfl) pear.toEnvelope member

/-- The members of `pear` from the last to the first, behind a member of another name. -/
def pearText : ObjectText where
  fields := note :: Envelope.Member.all.reverse.map pearMember
  behindBrace := ⟨[0x0A, 0x20], by simp [Blank, Json.isSpace]⟩

/-- The members of `pear` with its id once more. -/
def doubledText : ObjectText where
  fields := pearMember .id :: pearText.fields

theorem pear_rests_on_members :
    decode pearText.bytes = .ok pear ∧
    ∃ fault, decode doubledText.bytes = .error (.serialization fault) := by
  constructor
  · apply (decoding_rests_on_members pearText).1
    intro member
    cases member <;> exact ⟨_, rfl, .same _⟩
  · apply (decoding_rests_on_members doubledText).2
    exact ⟨.id, by decide⟩

end Outbox.Event
