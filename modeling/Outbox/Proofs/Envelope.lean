import Outbox.Audit.Entry
import Outbox.Proofs.Bytes.Base64
import Outbox.Proofs.Json.Grammar
import Outbox.Proofs.Text.Uuid
import Outbox.Proofs.Time.Timestamp

/-!
# Envelopes there and back

A reader gives back every envelope from its JSON text, in both forms of the content.  So a
subscriber gets exactly the event that a publisher has sent, and different events never have the
same bytes.
-/

set_option autoImplicit false

namespace Outbox.Envelope

open Json (Blank Stops itemBytes)

/-! ## Members -/

/-- The names of a format tell its members apart. -/
def Format.Legible (format : Format) : Prop :=
  ∀ member, format.member? (format.name member).toList = some member

/-- A draft with a member of an envelope. -/
def Draft.put (envelope : Envelope) (draft : Draft) : Member → Draft
  | .id => { draft with id := some envelope.id }
  | .time => { draft with time := some envelope.time }
  | .aggregateId => { draft with aggregateId := some envelope.aggregateId }
  | .kind => { draft with kind := some envelope.kind.toList }
  | .content => { draft with content := some envelope.content }
  | .metadata => { draft with metadata := some envelope.metadata.toList }

theorem Draft.has_put (envelope : Envelope) (draft : Draft) {member other : Member}
    (different : other ≠ member) : (draft.put envelope member).has other = draft.has other := by
  cases member <;> cases other <;> first | rfl | exact absurd rfl different

section Reading
variable {format : Format} {envelope : Envelope} {draft : Draft} {rest : Bytes}

theorem Draft.read_valueText (member : Member) (stops : Stops rest) :
    draft.read format (Utf8.encode (envelope.valueText format member) ++ rest) member =
      .ok (draft.put envelope member, rest) := by
  cases member with
  | id =>
      have read := Json.readParsed_quote (Uuid.parse?_text envelope.id) rest
      simp only [Draft.read, valueText, read]
      rfl
  | time =>
      have read := Json.readParsed_quote (Time.Instant.parse?_text envelope.time) rest
      simp only [Draft.read, valueText, read]
      rfl
  | aggregateId =>
      have read := Json.readInteger_int64 envelope.aggregateId stops
      simp only [Draft.read, valueText, read]
      rfl
  | kind =>
      have read := Json.readString_quote envelope.kind.toList rest
      simp only [Draft.read, valueText, read]
      rfl
  | content =>
      cases form : format.contentForm with
      | base64 =>
          have read := Json.readParsed_quote (Base64.decode?_encode envelope.content) rest
          simp only [Draft.read, valueText, form, read]
          rfl
      | octets =>
          have read := Json.readOctets_text envelope.content rest
          simp only [Draft.read, valueText, form, read]
          rfl
  | metadata =>
      have read := Json.readString_quote envelope.metadata.toList rest
      simp only [Draft.read, valueText, read]
      rfl

/-- The bytes of a member behind the opening quote of its name. -/
def memberTail (format : Format) (envelope : Envelope) (member : Member) : Bytes :=
  Utf8.encode ((format.name member).toList.flatMap Json.quoteChar) ++
    0x22 :: 0x3A :: Utf8.encode (envelope.valueText format member)

theorem encode_memberText (format : Format) (envelope : Envelope) (member : Member) :
    Utf8.encode (envelope.memberText format member) =
      0x22 :: envelope.memberTail format member := by
  have colon : Utf8.encodeChar ':' = [0x3A] := by decide
  rw [memberText, Utf8.encode_append, Utf8.encode_cons, colon, Json.encode_quote]
  rfl

/-- A member that is not yet in the draft is read into it. -/
theorem readMembers_member (legible : format.Legible) {member : Member}
    (new : draft.has member = false) (stops : Stops rest) {first : Bool} {bytes : Bytes}
    (named : nextName first bytes = .ok (true, envelope.memberTail format member ++ rest))
    (fuel : Nat) :
    readMembers format draft first (fuel + 1) bytes =
      readMembers format (draft.put envelope member) false fuel rest := by
  have name : Json.readText (envelope.memberTail format member ++ rest) =
      .ok ((format.name member).toList,
        0x3A :: (Utf8.encode (envelope.valueText format member) ++ rest)) := by
    rw [memberTail, List.append_assoc]
    exact Json.readText_quoted _ _
  have colon : Json.expectColon
      (0x3A :: (Utf8.encode (envelope.valueText format member) ++ rest)) =
      .ok (Utf8.encode (envelope.valueText format member) ++ rest) := by
    rw [Json.expectColon, Json.dropSpace_of_visible rfl]
    rfl
  rw [readMembers, named]
  simp only [name, legible member, new, colon, Draft.read_valueText member stops]
  rfl

section Names
variable {gap before : Bytes}

theorem nextName_later (blank : Blank gap) (space : Blank before) (more : Bytes) :
    nextName false (gap ++ 0x2C :: (before ++ 0x22 :: more)) = .ok (true, more) := by
  rw [nextName, blank.dropSpace_visible rfl]
  simp [space.dropSpace_visible (show Json.isSpace 0x22 = false from rfl)]

theorem nextName_first (blank : Blank gap) (space : Blank before) (more : Bytes) :
    nextName true (gap ++ (before ++ 0x22 :: more)) = .ok (true, more) := by
  rw [nextName, blank.dropSpace, space.dropSpace_visible rfl]
  simp

theorem nextName_closing (first : Bool) (blank : Blank gap) (more : Bytes) :
    nextName first (gap ++ 0x7D :: more) = .ok (false, more) := by
  rw [nextName, blank.dropSpace_visible rfl]
  simp

end Names

/-- Members that are not yet in the draft are read into it, up to the closing brace. -/
theorem readMembers_items (legible : format.Legible) {members : List Member}
    (distinct : members.Nodup) (new : ∀ member ∈ members, draft.has member = false) {fuel : Nat}
    (enough : members.length < fuel) :
    readMembers format draft false fuel
      (itemBytes (envelope.memberText format) members ++ 0x7D :: rest) =
      .ok (members.foldl (Draft.put envelope) draft, rest) := by
  induction members generalizing draft fuel with
  | nil =>
      cases fuel with
      | zero => omega
      | succ fuel =>
          change readMembers format draft false (fuel + 1) ([] ++ 0x7D :: rest) = _
          rw [readMembers, nextName_closing false .nil]
          rfl
  | cons member members ih =>
      cases fuel with
      | zero => omega
      | succ fuel =>
          simp only [List.length_cons, List.nodup_cons] at enough distinct
          have stops := Json.stops_itemBytes (envelope.memberText format) members (Or.inr rfl) rest
          rw [Json.itemBytes_cons, encode_memberText, List.cons_append, List.append_assoc,
            List.cons_append,
            readMembers_member legible (new member (List.mem_cons_self ..)) stops
              (show nextName false (0x2C :: 0x22 :: _) = _ from nextName_later .nil .nil _),
            List.foldl_cons]
          apply ih distinct.2
          · intro other there
            have different : other ≠ member := by
              rintro rfl
              exact distinct.1 there
            rw [Draft.has_put envelope draft different]
            exact new other (List.mem_cons_of_mem _ there)
          · omega

end Reading

/-! ## Whole envelopes -/

theorem encode_text (format : Format) (envelope : Envelope) :
    Utf8.encode (envelope.text format) =
      0x7B :: 0x22 :: (envelope.memberTail format .id ++
        (itemBytes (envelope.memberText format)
          [.time, .aggregateId, .kind, .content, .metadata] ++ [0x7D])) := by
  have braces : Utf8.encodeChar '\x7b' = [0x7B] ∧ Utf8.encodeChar '\x7d' = [0x7D] := by decide
  have items : List.intercalate [','] (Member.all.map (envelope.memberText format)) =
      envelope.memberText format .id ++
        [Member.time, .aggregateId, .kind, .content, .metadata].flatMap fun member =>
          ',' :: envelope.memberText format member := by
    rw [Member.all, List.map_cons, Json.intercalate_comma, List.flatMap_map]
  rw [text, items]
  simp only [Utf8.encode_append, Utf8.encode_cons, Utf8.encode_nil, List.append_nil, braces,
    encode_memberText, List.cons_append, List.nil_append, List.append_assoc, itemBytes]

theorem complete_put (format : Format) (envelope : Envelope) :
    (Member.all.foldl (Draft.put envelope) {}).complete format = .ok envelope := by
  simp [Member.all, Draft.put, Draft.complete]

/-- Every envelope is read back from its text. -/
theorem read_text {format : Format} (legible : format.Legible) (envelope : Envelope) :
    read format (Utf8.encode (envelope.text format)) = .ok envelope := by
  have members : ∀ fuel, 6 ≤ fuel →
      readMembers format {} true (fuel + 1) (0x22 :: (envelope.memberTail format .id ++
        (itemBytes (envelope.memberText format)
          [.time, .aggregateId, .kind, .content, .metadata] ++ [0x7D]))) =
        .ok (Member.all.foldl (Draft.put envelope) {}, []) := by
    intro fuel enough
    have stops := Json.stops_itemBytes (envelope.memberText format)
      [.time, .aggregateId, .kind, .content, .metadata] (Or.inr rfl) []
    rw [readMembers_member legible rfl stops
      (show nextName true (0x22 :: _) = _ from nextName_first .nil .nil _)]
    apply readMembers_items legible (by decide)
    · intro member there
      cases member <;> first | rfl | simp at there
    · exact Nat.lt_of_lt_of_le (by decide) enough
  have long := Json.length_le_itemBytes (envelope.memberText format)
    [.time, .aggregateId, .kind, .content, .metadata]
  have enough : 6 ≤ (0x22 :: (envelope.memberTail format .id ++
      (itemBytes (envelope.memberText format)
        [.time, .aggregateId, .kind, .content, .metadata] ++ [0x7D]))).length := by
    simp only [List.length_cons, List.length_append, List.length_nil] at long ⊢
    omega
  have value : readValue format (Utf8.encode (envelope.text format)) = .ok (envelope, []) := by
    rw [encode_text, readValue, Json.dropSpace_of_visible rfl]
    simp only
    rw [if_neg (by decide), if_pos trivial, members _ enough]
    simp only [complete_put]
  rw [read, value]
  rfl

end Outbox.Envelope

namespace Outbox

theorem Event.legible : Event.format.Legible := by
  intro member
  cases member <;> rfl

/-- Every event is read back from its bytes. -/
theorem Event.decode_encode (event : Event) : Event.decode event.encode = .ok event := by
  have read := Envelope.read_text Event.legible event.toEnvelope
  rw [Event.decode, Event.encode, Event.text, read]
  rfl

theorem Event.encode_injective : Function.Injective Event.encode := by
  intro event other same
  have read := event.decode_encode
  rw [same, other.decode_encode, Except.ok.injEq] at read
  exact read.symm

/-- Subscribers get the event that was sent, whatever its time, its texts and its payload are.
Different events never have the same bytes. -/
theorem Event.wire_is_faithful :
    (∀ event : Event, Event.decode event.encode = .ok event) ∧
    ∀ event other : Event, event.encode = other.encode ↔ event = other := by
  constructor
  · intro event
    exact event.decode_encode
  · intro event other
    exact Event.encode_injective.eq_iff

/-- Every entry of the event log is read back from its text. -/
theorem Audit.Entry.read_text (entry : Audit.Entry) :
    Audit.Entry.read (Utf8.encode entry.text) = .ok entry := by
  have legible : Audit.Entry.format.Legible := by
    intro member
    cases member <;> rfl
  have read := Envelope.read_text legible entry.toEnvelope
  rw [Audit.Entry.read, Audit.Entry.text, read]
  rfl

end Outbox
