import Mathlib.Data.List.Infix
import Outbox.Proofs.Envelope

/-!
# Entries there and back

An entry of the event log is read back from its text.  So an event that goes over the wire, becomes
an entry and is read from the entry's text keeps all its fields, although its payload is written as
base64 digits the first time and as a list of numbers the second.
-/

set_option autoImplicit false

namespace Outbox

theorem Json.infix_intercalate_comma {item : List Char} {items : List (List Char)}
    (member : item ∈ items) : item <:+: List.intercalate [','] items := by
  cases items with
  | nil => cases member
  | cons first others =>
      rw [Json.intercalate_comma]
      obtain rfl | later := List.mem_cons.mp member
      · exact (List.prefix_append _ _).isInfix
      · have marked : ',' :: item <:+: others.flatMap fun item => ',' :: item :=
          List.infix_of_mem_flatten (List.mem_map_of_mem later)
        have own : item <:+: ',' :: item := (List.suffix_cons ',' item).isInfix
        exact (own.trans marked).trans (List.suffix_append first _).isInfix

/-- The text of an envelope holds the text of each member. -/
theorem Envelope.memberText_infix_text (format : Format) (envelope : Envelope) (member : Member) :
    envelope.memberText format member <:+: envelope.text format := by
  have listed : member ∈ Member.all := by cases member <;> decide
  have inside := Json.infix_intercalate_comma
    (List.mem_map_of_mem (f := envelope.memberText format) listed)
  exact (inside.trans (List.prefix_append _ ['\x7d']).isInfix).trans
    (List.suffix_cons '\x7b' _).isInfix

namespace Audit.Entry

/-- Every entry is read back from its text.  An event that was sent and decoded, and whose entry was
written and read back, has its fields: the payload stands in the wire text as base64 and in the
entry's text as numbers, and both are read as the same bytes. -/
theorem forms_agree :
    (∀ entry : Entry, read (Utf8.encode entry.text) = .ok entry) ∧
    ∀ event : Event,
      (∃ decoded, Event.decode event.encode = .ok decoded ∧
        read (Utf8.encode (ofEvent decoded).text) = .ok
          { id := event.id
            occurredAt := event.createdAt
            aggregateId := event.aggregateId
            eventType := event.aggregateType
            data := event.payload
            metadata := event.metadata }) ∧
      Json.quote "payload".toList ++ ':' :: Json.quote (Base64.encode event.payload) <:+:
        event.text ∧
      Json.quote "data".toList ++ ':' :: Json.octetsText event.payload <:+:
        (ofEvent event).text ∧
      Base64.decode? (Base64.encode event.payload) = some event.payload ∧
      Json.readOctets (Utf8.encode (Json.octetsText event.payload)) = .ok (event.payload, []) := by
  refine ⟨read_text, ?_⟩
  intro event
  refine ⟨⟨event, event.decode_encode, read_text _⟩, ?_, ?_, Base64.decode?_encode _, ?_⟩
  · exact event.toEnvelope.memberText_infix_text Event.format .content
  · exact (ofEvent event).toEnvelope.memberText_infix_text format .content
  · have read := Json.readOctets_text event.payload []
    rwa [List.append_nil] at read

end Audit.Entry

end Outbox
