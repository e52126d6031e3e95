/-!
# Faults of a JSON text

Why a text could not be read: it ended too early, it is no JSON, or it is JSON that does not hold
what the reader asked for.  Two causes of the last kind name the member they are about.
-/

set_option autoImplicit false

namespace Outbox.Json

/-- Why a JSON text could not be read. -/
inductive Fault where
  | truncated
  | malformed
  | unsuitable
  /-- A required member is not there. -/
  | missingMember (name : String)
  | repeatedMember (name : String)
  deriving DecidableEq, Repr

def Fault.message : Fault → String
  | .truncated => "the text ends too early"
  | .malformed => "the text is not JSON"
  | .unsuitable => "a value has the wrong type or content"
  | .missingMember name => "missing field `" ++ name ++ "`"
  | .repeatedMember name => "duplicate field `" ++ name ++ "`"

end Outbox.Json
