import Outbox.Json.Fault

/-!
# Errors

What can go wrong with messages, stores and buses, and around them.  An error is its cause; the
words are in one function.
-/

set_option autoImplicit false

namespace Outbox

/-- What can go wrong with a message, a store or a bus. -/
inductive Error where
  /-- A submitted message breaks a rule about one of its fields. -/
  | validation (field reason : String)
  /-- A JSON text could not be read. -/
  | serialization (fault : Json.Fault)
  | parse (reason : String)
  | eventBus (reason : String)
  | repository (reason : String)
  | database (reason : String)
  | notFound (reason : String)
  /-- A step that the status of a message does not allow. -/
  | invalidState (reason : String)
  deriving DecidableEq, Repr

namespace Error

def message : Error → String
  | .validation field reason => "validation failed: field=" ++ field ++ ", reason=" ++ reason
  | .serialization fault => "serialization error: " ++ fault.message
  | .parse reason => "parse error: " ++ reason
  | .eventBus reason => "event bus error: " ++ reason
  | .repository reason => "repository error: " ++ reason
  | .database reason => "database error: " ++ reason
  | .notFound reason => "not found: " ++ reason
  | .invalidState reason => "invalid state: " ++ reason

/-- The error is about a rule that a submitted message breaks. -/
def isValidation : Error → Bool
  | .validation _ _ => true
  | _ => false

end Error

/-- What can go wrong in a program around a message store. -/
inductive ProgramError where
  | outbox (error : Error)
  | setting (key reason : String)
  deriving DecidableEq, Repr

def ProgramError.message : ProgramError → String
  | .outbox error => "domain: " ++ error.message
  | .setting key reason => "config: " ++ key ++ ": " ++ reason

end Outbox
