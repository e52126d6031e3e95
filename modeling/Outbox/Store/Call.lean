import Outbox.Store.Basic

/-!
# Calls of a store

The operations of a store by name, as a record of what was called.
-/

set_option autoImplicit false

namespace Outbox

/-- The name of an operation. -/
inductive Operation where
  | begin
  | commit
  | rollback
  | create
  | fetch
  | saveProcessed
  | saveFailed
  deriving DecidableEq, Repr

/-- The word for an operation. -/
def Operation.text : Operation → String
  | .begin => "begin"
  | .commit => "commit"
  | .rollback => "rollback"
  | .create => "create"
  | .fetch => "fetch"
  | .saveProcessed => "save_processed"
  | .saveFailed => "save_failed"

/-- A call: the operation, and its limit or the number of its messages if it has one. -/
structure Call where
  operation : Operation
  size : Option Nat := none
  deriving DecidableEq, Repr

/-- The words for a call. -/
def Call.text (call : Call) : String :=
  match call.size with
  | some size => call.operation.text ++ " " ++ toString size
  | none => call.operation.text

end Outbox
