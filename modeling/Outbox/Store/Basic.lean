import Outbox.Message.Basic

/-!
# Stores

A store holds committed rows in the order of their insertion and the locks that open transactions
hold on rows.  A transaction keeps its own insertions and updates until it is committed, all at
once; nobody else sees them before.  A fetch claims pending rows for its transaction and passes
over the rows that others have claimed, so open transactions never share a row.  Every end of a
transaction gives its locks back.
-/

set_option autoImplicit false

namespace Outbox

open Time (Instant)

/-- The identity of a store. -/
abbrev StoreId := Nat

/-- A lock on a row. -/
structure Lock where
  /-- The id of the row. -/
  row : Uuid
  /-- The number of the transaction that holds the lock. -/
  owner : Nat
  deriving DecidableEq, Repr

/-- Committed rows and locks. -/
structure Store where
  id : StoreId
  /-- Committed rows in the order of their insertion. -/
  rows : List Message := []
  /-- At most one lock for each row. -/
  locks : List Lock := []
  /-- How many transactions have begun. -/
  begun : Nat := 0
  deriving DecidableEq

/-- An open transaction: what it will change when it is committed. -/
structure Transaction where
  /-- The store in which the transaction was begun. -/
  home : StoreId
  /-- The number of the transaction in its store. -/
  number : Nat
  /-- New rows in the order of their creation. -/
  inserts : List Message := []
  /-- Rows that replace committed rows of the same id, at most one for each id. -/
  updates : List Message := []
  deriving DecidableEq

namespace Transaction

/-- The transaction's own new row of an id. -/
def insert? (tx : Transaction) (id : Uuid) : Option Message :=
  tx.inserts.find? fun message => message.id = id

/-- The transaction's own update of an id. -/
def update? (tx : Transaction) (id : Uuid) : Option Message :=
  tx.updates.find? fun message => message.id = id

/-- Replaces the first message of the same id in a list. -/
def replace (message : Message) : List Message → List Message
  | [] => []
  | other :: rest =>
    if other.id = message.id then message :: rest else other :: replace message rest

/-- Keeps a changed row until the commit: in place of an own new row, or as an update. -/
def stage (tx : Transaction) (message : Message) : Transaction :=
  if (tx.insert? message.id).isSome then { tx with inserts := replace message tx.inserts }
  else if (tx.update? message.id).isSome then { tx with updates := replace message tx.updates }
  else { tx with updates := tx.updates ++ [message] }

end Transaction

namespace Store

/-! ## Committed rows -/

/-- The committed row of an id. -/
def find? (store : Store) (id : Uuid) : Option Message :=
  store.rows.find? fun row => row.id = id

/-- The number of committed rows. -/
def size (store : Store) : Nat :=
  store.rows.length

/-! ## Locks -/

/-- The transaction that holds a row. -/
def owner? (store : Store) (row : Uuid) : Option Nat :=
  (store.locks.find? fun lock => lock.row = row).map Lock.owner

/-- Another transaction holds the row. -/
def isHeldByOther (store : Store) (tx : Transaction) (row : Uuid) : Bool :=
  match store.owner? row with
  | some owner => owner != tx.number
  | none => false

/-- Gives a row to a transaction. -/
def claim (tx : Transaction) (locks : List Lock) (row : Uuid) : List Lock :=
  ⟨row, tx.number⟩ :: locks.filter fun lock => lock.row ≠ row

/-- Takes back all locks of a transaction. -/
def release (store : Store) (number : Nat) : Store :=
  { store with locks := store.locks.filter fun lock => lock.owner ≠ number }

/-! ## Transactions -/

/-- The error of an operation on the handle of another store's transaction. -/
def foreign : Error :=
  .repository "transaction was started by another repository"

/-- The transaction was begun in this store. -/
def owns (store : Store) (tx : Transaction) : Bool :=
  tx.home == store.id

/-- Begins a transaction. -/
def begin (store : Store) : Transaction × Store :=
  ({ home := store.id, number := store.begun + 1 }, { store with begun := store.begun + 1 })

/-- The end of a transaction whose handle is dropped: its changes are lost and its locks given back.
Nothing happens in a store in which the transaction was not begun. -/
def drop (store : Store) (tx : Transaction) : Store :=
  if store.owns tx then store.release tx.number else store

/-- Ends a transaction without its changes. -/
def rollback (store : Store) (tx : Transaction) : Except Error Store :=
  if store.owns tx then .ok (store.release tx.number) else .error foreign

/-- Ends a transaction: its new rows are appended, its updates replace rows, its locks are given
back. -/
def commit (store : Store) (tx : Transaction) : Except Error Store :=
  if store.owns tx then
    let rows := tx.updates.foldl (fun rows update => Transaction.replace update rows)
      (store.rows ++ tx.inserts)
    .ok ({ store with rows := rows }.release tx.number)
  else .error foreign

/-- The error of a second row with an id. -/
def duplicate (id : Uuid) : Error :=
  .database ("duplicate key value violates unique constraint: id=" ++ id.toText)

/-- Adds a new row to a transaction.  Its id must be new among the committed rows and the
transaction's own new rows. -/
def create (store : Store) (tx : Transaction) (message : Message) : Except Error Transaction :=
  if store.owns tx then
    if (store.find? message.id).isSome || (tx.insert? message.id).isSome then
      .error (duplicate message.id)
    else .ok { tx with inserts := tx.inserts ++ [message] }
  else .error foreign

/-- A row as a transaction sees it. -/
def current? (store : Store) (tx : Transaction) (id : Uuid) : Option Message :=
  match tx.insert? id with
  | some message => some message
  | none =>
    match tx.update? id with
    | some message => some message
    | none => store.find? id

/-- A committed row as a transaction that may claim it sees it. -/
def claimable? (store : Store) (tx : Transaction) (row : Message) : Option Message :=
  if store.isHeldByOther tx row.id then none
  else
    let visible := (tx.update? row.id).getD row
    if visible.isPending then some visible else none

/-- Goes through rows for as long as fewer than `limit` of them are claimed. -/
def gather (limit : Nat) (claimable? : Message → Option Message) (claimed : List Message) :
    List Message → List Message
  | [] => claimed
  | row :: rows =>
    if limit ≤ claimed.length then claimed
    else
      match claimable? row with
      | some visible => gather limit claimable? (claimed ++ [visible]) rows
      | none => gather limit claimable? claimed rows

/-- The first pending rows, at most `limit`, that no other transaction holds, and then the pending
new rows of the transaction itself.  All of them are locked for the transaction. -/
def fetch (store : Store) (tx : Transaction) (limit : Nat) :
    Except Error (List Message × Store) :=
  if store.owns tx then
    let committed := gather limit (store.claimable? tx) [] store.rows
    let batch := gather limit some committed (tx.inserts.filter Message.isPending)
    .ok (batch, { store with locks := (batch.map Message.id).foldl (claim tx) store.locks })
  else .error foreign

/-- Marks one row as processed; a row that is not pending stays as it is. -/
def markProcessed (store : Store) (now : Instant) (tx : Transaction) (message : Message) :
    Except Error Transaction :=
  match store.current? tx message.id with
  | some row => if row.isPending then (row.markProcessed now).map tx.stage else .ok tx
  | none => .ok tx

/-- Marks the rows of these messages as processed. -/
def saveProcessed (store : Store) (tx : Transaction) (now : Instant) (messages : List Message) :
    Except Error Transaction :=
  if store.owns tx then messages.foldlM (store.markProcessed now) tx else .error foreign

/-- Replaces one row; a row that is not pending stays as it is. -/
def replacePending (store : Store) (tx : Transaction) (message : Message) : Transaction :=
  match store.current? tx message.id with
  | some row => if row.isPending then tx.stage message else tx
  | none => tx

/-- Replaces the rows of these messages by the messages. -/
def saveFailed (store : Store) (tx : Transaction) (messages : List Message) :
    Except Error Transaction :=
  if store.owns tx then .ok (messages.foldl store.replacePending tx) else .error foreign

end Store

end Outbox
