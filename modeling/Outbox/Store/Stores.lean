import Outbox.Store.Basic

/-!
# Several stores

Stores side by side.  An operation names the store that it is called on, and a handle may come from
another one.  A commit or a rollback takes the handle away even when it fails; the transaction then
ends in its own store as if its handle had been dropped.
-/

set_option autoImplicit false

namespace Outbox

/-- Stores by their identity. -/
structure Stores where
  store : StoreId → Store

namespace Stores

/-- Every store is empty. -/
def empty : Stores :=
  ⟨fun id => { id := id }⟩

/-- Puts a changed store in its place. -/
def put (stores : Stores) (store : Store) : Stores :=
  ⟨fun id => if id = store.id then store else stores.store id⟩

/-- Begins a transaction in a store. -/
def begin (stores : Stores) (id : StoreId) : Transaction × Stores :=
  let (tx, store) := (stores.store id).begin
  (tx, stores.put store)

/-- The end of a transaction whose handle is dropped. -/
def drop (stores : Stores) (tx : Transaction) : Stores :=
  stores.put ((stores.store tx.home).drop tx)

/-- The end of a transaction by an operation that takes its handle. -/
def consume (stores : Stores) (tx : Transaction) (result : Except Error Store) :
    Except Error Unit × Stores :=
  match result with
  | .ok store => (.ok (), stores.put store)
  | .error error => (.error error, stores.drop tx)

/-- Commits a transaction in a store. -/
def commit (stores : Stores) (id : StoreId) (tx : Transaction) : Except Error Unit × Stores :=
  stores.consume tx ((stores.store id).commit tx)

/-- Rolls a transaction back in a store. -/
def rollback (stores : Stores) (id : StoreId) (tx : Transaction) : Except Error Unit × Stores :=
  stores.consume tx ((stores.store id).rollback tx)

/-- Fetches in a store. -/
def fetch (stores : Stores) (id : StoreId) (tx : Transaction) (limit : Nat) :
    Except Error (List Message) × Stores :=
  match (stores.store id).fetch tx limit with
  | .ok (batch, store) => (.ok batch, stores.put store)
  | .error error => (.error error, stores)

end Stores

end Outbox
