import Outbox.Proofs.Store.Erasure
import Outbox.Proofs.Store.Exclusive
import Outbox.Store.Stores

/-!
# Handles of other stores

Several stores side by side, and requests that may go to another store than the one in which the
transaction of their handle was begun.  Such an order leaves the store that is asked alone, and is
to the home of the handle what the drop of the handle is, or nothing.  So every store of an assembly
is what a history of its own leaves behind.
-/

set_option autoImplicit false

namespace Outbox

open Time (Instant)

/-- A request, the store that it goes to, and the store in which the transaction of its handle was
begun.  A begin and a drop go to no store but the home of the handle. -/
structure Order where
  callee : StoreId
  home : StoreId
  request : Request

/-- Stores and the handles of the transactions that are open on them, by their homes and numbers. -/
structure Assembly where
  stores : Stores
  handles : StoreId → Nat → Option Transaction

namespace Request

/-- The transaction of the handle that an operation of a store borrows. -/
def borrowed? : Request → Option Nat
  | .create number _ => some number
  | .fetch number _ => some number
  | .saveProcessed number _ _ => some number
  | .saveFailed number _ => some number
  | _ => none

/-- The transaction of the handle that an operation of a store takes. -/
def consumed? : Request → Option Nat
  | .commit number => some number
  | .rollback number => some number
  | _ => none

/-- What a request is to the home of its handle if it goes to another store. -/
def abroad? : Request → Option Request
  | .begin => some .begin
  | .commit number => some (.drop number)
  | .rollback number => some (.drop number)
  | .drop number => some (.drop number)
  | _ => none

end Request

/-- What a store sees of an order. -/
def Order.seenBy (id : StoreId) (order : Order) : List Request :=
  if order.home = id then
    if order.callee = id then [order.request] else order.request.abroad?.toList
  else []

namespace Assembly

def empty : Assembly :=
  ⟨.empty, fun _ _ => none⟩

def on (assembly : Assembly) (home : StoreId) (number : Nat)
    (work : Transaction → Assembly × Reply) : Assembly × Reply :=
  match assembly.handles home number with
  | some tx => work tx
  | none => (assembly, .closed)

/-- Puts a handle in its place, or takes it away. -/
def put (assembly : Assembly) (home : StoreId) (number : Nat) (handle : Option Transaction) :
    Assembly :=
  { assembly with
    handles := Function.update assembly.handles home
      (Function.update (assembly.handles home) number handle) }

/-- Keeps what an operation has made of a transaction. -/
def keep (assembly : Assembly) (home : StoreId) (number : Nat)
    (result : Except Error Transaction) : Assembly × Reply :=
  match result with
  | .ok tx => (assembly.put home number (some tx), .done)
  | .error error => (assembly, .refused error)

/-- Leaves behind what the end of a transaction has made of the stores. -/
def close (assembly : Assembly) (home : StoreId) (number : Nat)
    (result : Except Error Unit × Stores) : Assembly × Reply :=
  ({ assembly with stores := result.2 }.put home number none,
    match result.1 with
    | .ok () => .done
    | .error error => .refused error)

def step (assembly : Assembly) (order : Order) : Assembly × Reply :=
  match order.request with
  | .begin =>
    let (tx, stores) := assembly.stores.begin order.home
    ({ assembly with stores }.put order.home tx.number (some tx), .begun tx.number)
  | .create number message =>
    assembly.on order.home number fun tx =>
      assembly.keep order.home number ((assembly.stores.store order.callee).create tx message)
  | .enqueue number id now topic submission =>
    assembly.on order.home number fun tx =>
      match (assembly.stores.store order.callee).enqueue tx id now topic submission with
      | .ok (id, tx) => (assembly.put order.home number (some tx), .enqueued id)
      | .error error => (assembly, .refused error)
  | .fetch number limit =>
    assembly.on order.home number fun tx =>
      match assembly.stores.fetch order.callee tx limit with
      | (.ok messages, stores) => ({ assembly with stores }, .fetched messages)
      | (.error error, stores) => ({ assembly with stores }, .refused error)
  | .saveProcessed number now messages =>
    assembly.on order.home number fun tx =>
      assembly.keep order.home number
        ((assembly.stores.store order.callee).saveProcessed tx now messages)
  | .saveFailed number messages =>
    assembly.on order.home number fun tx =>
      assembly.keep order.home number
        ((assembly.stores.store order.callee).saveFailed tx messages)
  | .commit number =>
    assembly.on order.home number fun tx =>
      assembly.close order.home number (assembly.stores.commit order.callee tx)
  | .rollback number =>
    assembly.on order.home number fun tx =>
      assembly.close order.home number (assembly.stores.rollback order.callee tx)
  | .drop number =>
    assembly.on order.home number fun tx =>
      assembly.close order.home number (.ok (), assembly.stores.drop tx)

def run (orders : List Order) : Assembly :=
  orders.foldl (fun assembly order => (assembly.step order).1) empty

theorem run_concat (past : List Order) (order : Order) :
    run (past ++ [order]) = ((run past).step order).1 := by
  simp [run]

/-! ## One store of an assembly -/

/-- One of the stores with the transactions that were begun in it. -/
def sessions (assembly : Assembly) (id : StoreId) : Sessions :=
  ⟨assembly.stores.store id, assembly.handles id⟩

/-- Every store stands at its own identity, and so do the handles. -/
structure Placed (assembly : Assembly) : Prop where
  id : ∀ id, (assembly.stores.store id).id = id
  sound : ∀ id, (assembly.sessions id).Sound

section Steps
variable {assembly : Assembly} {home : StoreId} {number : Nat} {tx : Transaction}

theorem on_of_open (opened : assembly.handles home number = some tx)
    (work : Transaction → Assembly × Reply) : assembly.on home number work = work tx := by
  simp [on, opened]

theorem on_of_closed (closed : assembly.handles home number = none)
    (work : Transaction → Assembly × Reply) :
    assembly.on home number work = (assembly, .closed) := by
  simp [on, closed]

theorem Placed.home_eq (placed : assembly.Placed)
    (opened : assembly.handles home number = some tx) : tx.home = home :=
  (placed.sound home number tx opened).2.home.trans (placed.id home)

/-- Another store does not take a transaction for its own. -/
theorem Placed.disowned (placed : assembly.Placed)
    (opened : assembly.handles home number = some tx) {callee : StoreId} (abroad : callee ≠ home) :
    (assembly.stores.store callee).owns tx = false := by
  rw [Store.owns, placed.home_eq opened, placed.id callee, beq_eq_false_iff_ne]
  exact abroad.symm

/-- Only one store and its transactions have changed. -/
structure Becomes (assembly after : Assembly) (home : StoreId) (changed : Sessions) : Prop where
  there : after.sessions home = changed
  elsewhere : ∀ id, id ≠ home → after.sessions id = assembly.sessions id

theorem becomes_self (assembly : Assembly) (home : StoreId) :
    Becomes assembly assembly home (assembly.sessions home) :=
  ⟨rfl, fun _ _ => rfl⟩

theorem becomes_put (handle : Option Transaction) :
    Becomes assembly (assembly.put home number handle) home
      { assembly.sessions home with
        handles := Function.update (assembly.handles home) number handle } where
  there := by simp [put, sessions]
  elsewhere := by
    intro id other
    simp [put, sessions, Function.update_of_ne other]

theorem becomes_stored {store : Store} (same : store.id = home) :
    Becomes assembly { assembly with stores := assembly.stores.put store } home
      { assembly.sessions home with store } where
  there := by simp [sessions, Stores.put, same]
  elsewhere := by
    intro id other
    simp [sessions, Stores.put, same, other]

theorem becomes_replaced {store : Store} (same : store.id = home) (handle : Option Transaction) :
    Becomes assembly
      ({ assembly with stores := assembly.stores.put store }.put home number handle) home
      ⟨store, Function.update (assembly.handles home) number handle⟩ where
  there := by simp [put, sessions, Stores.put, same]
  elsewhere := by
    intro id other
    simp [put, sessions, Stores.put, same, other]

/-- One store does what it does on its own. -/
structure Follows (assembly : Assembly) (home : StoreId) (done : Assembly × Reply)
    (alone : Sessions × Reply) : Prop where
  becomes : Becomes assembly done.1 home alone.1
  reply : done.2 = alone.2

theorem follows_on {work : Transaction → Assembly × Reply}
    {alone : Transaction → Sessions × Reply}
    (worked : ∀ tx, assembly.handles home number = some tx →
      Follows assembly home (work tx) (alone tx)) :
    Follows assembly home (assembly.on home number work)
      ((assembly.sessions home).on number alone) := by
  cases opened : assembly.handles home number with
  | none =>
      rw [on_of_closed opened, Sessions.on_of_closed opened]
      exact ⟨becomes_self assembly home, rfl⟩
  | some tx =>
      rw [on_of_open opened, Sessions.on_of_open opened]
      exact worked tx opened

theorem follows_keep (result : Except Error Transaction) :
    Follows assembly home (assembly.keep home number result)
      ((assembly.sessions home).keep number result) := by
  cases result with
  | error error => exact ⟨becomes_self assembly home, rfl⟩
  | ok tx => exact ⟨becomes_put (some tx), rfl⟩

/-- A request on a handle of the store that is asked is what it is if there is no other store. -/
theorem step_own (placed : assembly.Placed) (home : StoreId) (request : Request) :
    Follows assembly home (assembly.step ⟨home, home, request⟩)
      ((assembly.sessions home).step request) := by
  have owned {number : Nat} {tx : Transaction} (opened : assembly.handles home number = some tx) :
      (assembly.sessions home).store.owns tx = true := (placed.sound home number tx opened).2.owned
  cases request with
  | begin =>
      refine ⟨becomes_replaced ?_ _, rfl⟩
      exact placed.id home
  | create number message =>
      apply follows_on
      intro tx opened
      exact follows_keep _
  | enqueue number id now topic submission =>
      apply follows_on
      intro tx opened
      dsimp only [sessions]
      cases (assembly.stores.store home).enqueue tx id now topic submission with
      | error error => exact ⟨becomes_self assembly home, rfl⟩
      | ok accepted => exact ⟨becomes_put (some accepted.2), rfl⟩
  | fetch number limit =>
      apply follows_on
      intro tx opened
      have fetched := Store.fetch_eq (owned opened) limit
      simp only [Stores.fetch, sessions] at fetched ⊢
      rw [fetched]
      refine ⟨becomes_stored ?_, rfl⟩
      exact placed.id home
  | saveProcessed number now messages =>
      apply follows_on
      intro tx opened
      exact follows_keep _
  | saveFailed number messages =>
      apply follows_on
      intro tx opened
      exact follows_keep _
  | commit number =>
      apply follows_on
      intro tx opened
      have committed := Store.commit_eq (owned opened)
      simp only [Stores.commit, sessions] at committed ⊢
      rw [committed]
      refine ⟨becomes_replaced ?_ none, rfl⟩
      exact placed.id home
  | rollback number =>
      apply follows_on
      intro tx opened
      have ended := Store.rollback_eq (owned opened)
      simp only [Stores.rollback, sessions] at ended ⊢
      rw [ended]
      refine ⟨becomes_replaced ?_ none, rfl⟩
      exact placed.id home
  | drop number =>
      apply follows_on
      intro tx opened
      have ended := Store.drop_eq (owned opened)
      simp only [Stores.drop, sessions, placed.home_eq opened] at ended ⊢
      rw [ended]
      refine ⟨becomes_replaced ?_ none, rfl⟩
      exact placed.id home

/-- An operation that borrows a handle of another store does nothing. -/
theorem step_borrowed_abroad (placed : assembly.Placed) {order : Order}
    (abroad : order.callee ≠ order.home) (opened : assembly.handles order.home number = some tx)
    (borrowed : order.request.borrowed? = some number) :
    assembly.step order = (assembly, .refused Store.foreign) := by
  have disowned := placed.disowned opened abroad
  obtain ⟨callee, home, request⟩ := order
  cases request with
  | create _ message =>
      cases borrowed
      simp [step, on_of_open opened, Store.create, disowned, keep]
  | fetch _ limit =>
      cases borrowed
      simp [step, on_of_open opened, Stores.fetch, Store.fetch, disowned]
  | saveProcessed _ now messages =>
      cases borrowed
      simp [step, on_of_open opened, Store.saveProcessed, disowned, keep]
  | saveFailed _ messages =>
      cases borrowed
      simp [step, on_of_open opened, Store.saveFailed, disowned, keep]
  | _ => cases borrowed

/-- An operation that takes a handle of another store drops it. -/
theorem step_consumed_abroad (placed : assembly.Placed) {order : Order}
    (abroad : order.callee ≠ order.home) (opened : assembly.handles order.home number = some tx)
    (consumed : order.request.consumed? = some number) :
    assembly.step order =
      ((assembly.step ⟨order.home, order.home, .drop number⟩).1, .refused Store.foreign) := by
  have disowned := placed.disowned opened abroad
  obtain ⟨callee, home, request⟩ := order
  cases request with
  | commit =>
      cases consumed
      simp [step, on_of_open opened, Stores.commit, Store.commit, Stores.consume, disowned, close]
  | rollback =>
      cases consumed
      simp [step, on_of_open opened, Stores.rollback, Store.rollback, Stores.consume, disowned,
        close]
  | _ => cases consumed

/-- The service for producers does not change anything on a handle of another store either. -/
theorem step_enqueue_abroad (placed : assembly.Placed) {callee : StoreId} (abroad : callee ≠ home)
    (opened : assembly.handles home number = some tx) (id : Uuid) (now : Instant) (topic : String)
    (submission : Submission) :
    (assembly.step ⟨callee, home, .enqueue number id now topic submission⟩).1 = assembly := by
  have disowned := placed.disowned opened abroad
  cases accepted : submission.accept id now topic with
  | error error => simp [step, on_of_open opened, Store.enqueue, accepted]
  | ok message => simp [step, on_of_open opened, Store.enqueue, accepted, Store.create, disowned]

theorem step_of_closed {order : Order} (asked : order.request.number? = some number)
    (closed : assembly.handles order.home number = none) :
    assembly.step order = (assembly, .closed) := by
  obtain ⟨callee, home, request⟩ := order
  cases request with
  | begin => cases asked
  | _ =>
      cases asked
      exact on_of_closed closed _

/-- What a request on a handle of another store than the one that is asked makes of all stores. -/
theorem step_abroad (placed : assembly.Placed) {order : Order}
    (abroad : order.callee ≠ order.home) :
    (assembly.step order).1 =
      order.request.abroad?.elim assembly fun request =>
        (assembly.step ⟨order.home, order.home, request⟩).1 := by
  obtain ⟨callee, home, request⟩ := order
  cases asked : request.number? with
  | none =>
      cases request with
      | begin => rfl
      | _ => cases asked
  | some number =>
      cases opened : assembly.handles home number with
      | none =>
          rw [step_of_closed asked opened]
          cases request with
          | begin => cases asked
          | commit | rollback | drop =>
              cases asked
              exact (congrArg Prod.fst (step_of_closed rfl opened)).symm
          | _ => rfl
      | some tx =>
          cases request with
          | begin => cases asked
          | enqueue =>
              cases asked
              exact step_enqueue_abroad placed abroad opened _ _ _ _
          | commit | rollback =>
              cases asked
              rw [step_consumed_abroad placed abroad opened rfl]
              rfl
          | drop => rfl
          | _ =>
              cases asked
              exact congrArg Prod.fst (step_borrowed_abroad placed abroad opened rfl)

/-! ## Every step -/

/-- What an order makes of all stores, and of their transactions. -/
theorem sessions_step (placed : assembly.Placed) (order : Order) (id : StoreId) :
    (assembly.step order).1.sessions id = (assembly.sessions id).play (order.seenBy id) := by
  have becomes : Becomes assembly (assembly.step order).1 order.home
      ((assembly.sessions order.home).play (order.seenBy order.home)) := by
    by_cases own : order.callee = order.home
    · obtain ⟨callee, home, request⟩ := order
      obtain rfl : callee = home := own
      simpa [Order.seenBy, Sessions.play] using (step_own placed callee request).becomes
    · rw [step_abroad placed own, Order.seenBy, if_pos rfl, if_neg own]
      cases order.request.abroad? with
      | none => exact becomes_self assembly order.home
      | some request => exact (step_own placed order.home request).becomes
  by_cases here : id = order.home
  · rw [here]
    exact becomes.there
  · rw [becomes.elsewhere id here, Order.seenBy, if_neg (Ne.symm here)]
    rfl

end Steps

theorem placed_of_histories {assembly : Assembly} {past : StoreId → List Request}
    (histories : ∀ id, assembly.sessions id = Sessions.run id (past id)) : assembly.Placed where
  id := by
    intro id
    have older := Sessions.older_run id [] (past id)
    rw [List.nil_append, ← histories id] at older
    exact older.id
  sound := by
    intro id
    rw [histories id]
    exact Sessions.sound_run id (past id)

/-- Every store of an assembly is what a history of its own leaves behind. -/
theorem sessions_run (orders : List Order) (id : StoreId) :
    (run orders).sessions id = Sessions.run id (orders.flatMap (Order.seenBy id)) := by
  induction orders using List.reverseRecOn generalizing id with
  | nil => rfl
  | append_singleton past order ih =>
      rw [run_concat, sessions_step (placed_of_histories ih), ih]
      simp [Sessions.run, Sessions.play]

theorem placed_run (orders : List Order) : (run orders).Placed :=
  placed_of_histories (sessions_run orders)

theorem single_run (orders : List Order) (id : StoreId) :
    ((run orders).stores.store id).OneLockEach := by
  have single := Sessions.single_run id (orders.flatMap (Order.seenBy id))
  rw [← sessions_run orders id] at single
  exact single

/-- What a transaction fetches that has just begun in one of the stores. -/
theorem fetch_of_newcomer (past : List Order) (home : StoreId) (limit : Nat) :
    ((run past).step ⟨home, home, .begin⟩).2 = .begun (((run past).stores.store home).begun + 1) ∧
    (((run past).step ⟨home, home, .begin⟩).1.step
      ⟨home, home, .fetch (((run past).stores.store home).begun + 1) limit⟩).2 =
      .fetched (((run past).stores.store home).batch
        { home := ((run past).stores.store home).id,
          number := ((run past).stores.store home).begun + 1 } limit) := by
  have placed := placed_run past
  have begun := step_own placed home .begin
  refine ⟨begun.reply, ?_⟩
  have placed_after := placed_run (past ++ [⟨home, home, .begin⟩])
  rw [run_concat] at placed_after
  rw [(step_own placed_after home _).reply, begun.becomes.there]
  exact Sessions.step_fetch_of_newcomer (placed.sound home) limit

/-- The drop of a handle in its own store. -/
theorem becomes_dropped {assembly : Assembly} (placed : assembly.Placed) {home : StoreId}
    {number : Nat} {tx : Transaction} (opened : assembly.handles home number = some tx) :
    Becomes assembly (assembly.step ⟨home, home, .drop number⟩).1 home
      ((assembly.sessions home).leave number ((assembly.stores.store home).release number)) := by
  obtain ⟨own, lawful⟩ := placed.sound home number tx opened
  have dropped : ((assembly.sessions home).step (.drop number)).1 =
      (assembly.sessions home).leave number ((assembly.sessions home).store.release number) := by
    have there : (assembly.sessions home).handles number = some tx := opened
    simp only [Sessions.step, Sessions.on_of_open there, Store.drop_eq lawful.owned, own]
  have becomes := (step_own placed home (.drop number)).becomes
  rw [dropped] at becomes
  exact becomes

/-! ## Handles of other stores -/

/-- What is left when an operation has taken a handle of another store. -/
structure Discarded (before after : Assembly) (home : StoreId) (number : Nat) : Prop where
  /-- The handle is gone, and with it all that was staged. -/
  gone : after.handles home number = none
  others : ∀ id other, (id, other) ≠ (home, number) →
    after.handles id other = before.handles id other
  elsewhere : ∀ id, id ≠ home → after.stores.store id = before.stores.store id
  /-- Its own store has lost the locks of this transaction and nothing else. -/
  released : after.stores.store home =
    { before.stores.store home with
      locks := (before.stores.store home).locks.filter fun lock => lock.owner ≠ number }
  /-- The rows that it had claimed and that are pending are returned to a transaction that begins in
  its store, if the limit is sufficient. -/
  refetched : ∀ row ∈ (before.stores.store home).rows, row.isPending = true →
    (before.stores.store home).owner? row.id = some number →
    ∀ limit, (before.stores.store home).rows.countP Message.isPending ≤ limit →
    ∃ newcomer messages,
      (after.step ⟨home, home, .begin⟩).2 = .begun newcomer ∧
      ((after.step ⟨home, home, .begin⟩).1.step ⟨home, home, .fetch newcomer limit⟩).2 =
        .fetched messages ∧
      row ∈ messages

/-- Whatever has happened in two stores, and even if transactions of both have the same number: an
operation of one store on a handle of the other one is refused and leaves the store that is asked
alone.  An operation that borrows the handle changes nothing at all; one that takes it discards the
transaction in its own store. -/
theorem foreign_handles_are_rejected (past : List Order) (order : Order)
    (abroad : order.callee ≠ order.home) (number : Nat) (tx : Transaction)
    (opened : (run past).handles order.home number = some tx) :
    (order.request.borrowed? = some number →
      (run past).step order =
        (run past, .refused (.repository "transaction was started by another repository"))) ∧
    (order.request.consumed? = some number →
      ((run past).step order).2 =
        .refused (.repository "transaction was started by another repository") ∧
      Discarded (run past) ((run past).step order).1 order.home number) := by
  have placed := placed_run past
  refine ⟨fun borrowed => step_borrowed_abroad placed abroad opened borrowed, ?_⟩
  intro consumed
  rw [step_consumed_abroad placed abroad opened consumed]
  refine ⟨rfl, ?_⟩
  have becomes := becomes_dropped placed opened
  rw [← run_concat] at becomes ⊢
  have released : (run (past ++ [⟨order.home, order.home, .drop number⟩])).stores.store order.home =
      ((run past).stores.store order.home).release number :=
    congrArg Sessions.store becomes.there
  constructor
  · have left := congrFun (congrArg Sessions.handles becomes.there) number
    simpa [sessions, Sessions.leave] using left
  · intro id other different
    by_cases here : id = order.home
    · subst here
      have kept : other ≠ number := fun same => different (by rw [same])
      have left := congrFun (congrArg Sessions.handles becomes.there) other
      simpa [sessions, Sessions.leave, Function.update_of_ne kept] using left
    · exact congrFun (congrArg Sessions.handles (becomes.elsewhere id here)) other
  · intro id other
    exact congrArg Sessions.store (becomes.elsewhere id other)
  · exact released
  · intro row member pending held limit enough
    obtain ⟨begun, fetched⟩ := fetch_of_newcomer
      (past ++ [⟨order.home, order.home, .drop number⟩]) order.home limit
    rw [released] at begun fetched
    refine ⟨_, _, begun, fetched, ?_⟩
    have kept : row ∈ (((run past).stores.store order.home).release number).rows := member
    have unowned := Store.owner?_release_self (single_run past order.home) held
    exact Store.mem_batch_of_free rfl rfl kept pending unowned enough

/-- In both of two stores a transaction of the same number holds the same row; one of them has also
a new row. -/
def twinOrders : List Order :=
  [0, 1].flatMap (fun id => [.begin, .create 1 .fruit, .commit 1, .begin, .fetch 2 10].map fun
    request => ⟨id, id, request⟩) ++ [⟨0, 0, .create 2 (.fruitNumbered 1)⟩]

theorem twinOrders_are_kept_apart :
    ((run twinOrders).stores.store 0).owner? Message.fruit.id = some 2 ∧
    ((run twinOrders).stores.store 1).owner? Message.fruit.id = some 2 ∧
    ((run twinOrders).step ⟨1, 0, .saveFailed 2 [.fruit]⟩).1 = run twinOrders ∧
    Discarded (run twinOrders) ((run twinOrders).step ⟨1, 0, .commit 2⟩).1 0 2 ∧
    (((run twinOrders).step ⟨1, 0, .commit 2⟩).1.stores.store 0).rows = [.fruit] ∧
    (((run twinOrders).step ⟨1, 0, .commit 2⟩).1.stores.store 0).locks = [] ∧
    (((run twinOrders).step ⟨1, 0, .commit 2⟩).1.stores.store 1).owner? Message.fruit.id =
      some 2 := by
  have opened : (run twinOrders).handles 0 2 =
      some { home := 0, number := 2, inserts := [.fruitNumbered 1] } := by rfl
  have first : ((run twinOrders).stores.store 0).owner? Message.fruit.id = some 2 := by rfl
  have second : ((run twinOrders).stores.store 1).owner? Message.fruit.id = some 2 := by rfl
  have borrowing := foreign_handles_are_rejected twinOrders ⟨1, 0, .saveFailed 2 [.fruit]⟩
    (by decide) 2 _ opened
  have consuming := foreign_handles_are_rejected twinOrders ⟨1, 0, .commit 2⟩ (by decide) 2 _ opened
  obtain ⟨_, discarded⟩ := consuming.2 rfl
  refine ⟨first, second, by rw [borrowing.1 rfl], discarded, ?_, ?_, ?_⟩
  · rw [discarded.released]
    rfl
  · rw [discarded.released]
    rfl
  · rw [discarded.elsewhere 1 (by decide)]
    exact second

end Assembly

end Outbox
