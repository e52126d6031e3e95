import Mathlib.Data.List.Induction
import Mathlib.Logic.Function.Basic
import Outbox.Enqueue
import Outbox.Proofs.Store.Locks
import Outbox.Proofs.Store.Staging

/-!
# Sessions

A store together with the transactions that are open on it.  Every interleaving of their operations
is a list of requests, played one after the other from the empty store; a request on a transaction
that is not open does nothing, since nobody has a handle for it.

`Change` says once what a request can do.  `Sound` is what every history leaves behind: handles
stand under their own numbers, new rows and updates of a transaction have distinct ids, and an
update is for a committed row.
-/

set_option autoImplicit false

namespace Outbox

open Time (Instant)

/-- What is asked of the store, of its service for producers, or of a handle. -/
inductive Request where
  | begin
  | create (number : Nat) (message : Message)
  | enqueue (number : Nat) (id : Uuid) (now : Instant) (topic : String) (submission : Submission)
  | fetch (number limit : Nat)
  | saveProcessed (number : Nat) (now : Instant) (messages : List Message)
  | saveFailed (number : Nat) (messages : List Message)
  | commit (number : Nat)
  | rollback (number : Nat)
  | drop (number : Nat)

inductive Reply where
  | begun (number : Nat)
  | enqueued (id : Uuid)
  | fetched (messages : List Message)
  | done
  | refused (error : Error)
  /-- There is no open transaction of this number. -/
  | closed

namespace Request

/-- The transaction and the message if a request brings a new row to the store. -/
def created? : Request → Option (Nat × Message)
  | .create number message => some (number, message)
  | .enqueue number id now topic submission =>
    match submission.accept id now topic with
    | .ok message => some (number, message)
    | .error _ => none
  | _ => none

/-- The transaction and the messages if a request saves messages. -/
def saved? : Request → Option (Nat × Save × List Message)
  | .saveProcessed number now messages => some (number, .processed now, messages)
  | .saveFailed number messages => some (number, .failed, messages)
  | _ => none

/-- The transaction that a request ends without its changes. -/
def ended? : Request → Option Nat
  | .rollback number => some number
  | .drop number => some number
  | _ => none

end Request

/-- A store and the handles of the transactions that are open on it, by their numbers. -/
structure Sessions where
  store : Store
  handles : Nat → Option Transaction

/-- A new message, for histories that serve as examples. -/
def Message.fruit : Message :=
  .ofSubmission default .epoch "fruit.events"
    { aggregateId := 1, aggregateType := "fruit", payload := [0x7B, 0x7D] } 3

/-- The same message with a number as its id. -/
def Message.fruitNumbered (number : UInt8) : Message :=
  { Message.fruit with id := ⟨number.toNat, Nat.lt_trans number.toNat_lt (by decide)⟩ }

namespace Sessions

def empty (home : StoreId) : Sessions :=
  ⟨{ id := home }, fun _ => none⟩

def on (sessions : Sessions) (number : Nat) (work : Transaction → Sessions × Reply) :
    Sessions × Reply :=
  match sessions.handles number with
  | some tx => work tx
  | none => (sessions, .closed)

def put (sessions : Sessions) (number : Nat) (tx : Transaction) : Sessions :=
  { sessions with handles := Function.update sessions.handles number (some tx) }

/-- Keeps what an operation has made of a transaction. -/
def keep (sessions : Sessions) (number : Nat) (result : Except Error Transaction) :
    Sessions × Reply :=
  match result with
  | .ok tx => (sessions.put number tx, .done)
  | .error error => (sessions, .refused error)

/-- Leaves a store behind in which a transaction has ended. -/
def leave (sessions : Sessions) (number : Nat) (store : Store) : Sessions :=
  ⟨store, Function.update sessions.handles number none⟩

def close (sessions : Sessions) (number : Nat) (tx : Transaction) (result : Except Error Store) :
    Sessions × Reply :=
  match result with
  | .ok store => (sessions.leave number store, .done)
  | .error error => (sessions.leave number (sessions.store.drop tx), .refused error)

def step (sessions : Sessions) : Request → Sessions × Reply
  | .begin =>
    let (tx, store) := sessions.store.begin
    ({ sessions with store }.put tx.number tx, .begun tx.number)
  | .create number message =>
    sessions.on number fun tx => sessions.keep number (sessions.store.create tx message)
  | .enqueue number id now topic submission =>
    sessions.on number fun tx =>
      match sessions.store.enqueue tx id now topic submission with
      | .ok (id, tx) => (sessions.put number tx, .enqueued id)
      | .error error => (sessions, .refused error)
  | .fetch number limit =>
    sessions.on number fun tx =>
      match sessions.store.fetch tx limit with
      | .ok (messages, store) => ({ sessions with store }, .fetched messages)
      | .error error => (sessions, .refused error)
  | .saveProcessed number now messages =>
    sessions.on number fun tx =>
      sessions.keep number (sessions.store.saveProcessed tx now messages)
  | .saveFailed number messages =>
    sessions.on number fun tx => sessions.keep number (sessions.store.saveFailed tx messages)
  | .commit number =>
    sessions.on number fun tx => sessions.close number tx (sessions.store.commit tx)
  | .rollback number =>
    sessions.on number fun tx => sessions.close number tx (sessions.store.rollback tx)
  | .drop number =>
    sessions.on number fun tx => (sessions.leave number (sessions.store.drop tx), .done)

def play (sessions : Sessions) (requests : List Request) : Sessions :=
  requests.foldl (fun sessions request => (sessions.step request).1) sessions

def run (home : StoreId) (requests : List Request) : Sessions :=
  (empty home).play requests

theorem run_concat (home : StoreId) (past : List Request) (request : Request) :
    run home (past ++ [request]) = ((run home past).step request).1 := by
  simp [run, play]

/-! ## What a request can do -/

inductive Change (sessions : Sessions) : Request → Sessions → Prop where
  | nothing (request : Request) : Change sessions request sessions
  | began : Change sessions .begin
      ({ sessions with
        store := { sessions.store with begun := sessions.store.begun + 1 } }.put
          (sessions.store.begun + 1)
          { home := sessions.store.id, number := sessions.store.begun + 1 })
  | created {request : Request} {number : Nat} {tx : Transaction} {message : Message}
      (asked : request.created? = some (number, message))
      (opened : sessions.handles number = some tx)
      (uncommitted : sessions.store.find? message.id = none)
      (new : tx.insert? message.id = none) :
      Change sessions request
        (sessions.put number { tx with inserts := tx.inserts ++ [message] })
  | claimed {number limit : Nat} {tx : Transaction}
      (opened : sessions.handles number = some tx) :
      Change sessions (.fetch number limit)
        { sessions with
          store := sessions.store.claimAll tx ((sessions.store.batch tx limit).map Message.id) }
  | saved {request : Request} {number : Nat} {save : Save} {messages : List Message}
      {tx : Transaction} (asked : request.saved? = some (number, save, messages))
      (opened : sessions.handles number = some tx) :
      Change sessions request (sessions.put number (sessions.store.settleAll save tx messages))
  | committed {number : Nat} {tx : Transaction} (opened : sessions.handles number = some tx) :
      Change sessions (.commit number) (sessions.leave number (sessions.store.installed tx))
  | ended {request : Request} {number : Nat} {tx : Transaction}
      (asked : request.ended? = some number) (opened : sessions.handles number = some tx) :
      Change sessions request (sessions.leave number (sessions.store.release tx.number))

end Sessions

/-! ## Sound sessions -/

/-- What holds of every transaction that is open on a store. -/
structure Transaction.Lawful (tx : Transaction) (store : Store) : Prop where
  home : tx.home = store.id
  number_le : tx.number ≤ store.begun
  inserts_distinct : (tx.inserts.map Message.id).Nodup
  updates_distinct : (tx.updates.map Message.id).Nodup
  updates_committed : ∀ id, (tx.update? id).isSome = true → id ∈ store.rows.map Message.id

theorem Transaction.Lawful.owned {tx : Transaction} {store : Store} (lawful : tx.Lawful store) :
    store.owns tx = true := by
  simp [Store.owns, lawful.home]

theorem Transaction.lawful_begin (store : Store) : store.begin.1.Lawful store.begin.2 where
  home := rfl
  number_le := Nat.le_refl _
  inserts_distinct := List.nodup_nil
  updates_distinct := List.nodup_nil
  updates_committed := by
    intro id updated
    cases updated

/-- A store is older than another: no row and no number of a transaction was lost since. -/
structure Store.Older (older newer : Store) : Prop where
  id : newer.id = older.id
  begun : older.begun ≤ newer.begun
  rows : older.rows.map Message.id <+: newer.rows.map Message.id

theorem Store.Older.refl (store : Store) : store.Older store :=
  ⟨rfl, Nat.le_refl _, List.prefix_rfl⟩

theorem Store.Older.trans {first second third : Store} (before : first.Older second)
    (after : second.Older third) : first.Older third :=
  ⟨after.id.trans before.id, Nat.le_trans before.begun after.begun,
    before.rows.trans after.rows⟩

theorem Transaction.Lawful.later {tx : Transaction} {older newer : Store}
    (lawful : tx.Lawful older) (grown : older.Older newer) : tx.Lawful newer where
  home := lawful.home.trans grown.id.symm
  number_le := Nat.le_trans lawful.number_le grown.begun
  inserts_distinct := lawful.inserts_distinct
  updates_distinct := lawful.updates_distinct
  updates_committed := fun id there => grown.rows.subset (lawful.updates_committed id there)

namespace Store

theorem map_id_rows_installed (store : Store) (tx : Transaction) :
    (store.installed tx).rows.map Message.id =
      store.rows.map Message.id ++ tx.inserts.map Message.id := by
  simp [installed, Transaction.map_id_foldl_replace]

/-- A commit of updates alone replaces each row that has one. -/
theorem rows_installed_of_updates {store : Store} {tx : Transaction} (lawful : tx.Lawful store)
    (no_inserts : tx.inserts = []) (unique : (store.rows.map Message.id).Nodup) :
    (store.installed tx).rows = store.rows.map fun row => (tx.update? row.id).getD row := by
  rw [installed, rows_release, no_inserts, List.append_nil]
  exact Transaction.foldl_replace_eq_map lawful.updates_distinct unique

theorem older_installed (store : Store) (tx : Transaction) : store.Older (store.installed tx) :=
  ⟨rfl, Nat.le_refl _, by
    rw [map_id_rows_installed]
    exact List.prefix_append _ _⟩

theorem older_release (store : Store) (number : Nat) : store.Older (store.release number) :=
  ⟨rfl, Nat.le_refl _, List.prefix_rfl⟩

theorem older_claimAll (store : Store) (tx : Transaction) (rows : List Uuid) :
    store.Older (store.claimAll tx rows) :=
  ⟨rfl, Nat.le_refl _, List.prefix_rfl⟩

end Store

theorem Transaction.Lawful.insert {tx : Transaction} {store : Store} {message : Message}
    (lawful : tx.Lawful store) (new : tx.insert? message.id = none) :
    Transaction.Lawful { tx with inserts := tx.inserts ++ [message] } store where
  home := lawful.home
  number_le := lawful.number_le
  inserts_distinct := by
    have absent := (find?_id_eq_none tx.inserts message.id).mp new
    have extended := lawful.inserts_distinct.concat absent
    simpa using extended
  updates_distinct := lawful.updates_distinct
  updates_committed := lawful.updates_committed

theorem Transaction.Lawful.settleAll {tx : Transaction} {store : Store}
    (lawful : tx.Lawful store) (save : Save) (messages : List Message) :
    (store.settleAll save tx messages).Lawful store where
  home := by simpa using lawful.home
  number_le := by simpa using lawful.number_le
  inserts_distinct := by simpa using lawful.inserts_distinct
  updates_distinct := store.updateIds_settleAll_nodup save lawful.updates_distinct messages
  updates_committed := by
    intro id there
    rcases (store.update?_settleAll_isSome save tx messages id).mp there with
      earlier | ⟨_, _, row, found, _⟩
    · exact lawful.updates_committed id earlier
    · rw [← find?_id_isSome]
      exact Option.isSome_iff_exists.mpr ⟨row, found⟩

namespace Sessions

/-! ### Handles after a change -/

theorem handles_put {sessions : Sessions} {number other : Nat} {tx found : Transaction}
    (opened : (sessions.put number tx).handles other = some found) :
    (other = number ∧ found = tx) ∨ (other ≠ number ∧ sessions.handles other = some found) := by
  by_cases same : other = number
  · subst same
    simp only [put, Function.update_self, Option.some.injEq] at opened
    exact Or.inl ⟨rfl, opened.symm⟩
  · simp only [put, Function.update_of_ne same] at opened
    exact Or.inr ⟨same, opened⟩

theorem handles_leave {sessions : Sessions} {number other : Nat} {store : Store}
    {found : Transaction} (opened : (sessions.leave number store).handles other = some found) :
    other ≠ number ∧ sessions.handles other = some found := by
  by_cases same : other = number
  · subst same
    simp [leave] at opened
  · simp only [leave, Function.update_of_ne same] at opened
    exact ⟨same, opened⟩

/-- Where a transaction that is open after a change comes from: it was open and is as it was, it has
just begun, a row was created in it, or messages were saved in it. -/
theorem Change.origin {sessions after : Sessions} {request : Request}
    (change : Change sessions request after) {number : Nat} {tx : Transaction}
    (opened : after.handles number = some tx) :
    sessions.handles number = some tx ∨
    (number = sessions.store.begun + 1 ∧
      tx = { home := sessions.store.id, number := sessions.store.begun + 1 }) ∨
    (∃ old message, sessions.handles number = some old ∧
      request.created? = some (number, message) ∧
      sessions.store.find? message.id = none ∧ old.insert? message.id = none ∧
      tx = { old with inserts := old.inserts ++ [message] }) ∨
    (∃ old save messages, sessions.handles number = some old ∧
      request.saved? = some (number, save, messages) ∧
      tx = sessions.store.settleAll save old messages) := by
  cases change with
  | nothing => exact Or.inl opened
  | began =>
      rcases handles_put opened with ⟨same, begun⟩ | ⟨_, kept⟩
      · exact Or.inr (Or.inl ⟨same, begun⟩)
      · exact Or.inl kept
  | @created _ _ old message asked old_opened uncommitted new =>
      rcases handles_put opened with ⟨rfl, created⟩ | ⟨_, kept⟩
      · exact Or.inr (Or.inr (Or.inl
          ⟨old, message, old_opened, asked, uncommitted, new, created⟩))
      · exact Or.inl kept
  | claimed => exact Or.inl opened
  | @saved _ _ save messages old asked old_opened =>
      rcases handles_put opened with ⟨rfl, saved⟩ | ⟨_, kept⟩
      · exact Or.inr (Or.inr (Or.inr ⟨old, save, messages, old_opened, asked, saved⟩))
      · exact Or.inl kept
  | committed => exact Or.inl (handles_leave opened).2
  | ended => exact Or.inl (handles_leave opened).2

theorem Change.number_origin {sessions after : Sessions} {request : Request}
    (change : Change sessions request after) {number : Nat}
    (opened : (after.handles number).isSome = true) :
    (sessions.handles number).isSome = true ∨ number = sessions.store.begun + 1 := by
  obtain ⟨tx, found⟩ := Option.isSome_iff_exists.mp opened
  rcases change.origin found with
    kept | ⟨new, _⟩ | ⟨old, message, old_opened, _⟩ | ⟨old, save, messages, old_opened, _⟩
  · exact Or.inl (Option.isSome_of_eq_some kept)
  · exact Or.inr new
  · exact Or.inl (Option.isSome_of_eq_some old_opened)
  · exact Or.inl (Option.isSome_of_eq_some old_opened)

/-- Every handle stands under the number of its transaction, and the transaction is lawful. -/
def Sound (sessions : Sessions) : Prop :=
  ∀ number tx, sessions.handles number = some tx →
    tx.number = number ∧ tx.Lawful sessions.store

theorem sound_empty (home : StoreId) : (empty home).Sound := by
  intro number tx opened
  cases opened

theorem sound_later {sessions : Sessions} (sound : sessions.Sound) {store : Store}
    (grown : sessions.store.Older store) : Sound { sessions with store } := by
  intro number tx opened
  obtain ⟨own, lawful⟩ := sound number tx opened
  exact ⟨own, lawful.later grown⟩

theorem sound_put {sessions : Sessions} (sound : sessions.Sound) {number : Nat}
    {tx : Transaction} (own : tx.number = number) (lawful : tx.Lawful sessions.store) :
    (sessions.put number tx).Sound := by
  intro other found opened
  rcases handles_put opened with ⟨rfl, rfl⟩ | ⟨_, kept⟩
  · exact ⟨own, lawful⟩
  · exact sound other found kept

theorem sound_leave {sessions : Sessions} (sound : sessions.Sound) (number : Nat)
    {store : Store} (grown : sessions.store.Older store) :
    (sessions.leave number store).Sound := by
  intro other found opened
  obtain ⟨own, lawful⟩ := sound other found (handles_leave opened).2
  exact ⟨own, lawful.later grown⟩

theorem Change.older {sessions after : Sessions} {request : Request}
    (change : Change sessions request after) : sessions.store.Older after.store := by
  cases change with
  | nothing => exact Store.Older.refl _
  | began => exact ⟨rfl, Nat.le_succ _, List.prefix_rfl⟩
  | created => exact Store.Older.refl _
  | claimed => exact Store.older_claimAll _ _ _
  | saved => exact Store.Older.refl _
  | committed => exact Store.older_installed _ _
  | ended => exact Store.older_release _ _

theorem Change.sound {sessions after : Sessions} {request : Request}
    (change : Change sessions request after) (sound : sessions.Sound) : after.Sound := by
  have grown := change.older
  cases change with
  | nothing => exact sound
  | began =>
      apply sound_put (sound_later sound grown)
      · rfl
      · exact Transaction.lawful_begin sessions.store
  | created asked opened uncommitted new =>
      obtain ⟨own, lawful⟩ := sound _ _ opened
      exact sound_put sound own (lawful.insert new)
  | claimed opened => exact sound_later sound grown
  | saved asked opened =>
      obtain ⟨own, lawful⟩ := sound _ _ opened
      exact sound_put sound (by simpa using own) (lawful.settleAll _ _)
  | committed opened => exact sound_leave sound _ grown
  | ended asked opened => exact sound_leave sound _ grown

/-! ### Locks after a change -/

theorem Change.single {sessions after : Sessions} {request : Request}
    (change : Change sessions request after) (single : sessions.store.OneLockEach) :
    after.store.OneLockEach := by
  cases change with
  | claimed => exact Store.oneLockEach_claimAll single _ _
  | committed => exact Store.oneLockEach_installed single _
  | ended => exact Store.oneLockEach_release single _
  | _ => exact single

theorem isSome_handles_put {sessions : Sessions} {number other : Nat} (tx : Transaction)
    (opened : (sessions.handles other).isSome = true) :
    ((sessions.put number tx).handles other).isSome = true := by
  by_cases same : other = number
  · subst same
    simp [put]
  · simpa [put, Function.update_of_ne same] using opened

/-- A lock after a change belongs to a transaction that is open, or it was there before and belongs
to somebody who has no handle. -/
theorem Change.lock_origin {sessions after : Sessions} {request : Request}
    (change : Change sessions request after) (sound : sessions.Sound) {lock : Lock}
    (member : lock ∈ after.store.locks) :
    (after.handles lock.owner).isSome = true ∨
      (lock ∈ sessions.store.locks ∧ sessions.handles lock.owner = none) := by
  have of_put (number : Nat) (tx : Transaction) (there : lock ∈ sessions.store.locks) :
      ((sessions.put number tx).handles lock.owner).isSome = true ∨
        (lock ∈ sessions.store.locks ∧ sessions.handles lock.owner = none) := by
    cases opened : sessions.handles lock.owner with
    | none => exact Or.inr ⟨there, rfl⟩
    | some found => exact Or.inl (isSome_handles_put tx (Option.isSome_of_eq_some opened))
  have of_leave (number : Nat) (store : Store) (there : lock ∈ sessions.store.locks)
      (other : lock.owner ≠ number) :
      ((sessions.leave number store).handles lock.owner).isSome = true ∨
        (lock ∈ sessions.store.locks ∧ sessions.handles lock.owner = none) := by
    cases opened : sessions.handles lock.owner with
    | none => exact Or.inr ⟨there, rfl⟩
    | some found => exact Or.inl (by simp [leave, Function.update_of_ne other, opened])
  cases change with
  | nothing =>
      cases opened : sessions.handles lock.owner with
      | none => exact Or.inr ⟨member, rfl⟩
      | some found => exact Or.inl rfl
  | began => exact of_put _ _ member
  | created => exact of_put _ _ member
  | @claimed number limit tx opened =>
      rcases Store.mem_locks_claimAll member with own | there
      · exact Or.inl (by simp [own, (sound number tx opened).1, opened])
      · cases found : sessions.handles lock.owner with
        | none => exact Or.inr ⟨there, rfl⟩
        | some other => exact Or.inl rfl
  | saved => exact of_put _ _ member
  | @committed number tx opened =>
      simp only [leave, Store.locks_installed] at member
      obtain ⟨there, other⟩ := Store.mem_locks_release.mp member
      rw [(sound number tx opened).1] at other
      exact of_leave number _ there other
  | @ended _ number tx asked opened =>
      obtain ⟨there, other⟩ := Store.mem_locks_release.mp member
      rw [(sound number tx opened).1] at other
      exact of_leave number _ there other

/-- What a fetch claims is committed and held by nobody else, or it is a new row of the transaction
itself. -/
theorem committed_or_own_of_batch {store : Store} {tx : Transaction} {limit : Nat} {id : Uuid}
    (claimed : id ∈ (store.batch tx limit).map Message.id) :
    (id ∈ store.rows.map Message.id ∧ store.isHeldByOther tx id = false) ∨
      id ∈ tx.inserts.map Message.id := by
  obtain ⟨message, member, rfl⟩ := List.mem_map.mp claimed
  rcases (Store.mem_batch member).2 with ⟨row, row_member, free, visible⟩ | own
  · have same : message.id = row.id := by
      cases updated : tx.update? row.id with
      | none => simp [visible, updated]
      | some update =>
          rw [visible, updated]
          exact (find?_id_spec updated).2
    rw [same]
    exact Or.inl ⟨List.mem_map_of_mem row_member, free⟩
  · exact Or.inr (List.mem_map_of_mem own)

/-- Whoever has no handle keeps a row that he holds, unless it is fetched by a transaction with a
new row of the same id. -/
theorem Change.owner_kept {sessions after : Sessions} {request : Request}
    (change : Change sessions request after) (sound : sessions.Sound) {id : Uuid} {number : Nat}
    (held : sessions.store.owner? id = some number) (foreign : sessions.handles number = none) :
    after.store.owner? id = some number ∨
      ∃ other limit tx, request = .fetch other limit ∧ sessions.handles other = some tx ∧
        id ∈ tx.inserts.map Message.id := by
  have different {other : Nat} {tx : Transaction} (opened : sessions.handles other = some tx) :
      number ≠ tx.number := by
    rw [(sound other tx opened).1]
    rintro rfl
    simp [opened] at foreign
  cases change with
  | @claimed other limit tx opened =>
      rw [Store.owner?_claimAll]
      by_cases claimed : id ∈ (sessions.store.batch tx limit).map Message.id
      · rcases committed_or_own_of_batch claimed with ⟨_, free⟩ | own
        · have same := (Store.isHeldByOther_eq_false_iff _ _ _).mp free number held
          exact absurd same (different opened)
        · exact Or.inr ⟨other, limit, tx, rfl, opened, own⟩
      · rw [if_neg claimed]
        exact Or.inl held
  | committed opened =>
      simp only [leave, Store.owner?_installed]
      exact Or.inl (Store.owner?_release_of_ne held (different opened))
  | ended asked opened => exact Or.inl (Store.owner?_release_of_ne held (different opened))
  | _ => exact Or.inl held

/-! ## Every request is such a change -/

theorem on_of_open {sessions : Sessions} {number : Nat} {tx : Transaction}
    (opened : sessions.handles number = some tx) (work : Transaction → Sessions × Reply) :
    sessions.on number work = work tx := by
  simp [on, opened]

theorem on_of_closed {sessions : Sessions} {number : Nat}
    (closed : sessions.handles number = none) (work : Transaction → Sessions × Reply) :
    sessions.on number work = (sessions, .closed) := by
  simp [on, closed]

/-- Whatever is asked of an open transaction is a change if the work on its handle is one. -/
theorem change_on {sessions : Sessions} {request : Request} {number : Nat}
    {work : Transaction → Sessions × Reply}
    (worked : ∀ tx, sessions.handles number = some tx → Change sessions request (work tx).1) :
    Change sessions request (sessions.on number work).1 := by
  cases opened : sessions.handles number with
  | none =>
      rw [on_of_closed opened]
      exact .nothing request
  | some tx =>
      rw [on_of_open opened]
      exact worked tx opened

theorem create_cases {store : Store} {tx : Transaction} (owned : store.owns tx = true)
    (message : Message) :
    (store.find? message.id = none ∧ tx.insert? message.id = none ∧
      store.create tx message = .ok { tx with inserts := tx.inserts ++ [message] }) ∨
    (((store.find? message.id).isSome = true ∨ (tx.insert? message.id).isSome = true) ∧
      store.create tx message = .error (Store.duplicate message.id)) := by
  unfold Store.create
  rw [if_pos owned]
  by_cases committed : (store.find? message.id).isSome = true
  · exact Or.inr ⟨Or.inl committed, by simp [committed]⟩
  · by_cases own : (tx.insert? message.id).isSome = true
    · exact Or.inr ⟨Or.inr own, by simp [own]⟩
    · refine Or.inl ⟨by simpa using committed, by simpa using own, ?_⟩
      rw [Bool.not_eq_true] at committed own
      simp [committed, own]

theorem step_change {sessions : Sessions} (sound : sessions.Sound) (request : Request) :
    Change sessions request (sessions.step request).1 := by
  cases request with
  | begin => exact .began
  | create number message =>
      apply change_on
      intro tx opened
      rcases create_cases (sound _ _ opened).2.owned message with
        ⟨uncommitted, new, result⟩ | ⟨_, result⟩
      · rw [result]
        exact .created rfl opened uncommitted new
      · rw [result]
        exact .nothing _
  | enqueue number id now topic submission =>
      apply change_on
      intro tx opened
      cases accepted : submission.accept id now topic with
      | error error =>
          simp only [Store.enqueue, accepted]
          exact .nothing _
      | ok message =>
          simp only [Store.enqueue, accepted]
          rcases create_cases (sound _ _ opened).2.owned message with
            ⟨uncommitted, new, result⟩ | ⟨_, result⟩
          · rw [result]
            exact .created (by simp [Request.created?, accepted]) opened uncommitted new
          · rw [result]
            exact .nothing _
  | fetch number limit =>
      apply change_on
      intro tx opened
      rw [Store.fetch_eq (sound _ _ opened).2.owned]
      exact .claimed opened
  | saveProcessed number now messages =>
      apply change_on
      intro tx opened
      rw [Store.saveProcessed_eq (sound _ _ opened).2.owned]
      exact .saved rfl opened
  | saveFailed number messages =>
      apply change_on
      intro tx opened
      rw [Store.saveFailed_eq (sound _ _ opened).2.owned]
      exact .saved rfl opened
  | commit number =>
      apply change_on
      intro tx opened
      rw [Store.commit_eq (sound _ _ opened).2.owned]
      exact .committed opened
  | rollback number =>
      apply change_on
      intro tx opened
      rw [Store.rollback_eq (sound _ _ opened).2.owned]
      exact .ended rfl opened
  | drop number =>
      apply change_on
      intro tx opened
      rw [Store.drop_eq (sound _ _ opened).2.owned]
      exact .ended rfl opened

theorem sound_step {sessions : Sessions} (sound : sessions.Sound) (request : Request) :
    (sessions.step request).1.Sound :=
  (step_change sound request).sound sound

theorem sound_run (home : StoreId) (requests : List Request) : (run home requests).Sound := by
  induction requests using List.reverseRecOn with
  | nil => exact sound_empty home
  | append_singleton past request ih =>
      rw [run_concat]
      exact sound_step ih request

theorem run_change (home : StoreId) (past : List Request) (request : Request) :
    Change (run home past) request (run home (past ++ [request])) := by
  rw [run_concat]
  exact step_change (sound_run home past) request

theorem step_commit {sessions : Sessions} (sound : sessions.Sound) {number : Nat}
    {tx : Transaction} (opened : sessions.handles number = some tx) :
    sessions.step (.commit number) =
      (sessions.leave number (sessions.store.installed tx), .done) := by
  simp only [step, on_of_open opened, Store.commit_eq (sound _ _ opened).2.owned]
  rfl

theorem step_saved {sessions : Sessions} (sound : sessions.Sound) {request : Request}
    {number : Nat} {save : Save} {messages : List Message} {tx : Transaction}
    (asked : request.saved? = some (number, save, messages))
    (opened : sessions.handles number = some tx) :
    (sessions.step request).1 =
      sessions.put number (sessions.store.settleAll save tx messages) := by
  have owned := (sound _ _ opened).2.owned
  cases request with
  | saveProcessed saver now saved =>
      simp only [Request.saved?, Option.some.injEq, Prod.mk.injEq] at asked
      obtain ⟨rfl, rfl, rfl⟩ := asked
      simp only [step, on_of_open opened, Store.saveProcessed_eq owned]
      rfl
  | saveFailed saver saved =>
      simp only [Request.saved?, Option.some.injEq, Prod.mk.injEq] at asked
      obtain ⟨rfl, rfl, rfl⟩ := asked
      simp only [step, on_of_open opened, Store.saveFailed_eq owned]
      rfl
  | _ => simp [Request.saved?] at asked

/-- What was there at some point of a history is older than what the history leaves behind. -/
theorem older_run (home : StoreId) (past future : List Request) :
    (run home past).store.Older (run home (past ++ future)).store := by
  induction future using List.reverseRecOn with
  | nil =>
      rw [List.append_nil]
      exact Store.Older.refl _
  | append_singleton before request ih =>
      rw [← List.append_assoc]
      exact ih.trans (run_change home (past ++ before) request).older

end Sessions

end Outbox
