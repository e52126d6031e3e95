import Mathlib.Algebra.GroupWithZero.Nat
import Outbox.Proofs.Store.Sessions

/-!
# Erasing a transaction

A transaction that has claimed nothing and is not committed leaves nothing behind.  A history in
which such a transaction is left out is played beside the full one: the two stores show the same
rows, every other transaction has staged the same changes, and locks and handles differ only in
their numbers, since the transactions that were begun later are counted one less.
-/

set_option autoImplicit false

namespace Outbox

/-! ## Numbers without a transaction -/

/-- The number that a transaction has if another one was never begun. -/
def renumber (gone number : Nat) : Nat :=
  if gone < number then number - 1 else number

theorem renumber_inj {gone first second : Nat} (first_other : first ≠ gone)
    (second_other : second ≠ gone) :
    renumber gone first = renumber gone second ↔ first = second := by
  unfold renumber
  split <;> split <;> omega

def Lock.renumbered (gone : Nat) (lock : Lock) : Lock :=
  { lock with owner := renumber gone lock.owner }

def Transaction.renumbered (gone : Nat) (tx : Transaction) : Transaction :=
  { tx with number := renumber gone tx.number }

def Reply.renumbered (gone : Nat) : Reply → Reply
  | .begun number => .begun (renumber gone number)
  | reply => reply

namespace Request

/-- The transaction on which a request is made. -/
def number? : Request → Option Nat
  | .begin => none
  | .create number _ => some number
  | .enqueue number _ _ _ _ => some number
  | .fetch number _ => some number
  | .saveProcessed number _ _ => some number
  | .saveFailed number _ => some number
  | .commit number => some number
  | .rollback number => some number
  | .drop number => some number

theorem number?_of_created {request : Request} {number : Nat} {message : Message}
    (asked : request.created? = some (number, message)) : request.number? = some number := by
  cases request with
  | create =>
      cases asked
      rfl
  | enqueue =>
      simp only [created?] at asked
      split at asked
      · cases asked
        rfl
      · cases asked
  | _ => cases asked

theorem number?_of_saved {request : Request} {number : Nat} {save : Save} {messages : List Message}
    (asked : request.saved? = some (number, save, messages)) : request.number? = some number := by
  cases request with
  | saveProcessed =>
      cases asked
      rfl
  | saveFailed =>
      cases asked
      rfl
  | _ => cases asked

theorem number?_of_ended {request : Request} {number : Nat}
    (asked : request.ended? = some number) : request.number? = some number := by
  cases request with
  | rollback => exact asked
  | drop => exact asked
  | _ => cases asked

def renumbered (gone : Nat) : Request → Request
  | .begin => .begin
  | .create number message => .create (renumber gone number) message
  | .enqueue number id now topic submission =>
    .enqueue (renumber gone number) id now topic submission
  | .fetch number limit => .fetch (renumber gone number) limit
  | .saveProcessed number now messages => .saveProcessed (renumber gone number) now messages
  | .saveFailed number messages => .saveFailed (renumber gone number) messages
  | .commit number => .commit (renumber gone number)
  | .rollback number => .rollback (renumber gone number)
  | .drop number => .drop (renumber gone number)

/-- A request belongs to a transaction if it begins it, or is made on it. -/
def belongsTo (gone begun : Nat) : Request → Bool
  | .begin => begun + 1 == gone
  | request => request.number? == some gone

/-- How many transactions a request begins. -/
def begins : Request → Nat
  | .begin => 1
  | _ => 0

end Request

/-! ## Stores without a transaction -/

namespace Store

def without (gone : Nat) (store : Store) : Store :=
  { store with
    locks := store.locks.map (Lock.renumbered gone)
    begun := if gone ≤ store.begun then store.begun - 1 else store.begun }

section
variable {gone : Nat} {store : Store} {tx : Transaction}

theorem owner?_without (row : Uuid) :
    (store.without gone).owner? row = (store.owner? row).map (renumber gone) := by
  simp only [owner?, without, List.find?_map, Option.map_map]
  rfl

theorem isHeldByOther_without (unlocked : ∀ lock ∈ store.locks, lock.owner ≠ gone)
    (other : tx.number ≠ gone) (row : Uuid) :
    (store.without gone).isHeldByOther (tx.renumbered gone) row = store.isHeldByOther tx row := by
  unfold isHeldByOther
  rw [owner?_without]
  cases held : store.owner? row with
  | none => rfl
  | some owner =>
      obtain ⟨lock, member, _, rfl⟩ := lock_of_owner? held
      have same := renumber_inj (unlocked lock member) other
      by_cases own : lock.owner = tx.number
      · simp [Transaction.renumbered, own]
      · have different : renumber gone lock.owner ≠ renumber gone tx.number := by
          rw [ne_eq, same]
          exact own
        rw [Option.map_some]
        simp only [Transaction.renumbered]
        rw [bne_iff_ne.mpr own, bne_iff_ne.mpr different]

theorem batch_without (unlocked : ∀ lock ∈ store.locks, lock.owner ≠ gone)
    (other : tx.number ≠ gone) (limit : Nat) :
    (store.without gone).batch (tx.renumbered gone) limit = store.batch tx limit := by
  have visible : (store.without gone).claimable? (tx.renumbered gone) = store.claimable? tx := by
    funext row
    unfold claimable?
    rw [isHeldByOther_without unlocked other]
    rfl
  unfold batch
  rw [visible]
  rfl

theorem claimAll_without (rows : List Uuid) :
    (store.claimAll tx rows).without gone =
      (store.without gone).claimAll (tx.renumbered gone) rows := by
  induction rows generalizing store with
  | nil => rfl
  | cons row rest ih =>
      rw [claimAll_cons, claimAll_cons, ih]
      congr 1
      simp only [without, claim, List.map_cons, List.filter_map]
      rfl

theorem release_without (unlocked : ∀ lock ∈ store.locks, lock.owner ≠ gone) {number : Nat}
    (other : number ≠ gone) :
    (store.release number).without gone = (store.without gone).release (renumber gone number) := by
  have kept : ∀ lock ∈ store.locks, decide (lock.owner ≠ number) =
      decide ((lock.renumbered gone).owner ≠ renumber gone number) := by
    intro lock member
    simp only [Lock.renumbered, ne_eq, renumber_inj (unlocked lock member) other]
  simp only [release, without, List.filter_map]
  rw [List.filter_congr kept]
  rfl

theorem release_unlocked (unlocked : ∀ lock ∈ store.locks, lock.owner ≠ gone) :
    store.release gone = store := by
  have all_kept : store.locks.filter (fun lock => lock.owner ≠ gone) = store.locks := by
    rw [List.filter_eq_self]
    intro lock member
    simpa using unlocked lock member
  simp only [release, all_kept]

theorem installed_without (unlocked : ∀ lock ∈ store.locks, lock.owner ≠ gone)
    (other : tx.number ≠ gone) :
    (store.installed tx).without gone = (store.without gone).installed (tx.renumbered gone) := by
  let written : Store := { store with
    rows := tx.updates.foldl (fun rows update => Transaction.replace update rows)
      (store.rows ++ tx.inserts) }
  have free : ∀ lock ∈ written.locks, lock.owner ≠ gone := unlocked
  exact release_without free other

theorem stage_renumbered (message : Message) :
    (tx.renumbered gone).stage message = (tx.stage message).renumbered gone := by
  have same_insert : (tx.renumbered gone).insert? message.id = tx.insert? message.id := rfl
  have same_update : (tx.renumbered gone).update? message.id = tx.update? message.id := rfl
  unfold Transaction.stage
  rw [same_insert, same_update]
  split
  · rfl
  · split <;> rfl

theorem settle_without (save : Save) (tx : Transaction) (message : Message) :
    (store.without gone).settle save (tx.renumbered gone) message =
      (store.settle save tx message).renumbered gone := by
  have seen : (store.without gone).current? (tx.renumbered gone) message.id =
      store.current? tx message.id := rfl
  unfold settle
  rw [seen]
  cases store.current? tx message.id with
  | none => rfl
  | some row =>
      by_cases pending : row.isPending = true
      · simp only [pending, if_true]
        exact stage_renumbered _
      · simp only [pending]
        rfl

theorem settleAll_without (save : Save) (messages : List Message) :
    (store.without gone).settleAll save (tx.renumbered gone) messages =
      (store.settleAll save tx messages).renumbered gone := by
  unfold settleAll
  induction messages generalizing tx with
  | nil => rfl
  | cons message rest ih =>
      rw [List.foldl_cons, List.foldl_cons, settle_without, ih]

theorem create_without (message : Message) :
    (store.without gone).create (tx.renumbered gone) message =
      (store.create tx message).map (Transaction.renumbered gone) := by
  have same_owner : (store.without gone).owns (tx.renumbered gone) = store.owns tx := rfl
  have same_row : (store.without gone).find? message.id = store.find? message.id := rfl
  have same_insert : (tx.renumbered gone).insert? message.id = tx.insert? message.id := rfl
  unfold create
  rw [same_owner, same_row, same_insert]
  split
  · split <;> rfl
  · rfl

end

end Store

namespace Sessions

/-! ## Two histories side by side -/

/-- The sessions of a history without one of its transactions. -/
structure Twin (gone : Nat) (full lean : Sessions) : Prop where
  store : lean.store = full.store.without gone
  handles : ∀ number, number ≠ gone →
    lean.handles (renumber gone number) = (full.handles number).map (Transaction.renumbered gone)
  /-- The transaction that is left out has claimed nothing. -/
  unlocked : ∀ lock ∈ full.store.locks, lock.owner ≠ gone

section
variable {gone : Nat} {full lean : Sessions}

theorem twin_empty (home : StoreId) (begins : 0 < gone) : Twin gone (empty home) (empty home) where
  store := by
    have later : ¬ gone ≤ 0 := by omega
    simp [empty, Store.without, later]
  handles := fun _ _ => rfl
  unlocked := by simp [empty]

theorem Twin.put (twin : Twin gone full lean) {number : Nat} (other : number ≠ gone)
    (tx : Transaction) :
    Twin gone (full.put number tx) (lean.put (renumber gone number) (tx.renumbered gone)) where
  store := twin.store
  handles := by
    intro found found_other
    by_cases same : found = number
    · subst same
      simp [Sessions.put]
    · have different : renumber gone found ≠ renumber gone number := by
        rw [ne_eq, renumber_inj found_other other]
        exact same
      simp only [Sessions.put, Function.update_of_ne same, Function.update_of_ne different]
      exact twin.handles found found_other
  unlocked := twin.unlocked

theorem Twin.put_gone (twin : Twin gone full lean) (tx : Transaction) :
    Twin gone (full.put gone tx) lean where
  store := twin.store
  handles := by
    intro found found_other
    simp only [Sessions.put, Function.update_of_ne found_other]
    exact twin.handles found found_other
  unlocked := twin.unlocked

theorem Twin.leave (twin : Twin gone full lean) {number : Nat} (other : number ≠ gone)
    {store : Store} (unlocked : ∀ lock ∈ store.locks, lock.owner ≠ gone) :
    Twin gone (full.leave number store)
      (lean.leave (renumber gone number) (store.without gone)) where
  store := rfl
  handles := by
    intro found found_other
    by_cases same : found = number
    · subst same
      simp [Sessions.leave]
    · have different : renumber gone found ≠ renumber gone number := by
        rw [ne_eq, renumber_inj found_other other]
        exact same
      simp only [Sessions.leave, Function.update_of_ne same, Function.update_of_ne different]
      exact twin.handles found found_other
  unlocked := unlocked

theorem Twin.leave_gone (twin : Twin gone full lean) :
    Twin gone (full.leave gone full.store) lean where
  store := twin.store
  handles := by
    intro found found_other
    simp only [Sessions.leave, Function.update_of_ne found_other]
    exact twin.handles found found_other
  unlocked := twin.unlocked

/-- Both histories go on alike, and the replies tell the same. -/
def Alike (gone : Nat) (full lean : Sessions × Reply) : Prop :=
  Twin gone full.1 lean.1 ∧ lean.2 = full.2.renumbered gone

theorem Twin.on (twin : Twin gone full lean) {number : Nat} (other : number ≠ gone)
    {work leanWork : Transaction → Sessions × Reply}
    (worked : ∀ tx, full.handles number = some tx →
      Alike gone (work tx) (leanWork (tx.renumbered gone))) :
    Alike gone (full.on number work) (lean.on (renumber gone number) leanWork) := by
  cases opened : full.handles number with
  | none =>
      have lean_closed := twin.handles number other
      rw [opened, Option.map_none] at lean_closed
      rw [on_of_closed opened, on_of_closed lean_closed]
      exact ⟨twin, rfl⟩
  | some tx =>
      have lean_opened := twin.handles number other
      rw [opened, Option.map_some] at lean_opened
      rw [on_of_open opened, on_of_open lean_opened]
      exact worked tx opened

/-! ### What others ask -/

theorem Twin.begin (twin : Twin gone full lean) (begins : 0 < gone)
    (other : full.store.begun + 1 ≠ gone) :
    Alike gone (full.step .begin) (lean.step .begin) := by
  have number : lean.store.begun + 1 = renumber gone (full.store.begun + 1) := by
    rw [twin.store]
    simp only [Store.without, renumber]
    split <;> split <;> omega
  have same_id : lean.store.id = full.store.id := by rw [twin.store]; rfl
  have begun : Twin gone
      { full with store := { full.store with begun := full.store.begun + 1 } }
      { lean with store := { lean.store with begun := lean.store.begun + 1 } } := by
    refine ⟨?_, twin.handles, twin.unlocked⟩
    rw [twin.store]
    simp only [Store.without]
    congr 1
    split <;> split <;> omega
  have lean_begun : lean.step .begin =
      (Sessions.put { lean with store := { lean.store with begun := lean.store.begun + 1 } }
        (renumber gone (full.store.begun + 1))
        (Transaction.renumbered gone { home := full.store.id, number := full.store.begun + 1 }),
        .begun (renumber gone (full.store.begun + 1))) := by
    rw [Transaction.renumbered, ← number, ← same_id]
    rfl
  rw [lean_begun]
  exact ⟨begun.put other _, rfl⟩

theorem Twin.create (twin : Twin gone full lean) {number : Nat} (other : number ≠ gone)
    (message : Message) :
    Alike gone (full.step (.create number message))
      (lean.step (.create (renumber gone number) message)) := by
  apply twin.on other
  intro tx opened
  rw [twin.store, Store.create_without]
  cases full.store.create tx message with
  | error error => exact ⟨twin, rfl⟩
  | ok changed => exact ⟨twin.put other changed, rfl⟩

theorem Twin.enqueue (twin : Twin gone full lean) {number : Nat} (other : number ≠ gone)
    (id : Uuid) (now : Time.Instant) (topic : String) (submission : Submission) :
    Alike gone (full.step (.enqueue number id now topic submission))
      (lean.step (.enqueue (renumber gone number) id now topic submission)) := by
  apply twin.on other
  intro tx opened
  cases accepted : submission.accept id now topic with
  | error error =>
      simp only [Store.enqueue, accepted]
      exact ⟨twin, rfl⟩
  | ok message =>
      simp only [Store.enqueue, accepted]
      rw [twin.store, Store.create_without]
      cases full.store.create tx message with
      | error error => exact ⟨twin, rfl⟩
      | ok changed => exact ⟨twin.put other changed, rfl⟩

theorem Twin.fetch (twin : Twin gone full lean) (sound : full.Sound) {number : Nat}
    (other : number ≠ gone) (limit : Nat) :
    Alike gone (full.step (.fetch number limit))
      (lean.step (.fetch (renumber gone number) limit)) := by
  apply twin.on other
  intro tx opened
  obtain ⟨own, lawful⟩ := sound number tx opened
  have lean_owned : (full.store.without gone).owns (tx.renumbered gone) = true := lawful.owned
  have own_other : tx.number ≠ gone := own ▸ other
  rw [twin.store, Store.fetch_eq lawful.owned, Store.fetch_eq lean_owned,
    Store.batch_without twin.unlocked own_other, ← Store.claimAll_without]
  refine ⟨⟨rfl, twin.handles, ?_⟩, rfl⟩
  intro lock member
  rcases Store.mem_locks_claimAll member with claimed | earlier
  · rw [claimed]
    exact own_other
  · exact twin.unlocked lock earlier

theorem Twin.owned (twin : Twin gone full lean) (sound : full.Sound) {number : Nat}
    {tx : Transaction} (opened : full.handles number = some tx) :
    lean.store.owns (tx.renumbered gone) = true := by
  rw [twin.store]
  exact (sound number tx opened).2.owned

theorem Twin.saved (twin : Twin gone full lean) {number : Nat} (other : number ≠ gone)
    (save : Save) (tx : Transaction) (messages : List Message) :
    Twin gone (full.put number (full.store.settleAll save tx messages))
      (lean.put (renumber gone number)
        (lean.store.settleAll save (tx.renumbered gone) messages)) := by
  rw [twin.store, Store.settleAll_without]
  exact twin.put other _

theorem Twin.released (twin : Twin gone full lean) {number : Nat} (other : number ≠ gone) :
    Twin gone (full.leave number (full.store.release number))
      (lean.leave (renumber gone number) (lean.store.release (renumber gone number))) := by
  rw [twin.store, ← Store.release_without twin.unlocked other]
  apply twin.leave other
  intro lock member
  exact twin.unlocked lock (Store.mem_locks_release.mp member).1

theorem Twin.installed (twin : Twin gone full lean) {number : Nat} (other : number ≠ gone)
    {tx : Transaction} (own : tx.number = number) :
    Twin gone (full.leave number (full.store.installed tx))
      (lean.leave (renumber gone number) (lean.store.installed (tx.renumbered gone))) := by
  subst own
  rw [twin.store, ← Store.installed_without twin.unlocked other]
  apply twin.leave other
  intro lock member
  rw [Store.locks_installed] at member
  exact twin.unlocked lock (Store.mem_locks_release.mp member).1

/-- Whatever is asked that does not belong to the transaction that is left out has the same effect
and the same reply, but for the numbers. -/
theorem Twin.step (twin : Twin gone full lean) (sound : full.Sound) (begins : 0 < gone)
    {request : Request} (other : request.belongsTo gone full.store.begun = false) :
    Alike gone (full.step request) (lean.step (request.renumbered gone)) := by
  have different {number : Nat} (made : request.number? = some number) : number ≠ gone := by
    cases request with
    | begin => cases made
    | _ => simpa [Request.belongsTo, made] using other
  cases request with
  | begin => exact twin.begin begins (by simpa [Request.belongsTo] using other)
  | create number message => exact twin.create (different rfl) message
  | enqueue number id now topic submission =>
      exact twin.enqueue (different rfl) id now topic submission
  | fetch number limit => exact twin.fetch sound (different rfl) limit
  | saveProcessed number now messages =>
      apply twin.on (different rfl)
      intro tx opened
      rw [Store.saveProcessed_eq (sound number tx opened).2.owned,
        Store.saveProcessed_eq (twin.owned sound opened)]
      exact ⟨twin.saved (different rfl) _ tx messages, rfl⟩
  | saveFailed number messages =>
      apply twin.on (different rfl)
      intro tx opened
      rw [Store.saveFailed_eq (sound number tx opened).2.owned,
        Store.saveFailed_eq (twin.owned sound opened)]
      exact ⟨twin.saved (different rfl) _ tx messages, rfl⟩
  | commit number =>
      apply twin.on (different rfl)
      intro tx opened
      obtain ⟨own, lawful⟩ := sound number tx opened
      rw [Store.commit_eq lawful.owned, Store.commit_eq (twin.owned sound opened)]
      exact ⟨twin.installed (different rfl) own, rfl⟩
  | rollback number =>
      apply twin.on (different rfl)
      intro tx opened
      obtain ⟨rfl, lawful⟩ := sound number tx opened
      rw [Store.rollback_eq lawful.owned, Store.rollback_eq (twin.owned sound opened)]
      exact ⟨twin.released (different rfl), rfl⟩
  | drop number =>
      apply twin.on (different rfl)
      intro tx opened
      obtain ⟨rfl, lawful⟩ := sound number tx opened
      rw [Store.drop_eq lawful.owned, Store.drop_eq (twin.owned sound opened)]
      exact ⟨twin.released (different rfl), rfl⟩

/-! ### What the transaction asks -/

/-- A transaction that neither fetches nor is committed changes nothing that others see. -/
theorem Twin.change_gone (twin : Twin gone full lean) (sound : full.Sound) {after : Sessions}
    {request : Request} (change : Change full request after)
    (own : request.belongsTo gone full.store.begun = true)
    (unfetched : ∀ limit, request ≠ .fetch gone limit) (uncommitted : request ≠ .commit gone) :
    Twin gone after lean := by
  have made {number : Nat} (on_number : request.number? = some number) : number = gone := by
    cases request with
    | begin => cases on_number
    | _ => simpa [Request.belongsTo, on_number] using own
  cases change with
  | nothing => exact twin
  | began =>
      have next : full.store.begun + 1 = gone := by simpa [Request.belongsTo] using own
      have begun : Twin gone
          { full with store := { full.store with begun := full.store.begun + 1 } } lean := by
        refine ⟨?_, twin.handles, twin.unlocked⟩
        rw [twin.store]
        simp only [Store.without]
        congr 1
        split <;> split <;> omega
      rw [next] at begun ⊢
      exact begun.put_gone _
  | created asked =>
      rw [made (Request.number?_of_created asked)]
      exact twin.put_gone _
  | claimed opened =>
      have same := made rfl
      rw [same] at unfetched
      exact absurd rfl (unfetched _)
  | saved asked =>
      rw [made (Request.number?_of_saved asked)]
      exact twin.put_gone _
  | committed opened =>
      have same := made rfl
      rw [same] at uncommitted
      exact absurd rfl uncommitted
  | @ended _ number tx asked opened =>
      -- There is nothing to give back, since whoever never fetches holds no lock.
      rw [(sound number tx opened).1, made (Request.number?_of_ended asked),
        Store.release_unlocked twin.unlocked]
      exact twin.leave_gone

end

/-! ## Histories without a transaction -/

/-- A history without the requests of one transaction, when so many were begun before it. -/
def withoutFrom (gone : Nat) : Nat → List Request → List Request
  | _, [] => []
  | begun, request :: rest =>
    if request.belongsTo gone begun then withoutFrom gone (begun + request.begins) rest
    else request.renumbered gone :: withoutFrom gone (begun + request.begins) rest

def without (gone : Nat) (history : List Request) : List Request :=
  withoutFrom gone 0 history

theorem withoutFrom_append (gone begun : Nat) (past future : List Request) :
    withoutFrom gone begun (past ++ future) =
      withoutFrom gone begun past ++
        withoutFrom gone (begun + (past.map Request.begins).sum) future := by
  induction past generalizing begun with
  | nil => simp [withoutFrom]
  | cons request rest ih =>
      simp only [List.cons_append, withoutFrom, List.map_cons, List.sum_cons]
      rw [ih, Nat.add_assoc]
      split
      · rfl
      · rfl

theorem Change.begun {sessions after : Sessions} {request : Request}
    (change : Change sessions request after) (other : request ≠ .begin) :
    after.store.begun = sessions.store.begun := by
  cases change with
  | began => exact absurd rfl other
  | _ => rfl

theorem begun_run (home : StoreId) (past : List Request) :
    (run home past).store.begun = (past.map Request.begins).sum := by
  induction past using List.reverseRecOn with
  | nil => rfl
  | append_singleton past request ih =>
      rw [List.map_append, List.sum_append, ← ih]
      by_cases same : request = .begin
      · subst same
        rw [run_concat]
        rfl
      · have none_begun : request.begins = 0 := by
          cases request with
          | begin => exact absurd rfl same
          | _ => rfl
        rw [(run_change home past request).begun same]
        simp [none_begun]

theorem without_concat (home : StoreId) (gone : Nat) (past : List Request) (request : Request) :
    without gone (past ++ [request]) = without gone past ++
      if request.belongsTo gone (run home past).store.begun then []
      else [request.renumbered gone] := by
  unfold without
  rw [withoutFrom_append, begun_run, Nat.zero_add]
  simp only [withoutFrom]

theorem twin_run (home : StoreId) {gone : Nat} (begins : 0 < gone) (history : List Request)
    (unfetched : ∀ limit, .fetch gone limit ∉ history) (uncommitted : .commit gone ∉ history) :
    Twin gone (run home history) (run home (without gone history)) := by
  induction history using List.reverseRecOn with
  | nil => exact twin_empty home begins
  | append_singleton past request ih =>
      have twin := ih (fun limit member => unfetched limit (List.mem_append_left _ member))
        (fun member => uncommitted (List.mem_append_left _ member))
      have sound := sound_run home past
      rw [without_concat home]
      split
      · rename_i own
        rw [List.append_nil]
        apply twin.change_gone sound (run_change home past request) own
        · rintro limit rfl
          exact unfetched limit (by simp)
        · rintro rfl
          exact uncommitted (by simp)
      · rename_i other
        rw [run_concat, run_concat]
        exact (twin.step sound begins (by simpa using other)).1

end Sessions

end Outbox
