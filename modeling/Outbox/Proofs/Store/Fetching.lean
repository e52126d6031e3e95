import Mathlib.Algebra.GroupWithZero.Nat
import Mathlib.Data.List.SplitLengths
import Outbox.Proofs.Store.Sessions

/-!
# What a fetch returns

A fetch goes through the committed rows and then through the new rows of its transaction, and stops
when it has enough.  What it returns is the beginning of one list, `available`: the committed rows
that nobody else has locked, as the transaction sees them, and its new rows, of both the pending
ones.  The ids that it returns are locked for the transaction afterwards, and that is all.

So transactions that have just begun share the backlog among them: each takes what is left of the
pending rows, from the front, up to its limit.
-/

set_option autoImplicit false

namespace Outbox

/-- A committed row as a transaction sees it. -/
def Transaction.view (tx : Transaction) (row : Message) : Message :=
  (tx.update? row.id).getD row

/-- A transaction that has just begun in a store has staged nothing. -/
structure Transaction.Fresh (tx : Transaction) (store : Store) : Prop where
  home : tx.home = store.id
  no_inserts : tx.inserts = []
  no_updates : tx.updates = []

theorem Transaction.id_view (tx : Transaction) (row : Message) : (tx.view row).id = row.id := by
  unfold view
  cases updated : tx.update? row.id with
  | none => rfl
  | some message => exact (find?_id_spec updated).2

namespace Store

/-- Nobody has locked the row, or the transaction itself has. -/
def isFreeFor (store : Store) (tx : Transaction) (row : Uuid) : Bool :=
  decide (store.owner? row = none ∨ store.owner? row = some tx.number)

/-- All that a transaction could fetch, in this order. -/
def available (store : Store) (tx : Transaction) : List Message :=
  ((store.rows.filter fun row => store.isFreeFor tx row.id).map tx.view ++ tx.inserts).filter
    Message.isPending

section Available
variable {store : Store} {tx : Transaction}

theorem isFreeFor_eq (store : Store) (tx : Transaction) (row : Uuid) :
    store.isFreeFor tx row = !store.isHeldByOther tx row := by
  unfold isFreeFor isHeldByOther
  cases store.owner? row with
  | none => rfl
  | some owner => by_cases own : owner = tx.number <;> simp [own]

theorem claimable?_eq (store : Store) (tx : Transaction) (row : Message) :
    store.claimable? tx row =
      if store.isFreeFor tx row.id && (tx.view row).isPending then some (tx.view row)
      else none := by
  rw [isFreeFor_eq, claimable?, Transaction.view]
  cases store.isHeldByOther tx row.id with
  | true => rfl
  | false => rfl

theorem filterMap_claimable? (store : Store) (tx : Transaction) :
    store.rows.filterMap (store.claimable? tx) =
      ((store.rows.filter fun row => store.isFreeFor tx row.id).map tx.view).filter
        Message.isPending := by
  generalize store.rows = rows
  induction rows with
  | nil => rfl
  | cons row rest ih =>
      rw [List.filterMap_cons, claimable?_eq, ih]
      by_cases free : store.isFreeFor tx row.id = true
      · by_cases pending : (tx.view row).isPending = true
        · simp [free, pending]
        · simp [free, pending]
      · simp [free]

theorem batch_eq_take (store : Store) (tx : Transaction) (limit : Nat) :
    store.batch tx limit = (store.available tx).take limit := by
  rw [batch, available, filterMap_claimable?, List.filter_append]

/-- An id that is returned is free for the transaction, unless it is the id of a new row. -/
theorem free_or_new_of_available {id : Uuid}
    (returned : id ∈ (store.available tx).map Message.id) :
    store.isFreeFor tx id = true ∨ id ∈ tx.inserts.map Message.id := by
  obtain ⟨message, member, rfl⟩ := List.mem_map.mp returned
  rcases List.mem_append.mp (List.mem_filter.mp member).1 with committed | own
  · obtain ⟨row, there, rfl⟩ := List.mem_map.mp committed
    rw [Transaction.id_view]
    exact Or.inl (List.mem_filter.mp there).2
  · exact Or.inr (List.mem_map_of_mem own)

theorem isFreeFor_claimAll {rows : List Uuid} {row : Uuid}
    (free : row ∈ rows → store.isFreeFor tx row = true) :
    (store.claimAll tx rows).isFreeFor tx row = store.isFreeFor tx row := by
  by_cases claimed : row ∈ rows
  · rw [free claimed, isFreeFor, owner?_claimAll, if_pos claimed]
    simp
  · rw [isFreeFor, owner?_claimAll, if_neg claimed]
    rfl

/-- A transaction that has locked some of what it could fetch could still fetch the same. -/
theorem available_claimAll {rows : List Uuid}
    (returned : ∀ row ∈ rows, row ∈ (store.available tx).map Message.id)
    (apart : ∀ own ∈ tx.inserts, own.id ∉ store.rows.map Message.id) :
    (store.claimAll tx rows).available tx = store.available tx := by
  have same : (store.rows.filter fun row => (store.claimAll tx rows).isFreeFor tx row.id) =
      store.rows.filter fun row => store.isFreeFor tx row.id := by
    apply List.filter_congr
    intro row member
    apply isFreeFor_claimAll
    intro claimed
    rcases free_or_new_of_available (returned row.id claimed) with free | own
    · exact free
    · obtain ⟨message, inserted, named⟩ := List.mem_map.mp own
      exact absurd (named ▸ List.mem_map_of_mem member) (apart message inserted)
  unfold available
  exact congrArg (fun rows => (rows.map tx.view ++ tx.inserts).filter Message.isPending) same

end Available

/-! ## One fetch -/

/-- A fetch returns the beginning of what is available, and locks what it returns.  The rows and all
that open transactions have staged stay as they are.  The transaction can fetch the same again. -/
theorem fetch_takes_first_available (store : Store) (tx : Transaction) (limit : Nat)
    (owned : store.owns tx = true)
    (apart : ∀ own ∈ tx.inserts, own.id ∉ store.rows.map Message.id) :
    ∃ batch after, store.fetch tx limit = .ok (batch, after) ∧
      batch = (store.available tx).take limit ∧
      (∀ row, after.owner? row =
        if row ∈ batch.map Message.id then some tx.number else store.owner? row) ∧
      after = { store with locks := after.locks } ∧
      (∀ handles number, handles number = some tx →
        Sessions.step ⟨store, handles⟩ (.fetch number limit) =
          (⟨after, handles⟩, .fetched batch)) ∧
      ∃ later, after.fetch tx limit = .ok (batch, later) ∧
        ∀ row, later.owner? row = after.owner? row := by
  have fetched := fetch_eq owned limit
  have returned (row : Uuid) (member : row ∈ (store.batch tx limit).map Message.id) :
      row ∈ (store.available tx).map Message.id := by
    rw [batch_eq_take] at member
    exact ((List.take_sublist _ _).map Message.id).subset member
  have repeated : (store.claimAll tx ((store.batch tx limit).map Message.id)).batch tx limit =
      store.batch tx limit := by
    rw [batch_eq_take, available_claimAll returned apart, ← batch_eq_take]
  have still_owned :
      (store.claimAll tx ((store.batch tx limit).map Message.id)).owns tx = true := owned
  have refetched := fetch_eq still_owned limit
  rw [repeated] at refetched
  refine ⟨_, _, fetched, batch_eq_take store tx limit, owner?_claimAll _ _ _, rfl, ?_, _, refetched,
    ?_⟩
  · intro handles number opened
    simp only [Sessions.step, Sessions.on, opened, fetched]
  · intro row
    rw [owner?_claimAll, owner?_claimAll]
    split <;> rfl

/-- A store with a row that has ended, a row of another transaction, a row of the transaction itself
with an update, and a pending row behind them. -/
def sharedStore : Store where
  id := 0
  rows := [{ Message.fruitNumbered 1 with status := .failed }, .fruitNumbered 2, .fruitNumbered 3,
    .fruitNumbered 4]
  locks := [⟨(Message.fruitNumbered 2).id, 1⟩, ⟨(Message.fruitNumbered 3).id, 2⟩]
  begun := 2

/-- The second transaction of the store, with an update and two new rows. -/
def busyTransaction : Transaction where
  home := 0
  number := 2
  inserts := [.fruitNumbered 5, .fruitNumbered 6]
  updates := [{ Message.fruitNumbered 3 with retryCount := 1 }]

/-- The limit cuts between the two new rows. -/
theorem sharedStore_is_fetched :
    sharedStore.owns busyTransaction = true ∧
    (∀ own ∈ busyTransaction.inserts, own.id ∉ sharedStore.rows.map Message.id) ∧
    ∃ after, sharedStore.fetch busyTransaction 3 = .ok (
        [{ Message.fruitNumbered 3 with retryCount := 1 }, .fruitNumbered 4, .fruitNumbered 5],
        after) ∧
      after.owner? (Message.fruitNumbered 2).id = some 1 ∧
      after.owner? (Message.fruitNumbered 5).id = some 2 ∧
      after.owner? (Message.fruitNumbered 6).id = none := by
  have owned : sharedStore.owns busyTransaction = true := by rfl
  have apart : ∀ own ∈ busyTransaction.inserts, own.id ∉ sharedStore.rows.map Message.id := by
    decide
  obtain ⟨batch, after, fetched, returned, locked, _⟩ :=
    fetch_takes_first_available sharedStore busyTransaction 3 owned apart
  have batch_eq : batch = [{ Message.fruitNumbered 3 with retryCount := 1 }, .fruitNumbered 4,
      .fruitNumbered 5] := returned
  subst batch_eq
  exact ⟨owned, apart, after, fetched, locked _, locked _, locked _⟩

/-! ## Fetches in turn -/

/-- The pending rows. -/
def pendingRows (store : Store) : List Message :=
  store.rows.filter Message.isPending

/-- The pending rows that nobody has locked. -/
def unclaimedRows (store : Store) : List Message :=
  store.rows.filter fun row => row.isPending && (store.owner? row.id).isNone

theorem unclaimedRows_of_unlocked {store : Store} (unlocked : store.locks = []) :
    store.unclaimedRows = store.pendingRows := by
  apply List.filter_congr
  intro row _
  simp [owner?, unlocked]

section Turns
variable {store : Store}

/-- The rows that are left when the first ones are taken. -/
theorem filter_untaken {rows : List Message} (distinct : (rows.map Message.id).Nodup)
    (wanted : Message → Bool) (count : Nat) :
    (rows.filter fun row =>
      wanted row && decide (row.id ∉ ((rows.filter wanted).take count).map Message.id)) =
      (rows.filter wanted).drop count := by
  have apart : ((rows.filter wanted).map Message.id).Nodup :=
    distinct.sublist (List.filter_sublist.map _)
  have split : (rows.filter fun row =>
      wanted row && decide (row.id ∉ ((rows.filter wanted).take count).map Message.id)) =
      (rows.filter wanted).filter fun row =>
        decide (row.id ∉ ((rows.filter wanted).take count).map Message.id) := by
    rw [List.filter_filter]
    apply List.filter_congr
    intro row _
    exact Bool.and_comm _ _
  rw [split]
  generalize rows.filter wanted = chosen at apart
  have taken : (chosen.take count).filter
      (fun row => decide (row.id ∉ (chosen.take count).map Message.id)) = [] := by
    rw [List.filter_eq_nil_iff]
    intro row member absent
    exact of_decide_eq_true absent (List.mem_map_of_mem member)
  have left : (chosen.drop count).filter
      (fun row => decide (row.id ∉ (chosen.take count).map Message.id)) = chosen.drop count := by
    rw [List.filter_eq_self]
    intro row member
    rw [← List.take_append_drop count chosen, List.map_append, List.nodup_append'] at apart
    have absent : row.id ∉ (chosen.take count).map Message.id := by
      intro there
      exact apart.2.2 there (List.mem_map_of_mem member)
    exact decide_eq_true absent
  calc chosen.filter (fun row => decide (row.id ∉ (chosen.take count).map Message.id))
      = (chosen.take count ++ chosen.drop count).filter
          (fun row => decide (row.id ∉ (chosen.take count).map Message.id)) := by
        rw [List.take_append_drop]
    _ = chosen.drop count := by rw [List.filter_append, taken, left, List.nil_append]

/-- What a transaction fetches that has just begun and that has no lock. -/
theorem batch_of_fresh {tx : Transaction} (fresh : tx.Fresh store)
    (lockless : ∀ row, store.owner? row ≠ some tx.number) (limit : Nat) :
    store.batch tx limit = store.unclaimedRows.take limit := by
  rw [batch_of_unchanged fresh.no_inserts fresh.no_updates, unclaimedRows]
  congr 1
  apply List.filter_congr
  intro row _
  unfold isHeldByOther
  cases held : store.owner? row.id with
  | none => simp
  | some owner =>
      have other : owner ≠ tx.number := by
        rintro rfl
        exact lockless row.id held
      simp [other]

/-- A fetch leaves the unclaimed rows behind its batch unclaimed. -/
theorem unclaimedRows_claimAll (distinct : (store.rows.map Message.id).Nodup) (tx : Transaction)
    (limit : Nat) :
    (store.claimAll tx ((store.unclaimedRows.take limit).map Message.id)).unclaimedRows =
      store.unclaimedRows.drop limit := by
  rw [unclaimedRows, unclaimedRows, ← filter_untaken distinct]
  apply List.filter_congr
  intro row _
  rw [owner?_claimAll]
  change (row.isPending && (if row.id ∈ (store.unclaimedRows.take limit).map Message.id then
    some tx.number else store.owner? row.id).isNone) =
    (row.isPending && (store.owner? row.id).isNone &&
      decide (row.id ∉ (store.unclaimedRows.take limit).map Message.id))
  generalize (store.unclaimedRows.take limit).map Message.id = batch
  by_cases claimed : row.id ∈ batch
  · simp [claimed]
  · simp [claimed]

/-- The transactions fetch in turn, each of them once and up to its limit. -/
def fetchInTurn (store : Store) :
    List (Transaction × Nat) → Except Error (List (List Message) × Store)
  | [] => .ok ([], store)
  | (tx, limit) :: rest =>
    match store.fetch tx limit with
    | .error error => .error error
    | .ok (batch, store) =>
      match fetchInTurn store rest with
      | .error error => .error error
      | .ok (batches, store) => .ok (batch :: batches, store)

/-- Each takes what is left of the unclaimed rows, from the front. -/
theorem fetchInTurn_eq {claims : List (Transaction × Nat)}
    (distinct : (store.rows.map Message.id).Nodup)
    (fresh : ∀ claim ∈ claims, claim.1.Fresh store)
    (apart : (claims.map fun claim => claim.1.number).Nodup)
    (lockless : ∀ claim ∈ claims, ∀ row, store.owner? row ≠ some claim.1.number) :
    ∃ after, store.fetchInTurn claims =
      .ok ((claims.map Prod.snd).splitLengths store.unclaimedRows, after) := by
  induction claims generalizing store with
  | nil => exact ⟨store, rfl⟩
  | cons claim rest ih =>
      rcases claim with ⟨tx, limit⟩
      have newcomer : tx.Fresh store := fresh (tx, limit) List.mem_cons_self
      have owned : store.owns tx = true := beq_iff_eq.mpr newcomer.home
      have batch := batch_of_fresh newcomer (lockless (tx, limit) List.mem_cons_self) limit
      have fetched := fetch_eq owned limit
      rw [batch] at fetched
      rw [List.map_cons, List.nodup_cons] at apart
      -- The locks of this transaction are no locks of the transactions after it.
      obtain ⟨after, later⟩ := @ih
        (store.claimAll tx ((store.unclaimedRows.take limit).map Message.id)) distinct
        (fun claim member =>
          let others := fresh claim (List.mem_cons_of_mem _ member)
          ⟨others.home, others.no_inserts, others.no_updates⟩)
        apart.2
        (by
          intro claim member row held
          rw [owner?_claimAll] at held
          split at held
          · exact apart.1 (Option.some.inj held ▸ List.mem_map_of_mem member)
          · exact lockless claim (List.mem_cons_of_mem _ member) row held)
      rw [unclaimedRows_claimAll distinct] at later
      refine ⟨after, ?_⟩
      simp only [fetchInTurn, fetched, later, List.map_cons, List.splitLengths_cons]

end Turns

theorem flatten_splitLengths_eq_take {α : Type} (sizes : List Nat) (items : List α) :
    (sizes.splitLengths items).flatten = items.take sizes.sum := by
  induction sizes generalizing items with
  | nil => simp
  | cons size rest ih =>
      rw [List.splitLengths_cons, List.flatten_cons, ih, List.sum_cons, List.take_add]

/-- Transactions that have just begun in an unlocked store, and fetch in turn, take the pending rows
one part after the other: no row twice, and all of them if their limits are enough. -/
theorem claims_partition_backlog (store : Store) (distinct : (store.rows.map Message.id).Nodup)
    (unlocked : store.locks = []) (claims : List (Transaction × Nat))
    (fresh : ∀ claim ∈ claims, claim.1.Fresh store)
    (apart : (claims.map fun claim => claim.1.number).Nodup) :
    ∃ batches after, store.fetchInTurn claims = .ok (batches, after) ∧
      batches = (claims.map Prod.snd).splitLengths store.pendingRows ∧
      batches.flatten =
        store.pendingRows.take (min store.pendingRows.length (claims.map Prod.snd).sum) ∧
      (batches.flatten.map Message.id).Nodup ∧
      (store.pendingRows.length ≤ (claims.map Prod.snd).sum →
        batches.flatten = store.pendingRows) := by
  obtain ⟨after, fetched⟩ := fetchInTurn_eq distinct fresh apart
    (by simp [owner?, unlocked])
  rw [unclaimedRows_of_unlocked unlocked] at fetched
  have taken := flatten_splitLengths_eq_take (claims.map Prod.snd) store.pendingRows
  have part : (((claims.map Prod.snd).splitLengths store.pendingRows).flatten.map
      Message.id).Sublist (store.rows.map Message.id) := by
    rw [taken]
    exact ((List.take_sublist _ _).trans List.filter_sublist).map Message.id
  refine ⟨_, after, fetched, rfl, ?_, distinct.sublist part, List.flatten_splitLengths _ _⟩
  rw [taken, List.take_eq_take_iff]
  omega

/-- A store with rows that have ended among its pending ones, after three transactions began. -/
def gappyStore : Store where
  id := 0
  rows := [.fruitNumbered 1, { Message.fruitNumbered 2 with status := .failed }, .fruitNumbered 3,
    { Message.fruitNumbered 4 with status := .processed }, .fruitNumbered 5, .fruitNumbered 6]
  begun := 3

/-- The three transactions; the last one asks for more than is left. -/
def gappyClaims : List (Transaction × Nat) :=
  [(⟨0, 1, [], []⟩, 2), (⟨0, 2, [], []⟩, 1), (⟨0, 3, [], []⟩, 5)]

/-- The first transaction reaches past a row that has ended. -/
theorem gappyStore_is_shared_out :
    (gappyStore.rows.map Message.id).Nodup ∧ gappyStore.locks = [] ∧
    (∀ claim ∈ gappyClaims, claim.1.Fresh gappyStore) ∧
    (gappyClaims.map fun claim => claim.1.number).Nodup ∧
    ∃ batches after, gappyStore.fetchInTurn gappyClaims = .ok (batches, after) ∧
      batches.map (List.map fun row => row.id.value) = [[1, 3], [5], [6]] ∧
      batches.flatten = gappyStore.pendingRows := by
  have distinct : (gappyStore.rows.map Message.id).Nodup := by decide
  have fresh : ∀ claim ∈ gappyClaims, claim.1.Fresh gappyStore := by
    simp only [gappyClaims, List.forall_mem_cons, List.not_mem_nil, false_implies, implies_true,
      and_true]
    exact ⟨⟨rfl, rfl, rfl⟩, ⟨rfl, rfl, rfl⟩, ⟨rfl, rfl, rfl⟩⟩
  have apart : (gappyClaims.map fun claim => claim.1.number).Nodup := by decide
  obtain ⟨batches, after, fetched, shared, _, _, all⟩ :=
    claims_partition_backlog gappyStore distinct rfl gappyClaims fresh apart
  refine ⟨distinct, rfl, fresh, apart, batches, after, fetched, ?_, all (by decide)⟩
  rw [shared]
  decide

end Store

end Outbox
