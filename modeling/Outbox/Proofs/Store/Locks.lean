import Mathlib.Data.List.Nodup
import Outbox.Store.Basic

/-!
# Row locks

Who holds a row after a claim and after a release.  A claim takes over the rows it names and leaves
every other lock alone; a release takes back the locks of one transaction only.  A fetch claims no
row that another transaction holds, so what others hold stays as it is.
-/

set_option autoImplicit false

namespace Outbox.Store

def OneLockEach (store : Store) : Prop :=
  (store.locks.map Lock.row).Nodup

/-! ## Owners -/

theorem owner?_eq_some_iff (store : Store) (row : Uuid) (owner : Nat) :
    store.owner? row = some owner ↔
      ∃ lock, (store.locks.find? fun lock => lock.row = row) = some lock ∧ lock.owner = owner := by
  unfold owner?
  exact Option.map_eq_some_iff

theorem lock_of_owner? {store : Store} {row : Uuid} {owner : Nat}
    (held : store.owner? row = some owner) :
    ∃ lock ∈ store.locks, lock.row = row ∧ lock.owner = owner := by
  obtain ⟨lock, found, same⟩ := (owner?_eq_some_iff store row owner).mp held
  exact ⟨lock, List.mem_of_find?_eq_some found, by simpa using List.find?_some found, same⟩

theorem owner?_of_mem {store : Store} (single : store.OneLockEach) {lock : Lock}
    (member : lock ∈ store.locks) : store.owner? lock.row = some lock.owner := by
  unfold OneLockEach at single
  unfold owner?
  generalize store.locks = locks at single member
  induction locks with
  | nil => simp at member
  | cons first rest ih =>
      simp only [List.map_cons, List.nodup_cons] at single
      rcases List.mem_cons.mp member with same | later
      · subst same
        simp
      · have different : first.row ≠ lock.row := by
          intro same
          exact single.1 (same ▸ List.mem_map_of_mem later)
        rw [List.find?_cons_of_neg (by simpa using different)]
        exact ih single.2 later

theorem isHeldByOther_eq_false_iff (store : Store) (tx : Transaction) (row : Uuid) :
    store.isHeldByOther tx row = false ↔
      ∀ owner, store.owner? row = some owner → owner = tx.number := by
  unfold isHeldByOther
  cases store.owner? row with
  | none => simp
  | some owner => simp

/-! ## Claims -/

def claimAll (store : Store) (tx : Transaction) (rows : List Uuid) : Store :=
  { store with locks := rows.foldl (claim tx) store.locks }

theorem claimAll_cons (store : Store) (tx : Transaction) (row : Uuid) (rest : List Uuid) :
    store.claimAll tx (row :: rest) =
      { store with locks := claim tx store.locks row }.claimAll tx rest :=
  rfl

theorem owner?_claim (store : Store) (tx : Transaction) (claimed row : Uuid) :
    { store with locks := claim tx store.locks claimed }.owner? row =
      if claimed = row then some tx.number else store.owner? row := by
  by_cases same : claimed = row
  · simp [owner?, claim, same]
  · simp only [owner?, claim, same, if_false]
    rw [List.find?_cons_of_neg (by simpa using same), List.find?_filter]
    congr 2
    funext lock
    by_cases wanted : lock.row = row
    · simp [wanted, Ne.symm same]
    · simp [wanted]

theorem owner?_claimAll (store : Store) (tx : Transaction) (rows : List Uuid) (row : Uuid) :
    (store.claimAll tx rows).owner? row =
      if row ∈ rows then some tx.number else store.owner? row := by
  induction rows generalizing store with
  | nil => simp [claimAll]
  | cons first rest ih =>
      rw [claimAll_cons, ih, owner?_claim]
      by_cases later : row ∈ rest
      · simp [later]
      · by_cases same : first = row
        · simp [same]
        · simp [later, same, Ne.symm same]

theorem oneLockEach_claim {store : Store} (single : store.OneLockEach) (tx : Transaction)
    (row : Uuid) : { store with locks := claim tx store.locks row }.OneLockEach := by
  unfold OneLockEach claim at *
  simp only [List.map_cons, List.nodup_cons]
  refine ⟨?_, single.sublist (List.filter_sublist.map _)⟩
  simp

theorem oneLockEach_claimAll {store : Store} (single : store.OneLockEach) (tx : Transaction)
    (rows : List Uuid) : (store.claimAll tx rows).OneLockEach := by
  induction rows generalizing store with
  | nil => exact single
  | cons first rest ih =>
      rw [claimAll_cons]
      exact ih (oneLockEach_claim single tx first)

theorem mem_locks_claimAll {store : Store} {tx : Transaction} {rows : List Uuid} {lock : Lock}
    (member : lock ∈ (store.claimAll tx rows).locks) :
    lock.owner = tx.number ∨ lock ∈ store.locks := by
  induction rows generalizing store with
  | nil => exact Or.inr member
  | cons first rest ih =>
      rw [claimAll_cons] at member
      rcases ih member with own | earlier
      · exact Or.inl own
      · rcases List.mem_cons.mp earlier with same | kept
        · exact Or.inl (by rw [same])
        · exact Or.inr (List.mem_of_mem_filter kept)

def locksOf (store : Store) (number : Nat) : List Lock :=
  store.locks.filter fun lock => lock.owner = number

theorem owner?_eq_some_iff_mem_locksOf {store : Store} (single : store.OneLockEach) (row : Uuid)
    (owner : Nat) : store.owner? row = some owner ↔ ⟨row, owner⟩ ∈ store.locksOf owner := by
  constructor
  · intro held
    obtain ⟨lock, member, rfl, rfl⟩ := lock_of_owner? held
    simpa [locksOf] using member
  · intro member
    exact owner?_of_mem single (List.mem_of_mem_filter member)

/-- A claim of rows that no other transaction holds leaves the locks of all others alone. -/
theorem locksOf_claimAll {store : Store} (single : store.OneLockEach) {tx : Transaction}
    {rows : List Uuid} (free : ∀ row ∈ rows, store.isHeldByOther tx row = false) {number : Nat}
    (different : number ≠ tx.number) :
    (store.claimAll tx rows).locksOf number = store.locksOf number := by
  induction rows generalizing store with
  | nil => rfl
  | cons first rest ih =>
      rw [claimAll_cons, ih (oneLockEach_claim single tx first)]
      · simp only [locksOf, claim]
        rw [List.filter_cons_of_neg (by simpa using Ne.symm different), List.filter_filter]
        apply List.filter_congr
        intro lock member
        by_cases same : lock.row = first
        · have own := (isHeldByOther_eq_false_iff store tx first).mp
            (free first (List.mem_cons_self ..)) lock.owner (same ▸ owner?_of_mem single member)
          simp [own, Ne.symm different]
        · simp [same]
      · intro row member
        rw [isHeldByOther_eq_false_iff, owner?_claim]
        intro owner held
        by_cases same : first = row
        · rw [if_pos same] at held
          exact (Option.some.inj held).symm
        · rw [if_neg same] at held
          exact (isHeldByOther_eq_false_iff store tx row).mp
            (free row (List.mem_cons_of_mem _ member)) owner held

/-! ## Releases -/

@[simp] theorem rows_release (store : Store) (number : Nat) :
    (store.release number).rows = store.rows := rfl

theorem mem_locks_release {store : Store} {number : Nat} {lock : Lock} :
    lock ∈ (store.release number).locks ↔ lock ∈ store.locks ∧ lock.owner ≠ number := by
  simp [release]

theorem oneLockEach_release {store : Store} (single : store.OneLockEach) (number : Nat) :
    (store.release number).OneLockEach :=
  List.Nodup.sublist (List.filter_sublist.map _) single

theorem locksOf_release {store : Store} {number other : Nat} (different : other ≠ number) :
    (store.release number).locksOf other = store.locksOf other := by
  simp only [locksOf, release, List.filter_filter]
  apply List.filter_congr
  intro lock member
  by_cases same : lock.owner = other
  · simp [same, different]
  · simp [same]

theorem owner?_release_of_ne {store : Store} {row : Uuid} {owner number : Nat}
    (held : store.owner? row = some owner) (different : owner ≠ number) :
    (store.release number).owner? row = some owner := by
  unfold owner? at held ⊢
  simp only [release]
  generalize store.locks = locks at held
  induction locks with
  | nil => simp at held
  | cons first rest ih =>
      by_cases here : first.row = row
      · have own : first.owner = owner := by simpa [here] using held
        have kept : first.owner ≠ number := own ▸ different
        rw [List.filter_cons_of_pos (by simpa using kept),
          List.find?_cons_of_pos (by simpa using here)]
        simp [own]
      · rw [List.find?_cons_of_neg (by simpa using here)] at held
        by_cases gone : first.owner = number
        · simpa [gone] using ih held
        · simpa [gone, here] using ih held

theorem owner?_release_self {store : Store} (single : store.OneLockEach) {row : Uuid}
    {number : Nat} (held : store.owner? row = some number) :
    (store.release number).owner? row = none := by
  cases after : (store.release number).owner? row with
  | none => rfl
  | some other =>
      exfalso
      obtain ⟨lock, member, same_row, own⟩ := lock_of_owner? after
      obtain ⟨earlier, kept⟩ := mem_locks_release.mp member
      have before := owner?_of_mem single earlier
      rw [same_row, held, Option.some.injEq] at before
      exact kept before.symm

theorem owner?_release {store : Store} (single : store.OneLockEach) (row : Uuid)
    (owner number : Nat) :
    (store.release number).owner? row = some owner ↔
      store.owner? row = some owner ∧ owner ≠ number := by
  constructor
  · intro held
    obtain ⟨lock, member, rfl, rfl⟩ := lock_of_owner? held
    obtain ⟨there, other⟩ := mem_locks_release.mp member
    exact ⟨owner?_of_mem single there, other⟩
  · rintro ⟨held, different⟩
    exact owner?_release_of_ne held different

/-! ## The operations of the store on its own transactions -/

def batch (store : Store) (tx : Transaction) (limit : Nat) : List Message :=
  (store.rows.filterMap (store.claimable? tx) ++ tx.inserts.filter Message.isPending).take limit

theorem gather_eq (limit : Nat) (claimable? : Message → Option Message)
    (claimed rows : List Message) :
    gather limit claimable? claimed rows =
      claimed ++ (rows.filterMap claimable?).take (limit - claimed.length) := by
  induction rows generalizing claimed with
  | nil => simp [gather]
  | cons row rest ih =>
      rw [gather]
      split
      · rename_i full
        rw [Nat.sub_eq_zero_of_le full, List.take_zero, List.append_nil]
      · rename_i room
        cases seen : claimable? row with
        | none => rw [List.filterMap_cons_none seen, ih]
        | some visible =>
            have left : limit - claimed.length = limit - (claimed.length + 1) + 1 := by omega
            have later := ih (claimed ++ [visible])
            rw [List.length_append, List.length_singleton, List.append_assoc] at later
            rw [List.filterMap_cons_some seen, left, List.take_succ_cons]
            exact later

/-- The two scans of a fetch share its limit. -/
theorem gather_gather (store : Store) (tx : Transaction) (limit : Nat) :
    gather limit some (gather limit (store.claimable? tx) [] store.rows)
      (tx.inserts.filter Message.isPending) = store.batch tx limit := by
  rw [gather_eq, gather_eq, batch, List.take_append, List.nil_append, List.length_nil, Nat.sub_zero,
    List.filterMap_some, List.length_take]
  congr 2
  omega

theorem fetch_eq {store : Store} {tx : Transaction} (owned : store.owns tx = true)
    (limit : Nat) : store.fetch tx limit =
      .ok (store.batch tx limit,
        store.claimAll tx ((store.batch tx limit).map Message.id)) := by
  simp only [fetch, owned, if_true, gather_gather]
  rfl

theorem of_fetch {store after : Store} {tx : Transaction} {limit : Nat} {batch : List Message}
    (fetched : store.fetch tx limit = .ok (batch, after)) :
    batch = store.batch tx limit ∧ after = store.claimAll tx (batch.map Message.id) := by
  cases owned : store.owns tx with
  | true =>
      rw [fetch_eq owned] at fetched
      obtain ⟨rfl, rfl⟩ := Prod.mk.inj (Except.ok.inj fetched)
      exact ⟨rfl, rfl⟩
  | false => simp [fetch, owned] at fetched

/-- A fetch returns pending rows: committed ones that no other transaction holds, as the transaction
sees them, and new rows of the transaction itself. -/
theorem mem_batch {store : Store} {tx : Transaction} {limit : Nat} {message : Message}
    (member : message ∈ store.batch tx limit) :
    message.isPending = true ∧
      ((∃ row ∈ store.rows, store.isHeldByOther tx row.id = false ∧
          message = (tx.update? row.id).getD row) ∨
        message ∈ tx.inserts) := by
  rcases List.mem_append.mp (List.mem_of_mem_take member) with committed | own
  · obtain ⟨row, row_member, seen⟩ := List.mem_filterMap.mp committed
    unfold claimable? at seen
    by_cases held : store.isHeldByOther tx row.id = true
    · simp [held] at seen
    · have free : store.isHeldByOther tx row.id = false := by simpa using held
      by_cases pending : ((tx.update? row.id).getD row).isPending = true
      · simp only [free, pending, Bool.false_eq_true, if_false, if_true,
          Option.some.injEq] at seen
        exact ⟨seen ▸ pending, Or.inl ⟨row, row_member, free, seen.symm⟩⟩
      · simp [free, pending] at seen
  · obtain ⟨inserted, pending⟩ := List.mem_filter.mp own
    exact ⟨pending, Or.inr inserted⟩

/-- A transaction without changes fetches the first pending rows that no other one holds. -/
theorem batch_of_unchanged {store : Store} {tx : Transaction} (no_inserts : tx.inserts = [])
    (no_updates : tx.updates = []) (limit : Nat) :
    store.batch tx limit =
      (store.rows.filter fun row =>
        !store.isHeldByOther tx row.id && row.isPending).take limit := by
  have visible : store.claimable? tx = Option.guard fun row =>
      !store.isHeldByOther tx row.id && row.isPending := by
    funext row
    by_cases held : store.isHeldByOther tx row.id = true
    · simp [claimable?, held, Option.guard]
    · by_cases pending : row.isPending = true
      · simp [claimable?, held, pending, Option.guard, Transaction.update?, no_updates]
      · simp [claimable?, held, pending, Option.guard, Transaction.update?, no_updates]
  unfold batch
  rw [visible, List.filterMap_eq_filter, no_inserts]
  simp

/-- A transaction without changes fetches every pending row that nobody holds, if its limit is
sufficient. -/
theorem mem_batch_of_free {store : Store} {tx : Transaction} (no_inserts : tx.inserts = [])
    (no_updates : tx.updates = []) {row : Message} (member : row ∈ store.rows)
    (pending : row.isPending = true) (unowned : store.owner? row.id = none) {limit : Nat}
    (enough : store.rows.countP Message.isPending ≤ limit) : row ∈ store.batch tx limit := by
  rw [batch_of_unchanged no_inserts no_updates, List.take_of_length_le]
  · rw [List.mem_filter]
    refine ⟨member, ?_⟩
    simp [isHeldByOther, unowned, pending]
  · rw [← List.countP_eq_length_filter]
    refine Nat.le_trans (List.countP_mono_left ?_) enough
    intro other _ chosen
    simp only [Bool.and_eq_true] at chosen
    exact chosen.2

def installed (store : Store) (tx : Transaction) : Store :=
  { store with
    rows := tx.updates.foldl (fun rows update => Transaction.replace update rows)
      (store.rows ++ tx.inserts) }.release tx.number

theorem oneLockEach_installed {store : Store} (single : store.OneLockEach) (tx : Transaction) :
    (store.installed tx).OneLockEach := by
  unfold installed
  apply oneLockEach_release
  exact single

theorem locks_installed (store : Store) (tx : Transaction) :
    (store.installed tx).locks = (store.release tx.number).locks :=
  rfl

theorem owner?_installed (store : Store) (tx : Transaction) (row : Uuid) :
    (store.installed tx).owner? row = (store.release tx.number).owner? row :=
  rfl

theorem commit_eq {store : Store} {tx : Transaction} (owned : store.owns tx = true) :
    store.commit tx = .ok (store.installed tx) := by
  simp [commit, installed, owned]

theorem rollback_eq {store : Store} {tx : Transaction} (owned : store.owns tx = true) :
    store.rollback tx = .ok (store.release tx.number) := by
  simp [rollback, owned]

theorem drop_eq {store : Store} {tx : Transaction} (owned : store.owns tx = true) :
    store.drop tx = store.release tx.number := by
  simp [drop, owned]

end Outbox.Store
