import Outbox.Proofs.Store.Issued

/-!
# Exclusive claims

A row that a fetch has returned stays with its transaction until the transaction ends, and is free
as soon as it has ended.  What makes this work is where locks can be: every lock belongs to an open
transaction and is on a committed row or on a new row of the transaction itself, which no other
transaction can see.
-/

set_option autoImplicit false

namespace Outbox

namespace Request

/-- The transaction that a request ends. -/
def closed? : Request → Option Nat
  | .commit number => some number
  | request => request.ended?

end Request

namespace Sessions

/-! ## Where locks are -/

/-- Every lock belongs to an open transaction, and is on a committed row or on one of its own. -/
def LocksPlaced (sessions : Sessions) : Prop :=
  ∀ id number, sessions.store.owner? id = some number →
    ∃ tx, sessions.handles number = some tx ∧
      (id ∈ sessions.store.rows.map Message.id ∨ id ∈ tx.inserts.map Message.id)

theorem locksPlaced_empty (home : StoreId) : (empty home).LocksPlaced := by
  intro id number held
  cases held

theorem LocksPlaced.put {sessions : Sessions} (placed : sessions.LocksPlaced) {number : Nat}
    {tx : Transaction}
    (grown : ∀ old, sessions.handles number = some old →
      old.inserts.map Message.id ⊆ tx.inserts.map Message.id) :
    (sessions.put number tx).LocksPlaced := by
  intro id owner held
  obtain ⟨old, opened, there⟩ := placed id owner held
  by_cases same : owner = number
  · subst same
    refine ⟨tx, by simp [Sessions.put], ?_⟩
    rcases there with committed | own
    · exact Or.inl committed
    · exact Or.inr (grown old opened own)
  · exact ⟨old, by simpa [Sessions.put, Function.update_of_ne same] using opened, there⟩

theorem LocksPlaced.leave {sessions : Sessions} (placed : sessions.LocksPlaced) {number : Nat}
    {store : Store} (older : sessions.store.Older store)
    (released : ∀ id owner, store.owner? id = some owner →
      sessions.store.owner? id = some owner ∧ owner ≠ number) :
    (sessions.leave number store).LocksPlaced := by
  intro id owner held
  obtain ⟨held_before, different⟩ := released id owner held
  obtain ⟨tx, opened, there⟩ := placed id owner held_before
  refine ⟨tx, by simpa [Sessions.leave, Function.update_of_ne different] using opened, ?_⟩
  rcases there with committed | own
  · exact Or.inl (older.rows.subset committed)
  · exact Or.inr own

theorem Change.locksPlaced {sessions after : Sessions} {request : Request}
    (change : Change sessions request after) (sound : sessions.Sound)
    (single : sessions.store.OneLockEach) (placed : sessions.LocksPlaced) :
    after.LocksPlaced := by
  have released (number : Nat) (tx : Transaction) (opened : sessions.handles number = some tx)
      (id : Uuid) (owner : Nat)
      (held : (sessions.store.release tx.number).owner? id = some owner) :
      sessions.store.owner? id = some owner ∧ owner ≠ number := by
    rw [← (sound number tx opened).1]
    exact (Store.owner?_release single id owner tx.number).mp held
  cases change with
  | nothing => exact placed
  | began =>
      have unchanged : LocksPlaced { sessions with
          store := { sessions.store with begun := sessions.store.begun + 1 } } := placed
      apply unchanged.put
      intro old opened
      obtain ⟨own, lawful⟩ := sound _ old opened
      have bounded := lawful.number_le
      omega
  | @created _ number tx message asked opened =>
      apply placed.put
      intro old old_opened
      rw [opened, Option.some.injEq] at old_opened
      subst old_opened
      simp
  | @claimed number limit tx opened =>
      intro id owner held
      rw [Store.owner?_claimAll] at held
      split at held
      · rename_i claimed
        rw [(sound number tx opened).1, Option.some.injEq] at held
        subst held
        refine ⟨tx, opened, ?_⟩
        rcases committed_or_own_of_batch claimed with ⟨committed, _⟩ | own
        · exact Or.inl committed
        · exact Or.inr own
      · exact placed id owner held
  | @saved _ number save messages tx asked opened =>
      apply placed.put
      intro old old_opened
      rw [opened, Option.some.injEq] at old_opened
      subst old_opened
      simp
  | @committed number tx opened =>
      exact placed.leave (Store.older_installed _ _) (released number tx opened)
  | @ended _ number tx asked opened =>
      exact placed.leave (Store.older_release _ _) (released number tx opened)

theorem single_run (home : StoreId) (requests : List Request) :
    (run home requests).store.OneLockEach := by
  induction requests using List.reverseRecOn with
  | nil => exact List.nodup_nil
  | append_singleton past request ih => exact (run_change home past request).single ih

theorem locksPlaced_run (home : StoreId) (requests : List Request) :
    (run home requests).LocksPlaced := by
  induction requests using List.reverseRecOn with
  | nil => exact locksPlaced_empty home
  | append_singleton past request ih =>
      exact (run_change home past request).locksPlaced (sound_run home past)
        (single_run home past) ih

/-! ## Claimed rows stay claimed -/

theorem step_fetch {sessions : Sessions} (sound : sessions.Sound) {number : Nat}
    {tx : Transaction} (opened : sessions.handles number = some tx) (limit : Nat) :
    sessions.step (.fetch number limit) =
      ({ sessions with
          store := sessions.store.claimAll tx ((sessions.store.batch tx limit).map Message.id) },
        .fetched (sessions.store.batch tx limit)) := by
  simp only [step, on_of_open opened, Store.fetch_eq (sound _ _ opened).2.owned]

theorem open_of_fetched {sessions : Sessions} {number limit : Nat} {messages : List Message}
    (fetched : (sessions.step (.fetch number limit)).2 = .fetched messages) :
    ∃ tx, sessions.handles number = some tx := by
  cases opened : sessions.handles number with
  | none =>
      simp only [step, on_of_closed opened] at fetched
      cases fetched
  | some tx => exact ⟨tx, rfl⟩

/-- A fetch of a transaction returned a row of this id. -/
def Returned (home : StoreId) (past : List Request) (number : Nat) (id : Uuid) : Prop :=
  ∃ before limit after messages, past = before ++ .fetch number limit :: after ∧
    ((run home before).step (.fetch number limit)).2 = .fetched messages ∧
    id ∈ messages.map Message.id

theorem Returned.cases_last {home : StoreId} {past : List Request} {request : Request}
    {number : Nat} {id : Uuid} (returned : Returned home (past ++ [request]) number id) :
    Returned home past number id ∨
    ∃ limit messages, request = .fetch number limit ∧
      ((run home past).step (.fetch number limit)).2 = .fetched messages ∧
      id ∈ messages.map Message.id := by
  obtain ⟨before, limit, after, messages, split, fetched, member⟩ := returned
  rcases List.eq_nil_or_concat after with rfl | ⟨rest, last, rfl⟩
  · obtain ⟨rfl, same⟩ := List.append_inj' split rfl
    cases same
    exact Or.inr ⟨limit, messages, rfl, fetched, member⟩
  · rw [List.concat_eq_append, ← List.cons_append, ← List.append_assoc] at split
    obtain ⟨rfl, _⟩ := List.append_inj' split rfl
    exact Or.inl ⟨before, limit, rest, messages, rfl, fetched, member⟩

theorem Returned.number_le {home : StoreId} {past : List Request} {number : Nat} {id : Uuid}
    (returned : Returned home past number id) : number ≤ (run home past).store.begun := by
  obtain ⟨before, limit, after, messages, rfl, fetched, _⟩ := returned
  obtain ⟨tx, opened⟩ := open_of_fetched fetched
  obtain ⟨own, lawful⟩ := sound_run home before number tx opened
  have older := older_run home before (.fetch number limit :: after)
  have bounded := lawful.number_le
  rw [own] at bounded
  exact Nat.le_trans bounded older.begun

/-- What an open transaction holds stays with it as long as it is open. -/
theorem Change.owner_kept_open {sessions after : Sessions} {request : Request}
    (change : Change sessions request after) (sound : sessions.Sound)
    (single : sessions.store.OneLockEach) (placed : sessions.LocksPlaced) {issued : List Uuid}
    (known : Issued issued sessions) {id : Uuid} {number : Nat}
    (held : sessions.store.owner? id = some number)
    (opened : (after.handles number).isSome = true) : after.store.owner? id = some number := by
  cases change with
  | @claimed other limit tx other_opened =>
      rw [Store.owner?_claimAll]
      split
      · rename_i claimed
        rw [(sound other tx other_opened).1]
        rcases committed_or_own_of_batch claimed with ⟨_, free⟩ | own
        · have same := (Store.isHeldByOther_eq_false_iff _ _ _).mp free number held
          rw [same, (sound other tx other_opened).1]
        · -- Nobody but its own transaction can hold a row that is not committed.
          obtain ⟨holder, holder_opened, there⟩ := placed id number held
          rcases there with committed | inserted
          · exact absurd committed (known.new other tx other_opened id own).2
          · by_contra different
            exact known.apart other number tx holder other_opened holder_opened
              (fun same => different (congrArg some same)) id own inserted
      · exact held
  | @committed other tx other_opened =>
      obtain ⟨found, still_opened⟩ := Option.isSome_iff_exists.mp opened
      have different := (handles_leave still_opened).1
      rw [← (sound other tx other_opened).1] at different
      exact (Store.owner?_release single id number tx.number).mpr ⟨held, different⟩
  | @ended _ other tx asked other_opened =>
      obtain ⟨found, still_opened⟩ := Option.isSome_iff_exists.mp opened
      have different := (handles_leave still_opened).1
      rw [← (sound other tx other_opened).1] at different
      exact (Store.owner?_release single id number tx.number).mpr ⟨held, different⟩
  | _ => exact held

theorem held_of_returned (home : StoreId) (past : List Request)
    (fresh : (issuedIds past).Nodup) :
    ∀ number id, Returned home past number id →
      ((run home past).handles number).isSome = true →
      (run home past).store.owner? id = some number := by
  induction past using List.reverseRecOn with
  | nil =>
      rintro number id ⟨before, limit, after, messages, split, _⟩
      simp at split
  | append_singleton past request ih =>
      intro number id returned opened
      rw [issuedIds_concat] at fresh
      have fresh_before := (List.nodup_append'.mp fresh).1
      have sound := sound_run home past
      have change := run_change home past request
      rcases returned.cases_last with earlier | ⟨limit, messages, rfl, fetched, member⟩
      · have was_opened : ((run home past).handles number).isSome = true := by
          rcases change.number_origin opened with was_opened | next
          · exact was_opened
          · have bounded := earlier.number_le
            omega
        exact change.owner_kept_open sound (single_run home past) (locksPlaced_run home past)
          (issued_run home past fresh_before) (ih fresh_before number id earlier was_opened) opened
      · obtain ⟨tx, was_opened⟩ := open_of_fetched fetched
        rw [step_fetch sound was_opened, Reply.fetched.injEq] at fetched
        rw [run_concat, step_fetch sound was_opened, Store.owner?_claimAll, fetched,
          if_pos member, (sound number tx was_opened).1]

/-! ## The end of a transaction -/

theorem step_closed {sessions : Sessions} (sound : sessions.Sound) {request : Request}
    {number : Nat} {tx : Transaction} (closed : request.closed? = some number)
    (opened : sessions.handles number = some tx) :
    ∃ rows, (sessions.step request).1 =
      sessions.leave number { sessions.store.release number with rows } := by
  obtain ⟨own, lawful⟩ := sound number tx opened
  cases request with
  | commit other =>
      cases closed
      rw [step_commit sound opened]
      refine ⟨(sessions.store.installed tx).rows, ?_⟩
      simp only [Store.installed, own]
      rfl
  | rollback other =>
      cases closed
      refine ⟨sessions.store.rows, ?_⟩
      simp only [step, on_of_open opened, Store.rollback_eq lawful.owned, own]
      rfl
  | drop other =>
      cases closed
      refine ⟨sessions.store.rows, ?_⟩
      simp only [step, on_of_open opened, Store.drop_eq lawful.owned, own]
      rfl
  | _ => cases closed

/-- What a transaction fetches that has just begun. -/
theorem step_fetch_of_newcomer {sessions : Sessions} (sound : sessions.Sound) (limit : Nat) :
    ((sessions.step .begin).1.step (.fetch (sessions.store.begun + 1) limit)).2 =
      .fetched (sessions.store.batch
        { home := sessions.store.id, number := sessions.store.begun + 1 } limit) := by
  have opened : (sessions.step .begin).1.handles (sessions.store.begun + 1) =
      some { home := sessions.store.id, number := sessions.store.begun + 1 } := by
    simp [step, Store.begin, put]
  rw [step_fetch (sound_step sound .begin) opened]
  rfl

/-! ## Exclusive claims -/

/-- What holds of the claims of transactions at the end of a history. -/
structure ExclusiveClaims (home : StoreId) (past : List Request) : Prop where
  /-- Every lock belongs to an open transaction. -/
  owned : ∀ lock ∈ (run home past).store.locks,
    ((run home past).handles lock.owner).isSome = true
  unlocked : (∀ number, (run home past).handles number = none) → (run home past).store.locks = []
  /-- What was returned to a transaction that is still open is returned to no other one. -/
  unshared : ∀ number id, Returned home past number id →
    ((run home past).handles number).isSome = true →
    ∀ other limit messages, other ≠ number →
      ((run home past).step (.fetch other limit)).2 = .fetched messages →
      id ∉ messages.map Message.id
  /-- As soon as the transaction has ended, in whichever way, its claimed rows that are pending are
  returned to a transaction that begins, if its limit is sufficient. -/
  refetched : ∀ number id request, Returned home past number id →
    ((run home past).handles number).isSome = true → request.closed? = some number →
    ∀ row ∈ (run home (past ++ [request])).store.rows, row.id = id → row.isPending = true →
    ∀ limit, (run home (past ++ [request])).store.rows.countP Message.isPending ≤ limit →
    ∃ newcomer messages,
      ((run home (past ++ [request])).step .begin).2 = .begun newcomer ∧
      ((run home (past ++ [request, .begin])).step (.fetch newcomer limit)).2 =
        .fetched messages ∧
      row ∈ messages

/-- If no id is given to two new rows, the claims of open transactions are exclusive. -/
theorem claims_are_exclusive (home : StoreId) (past : List Request)
    (fresh : (issuedIds past).Nodup) : ExclusiveClaims home past where
  owned := by
    intro lock member
    have held := Store.owner?_of_mem (single_run home past) member
    obtain ⟨tx, opened, _⟩ := locksPlaced_run home past lock.row lock.owner held
    exact Option.isSome_of_eq_some opened
  unlocked := by
    intro closed
    rw [List.eq_nil_iff_forall_not_mem]
    intro lock member
    have held := Store.owner?_of_mem (single_run home past) member
    obtain ⟨tx, opened, _⟩ := locksPlaced_run home past lock.row lock.owner held
    rw [closed] at opened
    cases opened
  unshared := by
    intro number id returned opened other limit messages different fetched claimed
    have held := held_of_returned home past fresh number id returned opened
    -- If the other fetch returned the row as well, the row would be held by both of them.
    have again : Returned home (past ++ [.fetch other limit]) other id :=
      ⟨past, limit, [], messages, rfl, fetched, claimed⟩
    have first : Returned home (past ++ [.fetch other limit]) number id := by
      obtain ⟨before, earlier, after, others, split, rest⟩ := returned
      exact ⟨before, earlier, after ++ [.fetch other limit], others, by simp [split], rest⟩
    have fresh_after : (issuedIds (past ++ [.fetch other limit])).Nodup := by
      simpa [issuedIds_concat, Request.issued?, Request.created?] using fresh
    obtain ⟨tx, other_opened⟩ := open_of_fetched fetched
    have handles : (run home (past ++ [.fetch other limit])).handles = (run home past).handles := by
      rw [run_concat, step_fetch (sound_run home past) other_opened]
    have by_other := held_of_returned home _ fresh_after other id again
      (by rw [handles, other_opened]; rfl)
    have by_first := held_of_returned home _ fresh_after number id first (by rw [handles, opened])
    rw [by_first, Option.some.injEq] at by_other
    exact different by_other.symm
  refetched := by
    intro number id request returned opened closed row member same pending limit enough
    obtain ⟨tx, was_opened⟩ := Option.isSome_iff_exists.mp opened
    have held := held_of_returned home past fresh number id returned opened
    obtain ⟨rows, left⟩ := step_closed (sound_run home past) closed was_opened
    have unowned : (run home (past ++ [request])).store.owner? row.id = none := by
      rw [run_concat, left, same]
      exact Store.owner?_release_self (single_run home past) held
    have split : past ++ [request, .begin] = past ++ [request] ++ [.begin] := by simp
    have fetched := step_fetch_of_newcomer (sound_run home (past ++ [request])) limit
    rw [← run_concat, ← split] at fetched
    refine ⟨_, _, rfl, fetched, ?_⟩
    exact Store.mem_batch_of_free rfl rfl member pending unowned enough

def claimedHistory : List Request :=
  [.begin, .create 1 .fruit, .commit 1, .begin, .begin, .fetch 2 10]

/-- The row is passed over by the other open transaction, and free once the first one is dropped. -/
theorem claimedHistory_is_exclusive :
    (issuedIds claimedHistory).Nodup ∧ Returned 0 claimedHistory 2 Message.fruit.id ∧
    ((run 0 claimedHistory).step (.fetch 3 10)).2 = .fetched [] ∧
    Message.fruit.id ∉ ([] : List Message).map Message.id ∧
    ∃ newcomer messages,
      ((run 0 (claimedHistory ++ [.drop 2])).step .begin).2 = .begun newcomer ∧
      ((run 0 (claimedHistory ++ [.drop 2, .begin])).step (.fetch newcomer 1)).2 =
        .fetched messages ∧
      Message.fruit ∈ messages := by
  have given : issuedIds claimedHistory = [Message.fruit.id] := by rfl
  have fresh : (issuedIds claimedHistory).Nodup := by
    rw [given]
    exact List.nodup_singleton _
  have returned : Returned 0 claimedHistory 2 Message.fruit.id :=
    ⟨[.begin, .create 1 .fruit, .commit 1, .begin, .begin], 10, [], [.fruit], rfl, rfl,
      List.mem_singleton_self _⟩
  have opened : ((run 0 claimedHistory).handles 2).isSome = true := by rfl
  have passed : ((run 0 claimedHistory).step (.fetch 3 10)).2 = .fetched [] := by rfl
  have rows : (run 0 (claimedHistory ++ [.drop 2])).store.rows = [.fruit] := by rfl
  have exclusive := claims_are_exclusive 0 claimedHistory fresh
  refine ⟨fresh, returned, passed,
    exclusive.unshared 2 _ returned opened 3 10 [] (by decide) passed, ?_⟩
  apply exclusive.refetched 2 _ (.drop 2) returned opened rfl
  · rw [rows]
    exact List.mem_singleton_self _
  · rfl
  · rfl
  · rw [rows]
    decide

end Sessions

end Outbox
