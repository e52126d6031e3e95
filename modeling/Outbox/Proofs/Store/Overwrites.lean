import Outbox.Proofs.Store.Commits
import Outbox.Proofs.Store.Erasure

/-!
# Rows behind failed attempts

Messages that are saved as failed attempts take the places of their rows as a whole.  So a row keeps
all but its count of attempts, its last error and its status exactly if the message that takes its
place agrees with it in the rest.  The save reaches nothing else: rows that have ended stay, and a
message without a row adds none.
-/

set_option autoImplicit false

namespace Outbox

namespace Message

/-- Two messages differ at most in what an attempt to publish records. -/
def SameFrame (message other : Message) : Prop :=
  { message with
    retryCount := other.retryCount, lastError := other.lastError, status := other.status } = other

instance (message other : Message) : Decidable (message.SameFrame other) :=
  inferInstanceAs (Decidable (_ = _))

theorem SameFrame.refl (message : Message) : message.SameFrame message :=
  rfl

/-- Of the messages with an id, the one that is left of a pending row after a save of all: the first
one that is not pending itself, or else the last one. -/
def effective? (messages : List Message) (id : Uuid) : Option Message :=
  let named := messages.filter fun message => message.id = id
  (named.find? fun message => !message.isPending).or named.getLast?

theorem effective?_cons (message : Message) (rest : List Message) (id : Uuid) :
    effective? (message :: rest) id =
      if message.id = id then
        if message.isPending then (effective? rest id).or (some message) else some message
      else effective? rest id := by
  unfold effective?
  dsimp only
  by_cases named : message.id = id
  · rw [if_pos named, List.filter_cons_of_pos (by simpa using named)]
    by_cases pending : message.isPending = true
    · rw [if_pos pending, Option.or_assoc, List.find?_cons_of_neg (by simpa using pending),
        List.getLast?_cons]
      cases (rest.filter fun message => message.id = id).getLast? <;> rfl
    · rw [if_neg pending, List.find?_cons_of_pos (by simpa using pending)]
      rfl
  · rw [if_neg named, List.filter_cons_of_neg (by simpa using named)]

end Message

open Message (effective?)

/-! ## What the save stages -/

namespace Store

/-- What the save of one message makes of an own new row of the transaction. -/
def overwrite (message row : Message) : Message :=
  if message.id = row.id ∧ row.isPending = true then message else row

theorem id_overwrite (message row : Message) : (overwrite message row).id = row.id := by
  unfold overwrite
  split
  next same => exact same.1
  next => rfl

def overwriteAll (messages : List Message) (row : Message) : Message :=
  messages.foldl (fun row message => overwrite message row) row

theorem overwriteAll_eq (messages : List Message) (row : Message) :
    overwriteAll messages row =
      if row.isPending then (effective? messages row.id).getD row else row := by
  induction messages generalizing row with
  | nil => simp [overwriteAll, effective?]
  | cons message rest ih =>
      have later : overwriteAll (message :: rest) row = overwriteAll rest (overwrite message row) :=
        rfl
      rw [later, ih, id_overwrite, Message.effective?_cons]
      by_cases named : message.id = row.id
      · by_cases pending : row.isPending = true
        · have taken : overwrite message row = message := if_pos ⟨named, pending⟩
          rw [taken, if_pos named, if_pos pending]
          by_cases open_still : message.isPending = true
          · rw [if_pos open_still, if_pos open_still]
            cases effective? rest row.id <;> rfl
          · rw [if_neg open_still, if_neg open_still]
            rfl
        · have kept : overwrite message row = row := if_neg fun both => pending both.2
          rw [kept, if_neg pending, if_neg pending]
      · have kept : overwrite message row = row := if_neg fun both => named both.1
        rw [kept, if_neg named]

section Staged
variable {store : Store} {tx : Transaction}

theorem current?_of_own {row : Message} {id : Uuid} (own : tx.insert? id = some row) :
    store.current? tx id = some row := by
  simp [current?, own]

theorem current?_of_foreign {id : Uuid} (foreign : tx.insert? id = none) :
    store.current? tx id = (tx.update? id).or (store.find? id) := by
  unfold current?
  rw [foreign]
  cases tx.update? id <;> rfl

/-- A save of one message takes the place of an own new row that is pending. -/
theorem inserts_settle_failed (distinct : (tx.inserts.map Message.id).Nodup) (message : Message) :
    (store.settle .failed tx message).inserts = tx.inserts.map (overwrite message) := by
  cases own : tx.insert? message.id with
  | none =>
      have unnamed : ∀ row ∈ tx.inserts, overwrite message row = row := by
        intro row member
        apply if_neg
        rintro ⟨same, _⟩
        apply (find?_id_eq_none _ _).mp own
        exact same ▸ List.mem_map_of_mem member
      have kept : tx.inserts.map (overwrite message) = tx.inserts := by
        rw [List.map_congr_left unnamed, List.map_id']
      rw [kept]
      rcases store.settle_cases .failed tx message with ⟨row, _, _, _, result⟩ | ⟨_, result⟩
      · rw [result]
        exact Transaction.inserts_stage own
      · rw [result]
  | some row =>
      have seen : store.current? tx message.id = some row := current?_of_own own
      obtain ⟨member, same⟩ := find?_id_spec own
      by_cases pending : row.isPending = true
      · have staged : (store.settle .failed tx message).inserts =
            Transaction.replace message tx.inserts := by
          simp [settle, seen, pending, Save.revise, Transaction.stage, own]
        have single : ([message].map Message.id).Nodup := List.nodup_singleton _
        have replaced := Transaction.foldl_replace_eq_map single distinct
        rw [List.foldl_cons, List.foldl_nil] at replaced
        rw [staged, replaced]
        apply List.map_congr_left
        intro other there
        by_cases named : message.id = other.id
        · have one : other = row :=
            List.inj_on_of_nodup_map distinct there member (named.symm.trans same.symm)
          rw [one, overwrite, if_pos ⟨same.symm, pending⟩]
          simp [same]
        · rw [overwrite, if_neg fun both => named both.1]
          simp [named]
      · have kept : store.settle .failed tx message = tx := by
          simp [settle, seen, pending]
        rw [kept]
        have unmoved : ∀ other ∈ tx.inserts, overwrite message other = other := by
          intro other there
          apply if_neg
          rintro ⟨named, still⟩
          have one : other = row :=
            List.inj_on_of_nodup_map distinct there member (named.symm.trans same.symm)
          exact pending (one ▸ still)
        rw [List.map_congr_left unmoved, List.map_id']

theorem inserts_settleAll_failed (distinct : (tx.inserts.map Message.id).Nodup)
    (messages : List Message) :
    (store.settleAll .failed tx messages).inserts = tx.inserts.map (overwriteAll messages) := by
  induction messages generalizing tx with
  | nil =>
      change tx.inserts = tx.inserts.map fun row => row
      rw [List.map_id']
  | cons message rest ih =>
      have distinct_after : ((store.settle .failed tx message).inserts.map Message.id).Nodup := by
        rw [insertIds_settle]
        exact distinct
      have settled := ih distinct_after
      rw [inserts_settle_failed distinct, List.map_map] at settled
      exact settled

/-- The transaction sees a pending row under an id. -/
def seesPending (store : Store) (tx : Transaction) (id : Uuid) : Bool :=
  (store.current? tx id).any Message.isPending

theorem seesPending_iff {id : Uuid} :
    store.seesPending tx id = true ↔
      ∃ old, store.current? tx id = some old ∧ old.isPending = true := by
  unfold seesPending
  cases store.current? tx id with
  | none => simp
  | some old => simp

theorem update?_settle_failed (message : Message) {id : Uuid} (foreign : tx.insert? id = none) :
    (store.settle .failed tx message).update? id =
      if message.id = id ∧ store.seesPending tx id = true then some message else tx.update? id := by
  rcases store.settle_cases .failed tx message with
    ⟨row, seen, pending, _, result⟩ | ⟨unseen, result⟩
  · rw [result]
    by_cases own : (tx.insert? message.id).isSome = true
    · have different : message.id ≠ id := by
        intro same
        rw [same, foreign] at own
        cases own
      rw [if_neg fun both => different both.1]
      simp [Save.revise, Transaction.update?, Transaction.updates_stage_own own]
    · have not_own : tx.insert? message.id = none := by simpa using own
      rw [Save.revise, Transaction.update?_stage not_own]
      by_cases named : message.id = id
      · subst named
        have sees : store.seesPending tx message.id = true :=
          seesPending_iff.mpr ⟨row, seen, pending⟩
        rw [if_pos rfl, if_pos ⟨rfl, sees⟩]
      · rw [if_neg named, if_neg fun both => named both.1]
  · rw [result, if_neg]
    rintro ⟨rfl, sees⟩
    obtain ⟨old, seen, pending⟩ := seesPending_iff.mp sees
    rw [unseen old seen] at pending
    cases pending

theorem insert?_settle_isNone (save : Save) (message : Message) {id : Uuid}
    (foreign : tx.insert? id = none) : (store.settle save tx message).insert? id = none :=
  (insert?_isNone_congr (insertIds_settle store save tx message) id).mpr foreign

theorem seesPending_settle_failed (message : Message) {id : Uuid}
    (foreign : tx.insert? id = none) :
    store.seesPending (store.settle .failed tx message) id =
      if message.id = id ∧ store.seesPending tx id = true then message.isPending
      else store.seesPending tx id := by
  rw [seesPending, current?_of_foreign (insert?_settle_isNone .failed message foreign),
    update?_settle_failed message foreign]
  by_cases taken : message.id = id ∧ store.seesPending tx id = true
  · rw [if_pos taken, if_pos taken]
    rfl
  · rw [if_neg taken, if_neg taken, ← current?_of_foreign foreign]
    rfl

/-- The update of a row that the transaction has not created itself: the effective message if the
transaction sees a pending row under the id, and else what it was. -/
theorem update?_settleAll_failed (messages : List Message) {id : Uuid}
    (foreign : tx.insert? id = none) :
    (store.settleAll .failed tx messages).update? id =
      if store.seesPending tx id then (effective? messages id).or (tx.update? id)
      else tx.update? id := by
  induction messages generalizing tx with
  | nil => simp [settleAll, effective?]
  | cons message rest ih =>
      have still_foreign : (store.settle .failed tx message).insert? id = none :=
        insert?_settle_isNone .failed message foreign
      have later := ih still_foreign
      rw [seesPending_settle_failed message foreign, update?_settle_failed message foreign] at later
      change (store.settleAll .failed (store.settle .failed tx message) rest).update? id = _
      rw [later, Message.effective?_cons]
      by_cases sees : store.seesPending tx id = true
      · by_cases named : message.id = id
        · by_cases open_still : message.isPending = true
          · simp [sees, named, open_still]
          · simp [sees, named, open_still]
        · simp [sees, named]
      · simp [sees]

theorem update?_settle_own (save : Save) (message : Message) {id : Uuid}
    (own : (tx.insert? id).isSome = true) :
    (store.settle save tx message).update? id = tx.update? id := by
  rcases store.settle_cases save tx message with ⟨row, _, _, revised_id, result⟩ | ⟨_, result⟩
  · rw [result]
    by_cases created : (tx.insert? message.id).isSome = true
    · rw [Transaction.update?, Transaction.updates_stage_own (revised_id.symm ▸ created)]
      rfl
    · have different : message.id ≠ id := by
        rintro rfl
        exact created own
      have foreign : tx.insert? (save.revise row message).id = none := by
        rw [revised_id]
        simpa using created
      rw [Transaction.update?_stage foreign, revised_id, if_neg different]
  · rw [result]

/-- A row that a transaction has created itself is changed in place. -/
theorem update?_settleAll_own (save : Save) (messages : List Message) {id : Uuid}
    (own : (tx.insert? id).isSome = true) :
    (store.settleAll save tx messages).update? id = tx.update? id := by
  induction messages generalizing tx with
  | nil => rfl
  | cons message rest ih =>
      have still_own : ((store.settle save tx message).insert? id).isSome = true := by
        rw [Transaction.insert?, find?_id_isSome, insertIds_settle, ← find?_id_isSome]
        exact own
      have later := ih still_own
      rw [update?_settle_own save message own] at later
      exact later

end Staged

/-! ## What the commit shows -/

/-- Where a commit shows the row that its transaction sees under an id. -/
def place (store : Store) (tx : Transaction) (id : Uuid) : Nat :=
  if (tx.insert? id).isSome then store.rows.length + tx.inserts.findIdx fun row => row.id = id
  else store.rows.findIdx fun row => row.id = id

/-- A commit some time after the save shows what it would have shown without the save, but for the
rows that the transaction saw as pending when it saved them. -/
theorem getElem?_rows_installed_failed {store later : Store} {tx : Transaction}
    (lawful : tx.Lawful store) (grown : store.Older later) (messages : List Message)
    (position : Nat) :
    (later.installed (store.settleAll .failed tx messages)).rows[position]? =
      (later.installed tx).rows[position]?.map fun row =>
        if later.place tx row.id = position ∧ store.seesPending tx row.id = true then
          (effective? messages row.id).getD row
        else row := by
  have plain_lawful := lawful.later grown
  have saved_lawful := (lawful.settleAll .failed messages).later grown
  by_cases committed : position < later.rows.length
  · obtain ⟨row, there⟩ : ∃ row, later.rows[position]? = some row :=
      ⟨_, List.getElem?_eq_getElem committed⟩
    rw [Sessions.getElem?_rows_installed plain_lawful there,
      Sessions.getElem?_rows_installed saved_lawful there, Option.map_some]
    by_cases first : (later.rows.findIdx fun other => other.id = row.id) = position
    · rw [if_pos first, if_pos first]
      have shown_id : ((tx.update? row.id).getD row).id = row.id := by
        cases updated : tx.update? row.id with
        | none => rfl
        | some update => exact (find?_id_spec updated).2
      rw [shown_id]
      by_cases own : (tx.insert? row.id).isSome = true
      · -- The transaction sees its new row under this id, and not the committed one.
        have elsewhere : later.place tx row.id ≠ position := by
          rw [place, if_pos own]
          omega
        rw [update?_settleAll_own .failed messages own, if_neg fun both => elsewhere both.1]
      · have here : later.place tx row.id = position := by
          rw [place, if_neg own]
          exact first
        have foreign : tx.insert? row.id = none := by simpa using own
        rw [update?_settleAll_failed messages foreign]
        by_cases sees : store.seesPending tx row.id = true
        · rw [if_pos sees, if_pos ⟨here, sees⟩]
          cases effective? messages row.id <;> rfl
        · rw [if_neg sees, if_neg fun both => sees both.2]
    · rw [if_neg first, if_neg first]
      have elsewhere : later.place tx row.id ≠ position := by
        unfold place
        split
        · omega
        · exact first
      rw [if_neg fun both => elsewhere both.1]
  · obtain ⟨further, rfl⟩ : ∃ further, position = later.rows.length + further :=
      ⟨position - later.rows.length, by omega⟩
    rw [getElem?_installed_appended plain_lawful, getElem?_installed_appended saved_lawful,
      inserts_settleAll_failed lawful.inserts_distinct, List.getElem?_map]
    cases there : tx.inserts[further]? with
    | none => rfl
    | some row =>
        have own : tx.insert? row.id = some row :=
          find?_id_of_mem lawful.inserts_distinct (List.mem_of_getElem? there)
        have here : later.place tx row.id = later.rows.length + further := by
          rw [place, if_pos (Option.isSome_of_eq_some own),
            findIdx_id_of_nodup lawful.inserts_distinct there]
        have sees : store.seesPending tx row.id = row.isPending := by
          rw [seesPending, current?_of_own own]
          rfl
        rw [Option.map_some, Option.map_some, overwriteAll_eq, sees]
        by_cases pending : row.isPending = true
        · rw [if_pos pending, if_pos ⟨here, pending⟩]
        · rw [if_neg pending, if_neg fun both => pending both.2]

end Store

/-! ## Requests of others in between -/

namespace Sessions

section Put
variable {sessions : Sessions} {number : Nat} (tx : Transaction)

theorem store_put : (sessions.put number tx).store = sessions.store := rfl

theorem put_put_comm {other : Nat} (different : other ≠ number) (found : Transaction) :
    (sessions.put number tx).put other found = (sessions.put other found).put number tx := by
  unfold put
  rw [Function.update_comm different]

theorem leave_put_comm {other : Nat} (different : other ≠ number) (store : Store) :
    (sessions.put number tx).leave other store = (sessions.leave other store).put number tx := by
  unfold put leave
  rw [Function.update_comm different]

theorem put_self {found : Transaction} (opened : sessions.handles number = some found) :
    sessions.put number found = sessions := by
  unfold put
  rw [← opened, Function.update_eq_self]

theorem on_put {other : Nat} (different : other ≠ number)
    {work work_put : Transaction → Sessions × Reply}
    (same : ∀ found, (work_put found).1 = (work found).1.put number tx) :
    ((sessions.put number tx).on other work_put).1 =
      (sessions.on other work).1.put number tx := by
  unfold on
  have handle : (sessions.put number tx).handles other = sessions.handles other :=
    Function.update_of_ne different _ _
  rw [handle]
  cases sessions.handles other with
  | none => rfl
  | some found => exact same found

theorem keep_put {other : Nat} (different : other ≠ number) (result : Except Error Transaction) :
    ((sessions.put number tx).keep other result).1 =
      (sessions.keep other result).1.put number tx := by
  cases result with
  | error => rfl
  | ok found => exact put_put_comm tx different found

theorem close_put {other : Nat} (different : other ≠ number) (found : Transaction)
    (result : Except Error Store) :
    ((sessions.put number tx).close other found result).1 =
      (sessions.close other found result).1.put number tx := by
  cases result with
  | error => exact leave_put_comm tx different _
  | ok store => exact leave_put_comm tx different store

/-- What a transaction has staged makes no difference to the requests on others. -/
theorem step_put (sound : sessions.Sound) (opened : (sessions.handles number).isSome = true)
    {request : Request} (elsewhere : request.number? ≠ some number) :
    ((sessions.put number tx).step request).1 = (sessions.step request).1.put number tx := by
  have different {other : Nat} (asked : request.number? = some other) : other ≠ number := by
    rintro rfl
    exact elsewhere asked
  cases request with
  | begin =>
      obtain ⟨found, there⟩ := Option.isSome_iff_exists.mp opened
      obtain ⟨rfl, lawful⟩ := sound number found there
      have new : sessions.store.begun + 1 ≠ found.number := by
        have begun := lawful.number_le
        omega
      exact @put_put_comm { sessions with store := sessions.store.begin.2 } _ tx _ new _
  | create other message =>
      exact on_put tx (different rfl) fun found => keep_put tx (different rfl) _
  | enqueue other id now topic submission =>
      apply on_put tx (different rfl)
      intro found
      rw [store_put]
      cases sessions.store.enqueue found id now topic submission with
      | error => rfl
      | ok result => exact put_put_comm tx (different rfl) _
  | fetch other limit =>
      apply on_put tx (different rfl)
      intro found
      rw [store_put]
      cases sessions.store.fetch found limit with
      | error => rfl
      | ok result => rfl
  | saveProcessed other now messages =>
      exact on_put tx (different rfl) fun found => keep_put tx (different rfl) _
  | saveFailed other messages =>
      exact on_put tx (different rfl) fun found => keep_put tx (different rfl) _
  | commit other =>
      exact on_put tx (different rfl) fun found => close_put tx (different rfl) found _
  | rollback other =>
      exact on_put tx (different rfl) fun found => close_put tx (different rfl) found _
  | drop other =>
      exact on_put tx (different rfl) fun found => leave_put_comm tx (different rfl) _

end Put

/-- A transaction stays as it is while requests are made on others only. -/
theorem handles_step_elsewhere {sessions : Sessions} (sound : sessions.Sound) {number : Nat}
    {tx : Transaction} (opened : sessions.handles number = some tx) {request : Request}
    (elsewhere : request.number? ≠ some number) :
    (sessions.step request).1.handles number = some tx := by
  have put := step_put tx sound (Option.isSome_of_eq_some opened) elsewhere
  rw [put_self opened] at put
  rw [put]
  exact Function.update_self _ _ _

/-- Requests on others leave a transaction as it is, and what it has staged makes no difference to
them. -/
theorem run_saveFailed (home : StoreId) (past between : List Request) {number : Nat}
    {tx : Transaction} (messages : List Message)
    (opened : (run home past).handles number = some tx)
    (elsewhere : ∀ request ∈ between, request.number? ≠ some number) :
    (run home (past ++ between)).handles number = some tx ∧
      run home (past ++ .saveFailed number messages :: between) =
        (run home (past ++ between)).put number
          ((run home past).store.settleAll .failed tx messages) := by
  induction between using List.reverseRecOn with
  | nil =>
      refine ⟨by rw [List.append_nil]; exact opened, ?_⟩
      rw [List.append_nil, run_concat]
      exact step_saved (sound_run home past) rfl opened
  | append_singleton before request ih =>
      obtain ⟨still_open, saved⟩ :=
        ih fun other member => elsewhere other (List.mem_append_left _ member)
      have away : request.number? ≠ some number :=
        elsewhere request (List.mem_append_right _ (List.mem_singleton_self _))
      have sound := sound_run home (past ++ before)
      constructor
      · rw [← List.append_assoc, run_concat]
        exact handles_step_elsewhere sound still_open away
      · rw [← List.cons_append, ← List.append_assoc, ← List.append_assoc, run_concat, run_concat,
          saved]
        exact step_put _ sound (Option.isSome_of_eq_some still_open) away

/-! ## The exact condition -/

/-- A message takes the place of a row that a commit would show at a position: the transaction's
messages were saved as failed attempts while one store was there, and a later one is there at the
commit. -/
structure Overwrites (store later : Store) (tx : Transaction) (messages : List Message)
    (position : Nat) (row message : Message) : Prop where
  place : later.place tx row.id = position
  seen : store.seesPending tx row.id = true
  effective : effective? messages row.id = some message

/-- Messages that a transaction saves as failed attempts add no row.  The commit shows each row as
it would have done without the save, or the effective message of its id as a whole in its place;
that happens exactly to the rows that the transaction saw as pending at the save.  So the save keeps
everything but the record of attempts in all rows exactly if every such message agrees with the row
in the rest. -/
theorem saveFailed_overwrites (home : StoreId) (past between : List Request) (number : Nat)
    (tx : Transaction) (messages : List Message)
    (opened : (run home past).handles number = some tx)
    (elsewhere : ∀ request ∈ between, request.number? ≠ some number) :
    let called := (run home past).store
    let later := (run home (past ++ between)).store
    let plain := (run home (past ++ between ++ [.commit number])).store.rows
    let saved :=
      (run home (past ++ .saveFailed number messages :: between ++ [.commit number])).store.rows
    saved.map Message.id = plain.map Message.id ∧
    (∀ (position : Nat) (row : Message), plain[position]? = some row →
      (∀ message, Overwrites called later tx messages position row message →
        saved[position]? = some message) ∧
      ((∀ message, ¬Overwrites called later tx messages position row message) →
        saved[position]? = some row)) ∧
    ((∀ (position : Nat) (row after : Message), plain[position]? = some row →
        saved[position]? = some after → row.SameFrame after) ↔
      ∀ (position : Nat) (row message : Message), plain[position]? = some row →
        Overwrites called later tx messages position row message → row.SameFrame message) := by
  intro called later plain saved
  obtain ⟨still_open, saving⟩ := run_saveFailed home past between messages opened elsewhere
  have sound := sound_run home (past ++ between)
  have plain_rows : plain = (later.installed tx).rows := by
    unfold plain
    rw [run_concat, step_commit sound still_open]
    rfl
  have saved_rows : saved = (later.installed (called.settleAll .failed tx messages)).rows := by
    unfold saved
    have saved_sound := sound_run home (past ++ .saveFailed number messages :: between)
    have saved_open :
        (run home (past ++ .saveFailed number messages :: between)).handles number =
          some (called.settleAll .failed tx messages) := by
      rw [saving]
      exact Function.update_self _ _ _
    rw [run_concat, step_commit saved_sound saved_open, saving]
    rfl
  have row_at (position : Nat) : saved[position]? = plain[position]?.map fun row =>
      if later.place tx row.id = position ∧ called.seesPending tx row.id = true then
        (effective? messages row.id).getD row
      else row := by
    rw [plain_rows, saved_rows]
    exact Store.getElem?_rows_installed_failed (sound_run home past number tx opened).2
      (older_run home past between) messages position
  have overwritten (position : Nat) (row message : Message) (there : plain[position]? = some row)
      (overwrites : Overwrites called later tx messages position row message) :
      saved[position]? = some message := by
    rw [row_at, there, Option.map_some, if_pos ⟨overwrites.place, overwrites.seen⟩,
      overwrites.effective]
    rfl
  have kept (position : Nat) (row : Message) (there : plain[position]? = some row)
      (none_overwrites : ∀ message, ¬Overwrites called later tx messages position row message) :
      saved[position]? = some row := by
    rw [row_at, there, Option.map_some]
    split
    next reached =>
      cases effective : effective? messages row.id with
      | none => rfl
      | some message => exact absurd ⟨reached.1, reached.2, effective⟩ (none_overwrites message)
    next => rfl
  refine ⟨?_, fun position row there => ⟨?_, kept position row there⟩, ?_, ?_⟩
  · rw [plain_rows, saved_rows, Store.map_id_rows_installed, Store.map_id_rows_installed,
      Store.insertIds_settleAll]
  · intro message overwrites
    exact overwritten position row message there overwrites
  · intro framed position row message there overwrites
    exact framed position row message there (overwritten position row message there overwrites)
  · intro agree position row after there shown
    by_cases reached : ∃ message, Overwrites called later tx messages position row message
    · obtain ⟨message, overwrites⟩ := reached
      rw [overwritten position row message there overwrites, Option.some.injEq] at shown
      exact shown ▸ agree position row message there overwrites
    · rw [kept position row there (not_exists.mp reached), Option.some.injEq] at shown
      exact shown ▸ Message.SameFrame.refl row

/-- A committed row, and a transaction that may save a message of its id. -/
def openedHistory : List Request :=
  [.begin, .create 1 .fruit, .commit 1, .begin]

/-- A failed attempt at the row, in a message with another topic and another payload. -/
def strayAttempt : Message :=
  { Message.fruit with
    topic := "other.events", payload := [], retryCount := 1, lastError := "down" }

/-- The row gets the topic and the payload of the message. -/
theorem strayAttempt_breaks_the_frame :
    (run 0 openedHistory).store.rows = [.fruit] ∧
    (run 0 (openedHistory ++ [.saveFailed 2 [strayAttempt], .commit 2])).store.rows =
      [strayAttempt] ∧
    ¬Message.fruit.SameFrame strayAttempt := by
  refine ⟨by rfl, by rfl, by decide⟩

theorem strayAttempt_overwrites :
    ∃ tx, (run 0 openedHistory).handles 2 = some tx ∧
      (∀ request ∈ [Request.begin], request.number? ≠ some 2) ∧
      Overwrites (run 0 openedHistory).store (run 0 (openedHistory ++ [.begin])).store tx
        [strayAttempt] 0 .fruit strayAttempt ∧
      (run 0 (openedHistory ++ [.saveFailed 2 [strayAttempt], .begin, .commit 2])).store.rows[0]? =
        some strayAttempt := by
  have opened : (run 0 openedHistory).handles 2 = some { home := 0, number := 2 } := by rfl
  have elsewhere : ∀ request ∈ [Request.begin], request.number? ≠ some 2 := by
    intro request member
    rw [List.mem_singleton.mp member]
    decide
  have overwrites : Overwrites (run 0 openedHistory).store (run 0 (openedHistory ++ [.begin])).store
      { home := 0, number := 2 } [strayAttempt] 0 .fruit strayAttempt :=
    ⟨by rfl, by rfl, by rfl⟩
  obtain ⟨_, rows, _⟩ :=
    saveFailed_overwrites 0 openedHistory [.begin] 2 _ [strayAttempt] opened elsewhere
  exact ⟨_, opened, elsewhere, overwrites, (rows 0 .fruit (by rfl)).1 strayAttempt overwrites⟩

end Sessions

end Outbox
