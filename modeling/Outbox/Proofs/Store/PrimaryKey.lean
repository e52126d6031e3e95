import Outbox.Proofs.Store.Sessions

/-!
# Distinct ids

A create refuses an id that is committed or that its own transaction has created already.  A commit
checks nothing, so the ids of the committed rows stay distinct exactly as long as no transaction
commits a new row whose id was committed by another one after the row had been created.
-/

set_option autoImplicit false

namespace Outbox

/-- One of the transaction's new rows has the id of a committed row. -/
def Transaction.Clashes (tx : Transaction) (store : Store) : Prop :=
  ∃ message ∈ tx.inserts, message.id ∈ store.rows.map Message.id

namespace Sessions

/-! ## Where new rows come from -/

/-- A row of this id was created in a transaction of this number when the id was not committed. -/
def CreatedUncommitted (home : StoreId) (past : List Request) (number : Nat) (id : Uuid) : Prop :=
  ∃ before request after message,
    past = before ++ request :: after ∧
    request.created? = some (number, message) ∧ message.id = id ∧
    id ∉ (run home before).store.rows.map Message.id

theorem CreatedUncommitted.later {home : StoreId} {past : List Request} {number : Nat} {id : Uuid}
    (created : CreatedUncommitted home past number id) (next : Request) :
    CreatedUncommitted home (past ++ [next]) number id := by
  obtain ⟨before, request, after, message, split, asked, same, uncommitted⟩ := created
  refine ⟨before, request, after ++ [next], message, ?_, asked, same, uncommitted⟩
  simp [split]

/-- Every new row of an open transaction has the id of a row that was created in it, and the id was
not committed then. -/
theorem createdUncommitted_of_insert (home : StoreId) (past : List Request) :
    ∀ number tx, (run home past).handles number = some tx →
      ∀ id ∈ tx.inserts.map Message.id, CreatedUncommitted home past number id := by
  induction past using List.reverseRecOn with
  | nil =>
      intro number tx opened
      cases opened
  | append_singleton past next ih =>
      intro number tx opened id inserted
      rcases (run_change home past next).origin opened with
        kept | ⟨_, begun⟩ | ⟨old, message, old_opened, asked, uncommitted, _, created⟩ |
        ⟨old, save, messages, old_opened, _, saved⟩
      · exact (ih number tx kept id inserted).later next
      · subst begun
        simp at inserted
      · subst created
        simp only [List.map_append, List.map_cons, List.map_nil, List.mem_append,
          List.mem_singleton] at inserted
        rcases inserted with earlier | now
        · exact (ih number old old_opened id earlier).later next
        · refine ⟨past, next, [], message, rfl, asked, now.symm, ?_⟩
          rw [now]
          exact (find?_id_eq_none _ _).mp uncommitted
      · subst saved
        rw [Store.insertIds_settleAll] at inserted
        exact (ih number old old_opened id inserted).later next

/-! ## Distinct ids of committed rows -/

theorem ids_installed_nodup_iff {store : Store} {tx : Transaction} (lawful : tx.Lawful store)
    (distinct : (store.rows.map Message.id).Nodup) :
    ((store.installed tx).rows.map Message.id).Nodup ↔ ¬ tx.Clashes store := by
  rw [Store.map_id_rows_installed, List.nodup_append']
  constructor
  · rintro ⟨_, _, apart⟩ ⟨message, inserted, committed⟩
    exact apart committed (List.mem_map_of_mem inserted)
  · intro peaceful
    refine ⟨distinct, lawful.inserts_distinct, ?_⟩
    intro id committed inserted
    obtain ⟨message, member, same⟩ := List.mem_map.mp inserted
    exact peaceful ⟨message, member, same ▸ committed⟩

theorem Change.ids_nodup {sessions after : Sessions} {request : Request}
    (change : Change sessions request after) (sound : sessions.Sound)
    (distinct : (sessions.store.rows.map Message.id).Nodup)
    (peaceful : ∀ number tx, request = .commit number → sessions.handles number = some tx →
      ¬ tx.Clashes sessions.store) :
    (after.store.rows.map Message.id).Nodup := by
  cases change with
  | committed opened =>
      exact (ids_installed_nodup_iff (sound _ _ opened).2 distinct).mpr
        (peaceful _ _ rfl opened)
  | _ => exact distinct

/-- No commit of the history was by a transaction that clashed. -/
def Peaceful (home : StoreId) (requests : List Request) : Prop :=
  ∀ before number after tx, requests = before ++ .commit number :: after →
    (run home before).handles number = some tx → ¬ tx.Clashes (run home before).store

theorem ids_nodup_of_peaceful (home : StoreId) (requests : List Request)
    (peaceful : Peaceful home requests) :
    ((run home requests).store.rows.map Message.id).Nodup := by
  induction requests using List.reverseRecOn with
  | nil => exact List.nodup_nil
  | append_singleton past next ih =>
      have earlier : Peaceful home past := by
        intro before number after tx split
        exact peaceful before number (after ++ [next]) tx (by simp [split])
      refine (run_change home past next).ids_nodup (sound_run home past) (ih earlier) ?_
      intro number tx same
      exact peaceful past number [] tx (by rw [same])

theorem peaceful_of_ids_nodup (home : StoreId) (requests : List Request)
    (distinct : ((run home requests).store.rows.map Message.id).Nodup) :
    Peaceful home requests := by
  intro before number after tx split opened
  have committed : run home (before ++ [.commit number]) =
      (run home before).leave number ((run home before).store.installed tx) := by
    rw [run_concat, step_commit (sound_run home before) opened]
  have until_commit := older_run home (before ++ [.commit number]) after
  rw [List.append_assoc, List.singleton_append, ← split, committed] at until_commit
  have then_distinct := distinct.sublist until_commit.rows.sublist
  have before_distinct := then_distinct.sublist
    (Store.older_installed (run home before).store tx).rows.sublist
  exact (ids_installed_nodup_iff (sound_run home before _ _ opened).2 before_distinct).mp
    then_distinct

/-! ## The exact condition -/

/-- The ids of committed rows are distinct after a history exactly if no commit in it was by a
transaction that clashed with the rows committed before.  A create never makes a second row by
itself: it is refused with a database error and without effect exactly if the id is committed or one
of the transaction's new rows.  So a new row that clashes has an id that was committed after the row
had been created. -/
theorem committed_ids_distinct_iff (home : StoreId) (requests : List Request) :
    (((run home requests).store.rows.map Message.id).Nodup ↔ Peaceful home requests) ∧
    (∀ number tx message, (run home requests).handles number = some tx →
      (message.id ∈ (run home requests).store.rows.map Message.id ∨
        message.id ∈ tx.inserts.map Message.id →
        (run home requests).step (.create number message) =
          (run home requests, .refused (Store.duplicate message.id))) ∧
      (message.id ∉ (run home requests).store.rows.map Message.id →
        message.id ∉ tx.inserts.map Message.id →
        (run home requests).step (.create number message) =
          ((run home requests).put number { tx with inserts := tx.inserts ++ [message] },
            .done))) ∧
    (∀ number tx, (run home requests).handles number = some tx →
      ∀ id ∈ tx.inserts.map Message.id, CreatedUncommitted home requests number id) := by
  refine ⟨⟨peaceful_of_ids_nodup home requests, ids_nodup_of_peaceful home requests⟩, ?_,
    createdUncommitted_of_insert home requests⟩
  intro number tx message opened
  have owned := (sound_run home requests number tx opened).2.owned
  simp only [step, on_of_open opened]
  rcases create_cases owned message with ⟨uncommitted, new, result⟩ | ⟨known, result⟩
  · have absent := (find?_id_eq_none _ _).mp uncommitted
    have fresh := (find?_id_eq_none _ _).mp new
    rw [result]
    refine ⟨?_, fun _ _ => rfl⟩
    rintro (committed | inserted)
    · exact absurd committed absent
    · exact absurd inserted fresh
  · rw [result]
    refine ⟨fun _ => rfl, ?_⟩
    intro uncommitted new
    rcases known with committed | inserted
    · exact absurd ((find?_id_isSome _ _).mp committed) uncommitted
    · exact absurd ((find?_id_isSome _ _).mp inserted) new

def loneHistory : List Request :=
  [.begin, .create 1 .fruit, .commit 1, .begin]

/-- The id is there once, and a second row under it is refused without effect. -/
theorem loneHistory_refuses_a_second_row :
    Peaceful 0 loneHistory ∧
    (run 0 loneHistory).step (.create 2 .fruit) =
      (run 0 loneHistory, .refused (Store.duplicate Message.fruit.id)) := by
  have rows : (run 0 loneHistory).store.rows = [.fruit] := by rfl
  have opened : (run 0 loneHistory).handles 2 = some { home := 0, number := 2 } := by rfl
  obtain ⟨distinct, creates, _⟩ := committed_ids_distinct_iff 0 loneHistory
  constructor
  · apply distinct.mp
    simp [rows]
  · apply (creates 2 _ .fruit opened).1
    simp [rows]

def twinHistory : List Request :=
  [.begin, .begin, .create 1 .fruit, .create 2 .fruit, .commit 1, .commit 2]

/-- Both creates and both commits succeed, and the id is there twice. -/
theorem twinHistory_repeats_an_id :
    ¬ ((run 0 twinHistory).store.rows.map Message.id).Nodup := by
  have rows : (run 0 twinHistory).store.rows = [.fruit, .fruit] := by rfl
  simp [rows]

end Sessions

end Outbox
