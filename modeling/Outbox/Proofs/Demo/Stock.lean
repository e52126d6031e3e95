import Outbox.Demo
import Outbox.Proofs.Simulation.Ticking
import Outbox.Proofs.Store.Enqueueing

/-!
# What a demonstration starts from

The three fruits are accepted, and they are all that is in the store when the worker starts: pending
rows in their order, in a store without locks.  On the bus nobody but the audit subscriber waits, if
the bus keeps subscribers at all.
-/

set_option autoImplicit false

namespace Outbox.Demo

open Simulation (Backlog Fresh World heard station)
open Time (Instant)

/-- The fruits have ids of their own. -/
def Distinct (ids : Nat → Uuid) : Prop :=
  ((List.range fruits.length).map ids).Nodup

instance (ids : Nat → Uuid) : Decidable (Distinct ids) :=
  inferInstanceAs (Decidable (List.Nodup _))

/-- What is handed in, with the ids. -/
def submissions (ids : Nat → Uuid) : List (Uuid × Submission) :=
  fruits.zipIdx.map fun entry => (ids entry.2, submission entry.1)

def row (clock : Instant) (entry : Uuid × Submission) : Message :=
  entry.2.row entry.1 clock topic

/-- The rows of the fruits. -/
def rows (clock : Instant) (ids : Nat → Uuid) : List Message :=
  (submissions ids).map (row clock)

variable {clock : Instant} {ids : Nat → Uuid}

theorem submissions_kept : ∀ entry ∈ submissions ids, entry.2.firstBroken? = none := by
  have fruits_kept : ∀ fruit ∈ fruits, (submission fruit).firstBroken? = none := by decide
  intro entry member
  obtain ⟨⟨fruit, index⟩, there, rfl⟩ := List.mem_map.mp member
  exact fruits_kept fruit (List.fst_mem_of_mem_zipIdx there)

theorem pending_rows : ∀ row ∈ rows clock ids, row.isPending = true := by
  intro row member
  obtain ⟨entry, _, rfl⟩ := List.mem_map.mp member
  rfl

theorem topic_rows : ∀ row ∈ rows clock ids, row.topic = topic := by
  intro row member
  obtain ⟨entry, _, rfl⟩ := List.mem_map.mp member
  rfl

/-- Submissions that keep the rules are enqueued one after the other, if their ids are new. -/
theorem enqueueAll_eq {store : Store} {tx : Transaction} {entries : List (Uuid × Submission)}
    (owned : store.owns tx = true) (kept : ∀ entry ∈ entries, entry.2.firstBroken? = none)
    (uncommitted : ∀ id ∈ entries.map Prod.fst, id ∉ store.rows.map Message.id)
    (distinct : (tx.inserts.map Message.id ++ entries.map Prod.fst).Nodup) :
    enqueueAll clock store tx entries =
      .ok { tx with inserts := tx.inserts ++ entries.map (row clock) } := by
  -- An id must be new to the rows, and to the inserts that were made before it.
  induction entries generalizing tx with
  | nil => simp [enqueueAll]
  | cons entry rest ih =>
      have accepted : entry.2.accept entry.1 clock topic = .ok (row clock entry) := by
        rcases entry.2.accept_cases entry.1 clock topic with ⟨_, accepted⟩ | ⟨rule, _, broken, _⟩
        · exact accepted
        · rw [kept entry List.mem_cons_self] at broken
          cases broken
      have free : store.find? entry.1 = none := by
        have unknown := uncommitted entry.1 List.mem_cons_self
        simpa [Store.find?] using unknown
      have unused : tx.insert? entry.1 = none := by
        have other : ∀ row ∈ tx.inserts, row.id ≠ entry.1 := by
          rintro row member same
          have apart := (List.nodup_append.mp distinct).2.2 row.id (List.mem_map_of_mem member)
            entry.1 List.mem_cons_self
          exact apart same
        simpa [Transaction.insert?] using other
      have enqueued : store.enqueue tx entry.1 clock topic entry.2 =
          .ok (entry.1, { tx with inserts := tx.inserts ++ [row clock entry] }) := by
        have same : (row clock entry).id = entry.1 := rfl
        simp [Store.enqueue, accepted, Store.create, owned, same, free, unused]
      have later := @ih { tx with inserts := tx.inserts ++ [row clock entry] } owned
        (fun other member => kept other (List.mem_cons_of_mem _ member))
        (fun id member => uncommitted id (List.mem_cons_of_mem _ member))
        (by simpa [row, Submission.row] using distinct)
      rw [enqueueAll, enqueued]
      dsimp only
      rw [later]
      simp

/-- All fruits are in a store that was empty. -/
theorem stock_eq (distinct : Distinct ids) (home : StoreId) :
    stock clock ids { id := home } =
      .ok { id := home, rows := rows clock ids, begun := 1 } := by
  have enqueued := @enqueueAll_eq clock { id := home, begun := 1 } { home, number := 1 }
    (submissions ids) (by simp [Store.owns]) submissions_kept (by simp) distinct
  rw [List.nil_append] at enqueued
  have all : fruits.zipIdx.map (fun entry => (ids entry.2, submission entry.1)) =
      submissions ids := rfl
  simp only [stock, Store.begin, all, Nat.zero_add, enqueued]
  simp [Store.commit, Store.owns, Store.release, rows]

/-- The world before the fruits are enqueued. -/
def attendedWorld (backend : Config.Backend) (clock : Instant) : World where
  clock := clock
  channels := [station backend topic [] []]
  sink := .registry .forPublisherAndAudit
  ready := heard backend [.subscriber 0 0]

theorem subscribe_eq (backend : Config.Backend) (clock : Instant) :
    ({ clock, channels := [channel backend], sink := .registry .forPublisherAndAudit } :
      World).subscribe topic .audit = (.ok (), attendedWorld backend clock) := by
  cases backend <;> rfl

/-- The world before the worker starts. -/
def stockedWorld (backend : Config.Backend) (clock : Instant) (ids : Nat → Uuid) : World :=
  (attendedWorld backend clock).putStore
    { id := World.mainStore, rows := rows clock ids, begun := 1 }

theorem prepare_eq (distinct : Distinct ids) (settings : Config.Settings) :
    prepare settings clock ids = .ok (stockedWorld settings.backend clock ids) := by
  have stocks : stock clock ids (attendedWorld settings.backend clock).main =
      .ok { id := World.mainStore, rows := rows clock ids, begun := 1 } :=
    stock_eq distinct World.mainStore
  simp only [prepare, subscribe_eq, stocks]
  rfl

theorem main_stockedWorld (backend : Config.Backend) (clock : Instant) (ids : Nat → Uuid) :
    (stockedWorld backend clock ids).main =
      { id := World.mainStore, rows := rows clock ids, begun := 1 } :=
  World.main_putStore _ rfl

theorem pendingRows_stockedWorld (backend : Config.Backend) (clock : Instant) (ids : Nat → Uuid) :
    (stockedWorld backend clock ids).main.pendingRows = rows clock ids := by
  rw [main_stockedWorld, Store.pendingRows, List.filter_eq_self]
  exact pending_rows

theorem fresh_stockedWorld (backend : Config.Backend) (clock : Instant) (ids : Nat → Uuid) :
    Fresh backend topic (stockedWorld backend clock ids) where
  attended := ⟨rfl, rfl, rfl, rfl, rfl, rfl, by rw [main_stockedWorld]⟩
  processes := rfl
  ready := rfl
  yielding := rfl
  log := rfl

theorem backlog_stockedWorld (distinct : Distinct ids) (backend : Config.Backend)
    (clock : Instant) : Backlog topic (stockedWorld backend clock ids) where
  distinct := by
    rw [main_stockedWorld]
    exact distinct
  unlocked := by rw [main_stockedWorld]
  addressed := by
    rw [pendingRows_stockedWorld]
    exact topic_rows
  few := by
    rw [pendingRows_stockedWorld]
    exact Nat.lt_of_lt_of_le (Nat.lt_succ_self 3) (by decide)

end Outbox.Demo
