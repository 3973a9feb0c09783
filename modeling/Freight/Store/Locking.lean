/-
Module: Freight.Store.Locking
Purpose: Two-phase locking: what the lock table guarantees about uncommitted
  writes, and that taking locks, writing, aborting and committing keep it.
Trusted boundary: none
Main exports:
  Backed, Locking, Locking.hold, Locking.append, Locking.discard,
  Locking.commit, Locking.outbox_of_commit
-/
import Freight.Database.Server

namespace Freight

open Interaction (ProcessId)

/-- What stands behind an uncommitted write: the lock its transaction holds and,
for an insert, that the key is still free. -/
def Backed (database : Database) (locks : List (ProcessId × Lock))
    (uuids : List (ProcessId × UUID)) (process : ProcessId) : Write → Prop
  | .insertShipment row =>
      (process, .shipmentKey row.id) ∈ locks ∧ (process, row.id) ∈ uuids ∧
        database.shipment row.id = none
  | .insertEvent row =>
      (process, .eventKey row.eventId) ∈ locks ∧ database.event row.eventId = none
  | .insertOutbox row =>
      (process, .outboxKey row.id) ∈ locks ∧ (process, row.id) ∈ uuids ∧
        database.outbox row.id = none
  | .updateShipment _ _ => True
  | .updateOutbox id _ => (process, .outboxRow id) ∈ locks

/-- The state of the lock table.  A lock has one holder, every uncommitted write
is backed by one, an outbox key is only held together with its event key, and
the relays hold rows that are still to be published. -/
structure Locking (database : Database) (locks : List (ProcessId × Lock))
    (uuids : List (ProcessId × UUID)) (writes : ProcessId → List Write) : Prop where
  exclusive : ∀ {first second : ProcessId} {lock : Lock},
    (first, lock) ∈ locks → (second, lock) ∈ locks → first = second
  backed : ∀ {process : ProcessId} {write : Write},
    write ∈ writes process → Backed database locks uuids process write
  outboxEvent : ∀ {process : ProcessId} {eventId : UUID} {messageType : String},
    (process, .outboxEventType eventId messageType) ∈ locks →
      (process, .eventKey eventId) ∈ locks
  claimed : ∀ {process : ProcessId} {id : UUID}, (process, .outboxRow id) ∈ locks →
    ∃ row, database.outbox id = some row ∧ row.publishedAt = none

variable {database : Database} {locks more : List (ProcessId × Lock)}
  {uuids issued : List (ProcessId × UUID)} {writes : ProcessId → List Write}
  {process : ProcessId}

theorem Backed.mono {write : Write} (backed : Backed database locks uuids process write)
    (keepsLocks : ∀ lock, (process, lock) ∈ locks → (process, lock) ∈ more)
    (keepsUuids : ∀ id, (process, id) ∈ uuids → (process, id) ∈ issued) :
    Backed database more issued process write := by
  cases write with
  | insertShipment row =>
      exact ⟨keepsLocks _ backed.1, keepsUuids _ backed.2.1, backed.2.2⟩
  | insertEvent row => exact ⟨keepsLocks _ backed.1, backed.2⟩
  | insertOutbox row =>
      exact ⟨keepsLocks _ backed.1, keepsUuids _ backed.2.1, backed.2.2⟩
  | updateShipment id patch => trivial
  | updateOutbox id patch => exact keepsLocks _ backed

theorem mem_hold_iff {taken : List Lock} {holder : ProcessId} {lock : Lock} :
    (holder, lock) ∈ taken.map (process, ·) ++ locks ↔
      (holder = process ∧ lock ∈ taken) ∨ (holder, lock) ∈ locks := by
  simp only [List.mem_append, List.mem_map, Prod.mk.injEq]
  constructor
  · rintro (⟨held, member, rfl, rfl⟩ | member)
    · exact .inl ⟨rfl, member⟩
    · exact .inr member
  · rintro (⟨rfl, member⟩ | member)
    · exact .inl ⟨lock, member, rfl, rfl⟩
    · exact .inr member

theorem mem_release_iff {holder : ProcessId} {lock : Lock} :
    (holder, lock) ∈ locks.filter (fun held => held.1 ≠ process) ↔
      (holder, lock) ∈ locks ∧ holder ≠ process := by
  simp [List.mem_filter]

namespace Locking

/-- Taking locks that no other process holds. -/
theorem hold (kept : Locking database locks uuids writes) {taken : List Lock}
    (free : ∀ lock ∈ taken, ∀ other, (other, lock) ∈ locks → other = process)
    (outboxEvent : ∀ eventId messageType, Lock.outboxEventType eventId messageType ∈ taken →
      (process, .eventKey eventId) ∈ locks)
    (claimed : ∀ id, Lock.outboxRow id ∈ taken →
      ∃ row, database.outbox id = some row ∧ row.publishedAt = none) :
    Locking database (taken.map (process, ·) ++ locks) uuids writes where
  exclusive := by
    intro first second lock one two
    rcases mem_hold_iff.mp one with ⟨rfl, member⟩ | held <;>
      rcases mem_hold_iff.mp two with ⟨rfl, again⟩ | holds
    · rfl
    · exact (free lock member second holds).symm
    · exact free lock again first held
    · exact kept.exclusive held holds
  backed := by
    intro owner write member
    exact (kept.backed member).mono
      (fun lock held => mem_hold_iff.mpr (.inr held)) (fun id issued => issued)
  outboxEvent := by
    intro owner eventId messageType held
    rcases mem_hold_iff.mp held with ⟨rfl, member⟩ | earlier
    · exact mem_hold_iff.mpr (.inr (outboxEvent eventId messageType member))
    · exact mem_hold_iff.mpr (.inr (kept.outboxEvent earlier))
  claimed := by
    intro owner id held
    rcases mem_hold_iff.mp held with ⟨rfl, member⟩ | earlier
    · exact claimed id member
    · exact kept.claimed earlier

/-- Writing under a lock. -/
theorem append (kept : Locking database locks uuids writes) {write : Write}
    (backed : Backed database locks uuids process write) :
    Locking database locks uuids
      (Function.update writes process (writes process ++ [write])) where
  exclusive := kept.exclusive
  backed := by
    intro owner other member
    by_cases same : owner = process
    · subst same
      simp only [Function.update_self, List.mem_append, List.mem_singleton] at member
      rcases member with earlier | rfl
      · exact kept.backed earlier
      · exact backed
    · simp only [Function.update_of_ne same] at member
      exact kept.backed member
  outboxEvent := kept.outboxEvent
  claimed := kept.claimed

/-- Handing out an identifier. -/
theorem issue (kept : Locking database locks uuids writes) (entry : ProcessId × UUID) :
    Locking database locks (entry :: uuids) writes where
  exclusive := kept.exclusive
  backed := fun member =>
    (kept.backed member).mono (fun _ held => held)
      (fun _ issued => List.mem_cons_of_mem _ issued)
  outboxEvent := kept.outboxEvent
  claimed := kept.claimed

/-- What another process holds, it still holds when one process has ended its
transaction. -/
theorem mem_of_release {lock : Lock} {other : ProcessId} (different : other ≠ process)
    (held : (other, lock) ∈ locks) :
    (other, lock) ∈ locks.filter (fun held => held.1 ≠ process) :=
  mem_release_iff.mpr ⟨held, different⟩

/-- Ending a transaction without its writes. -/
theorem discard (kept : Locking database locks uuids writes) (process : ProcessId) :
    Locking database (locks.filter fun held => held.1 ≠ process) uuids
      (Function.update writes process []) where
  exclusive := fun one two =>
    kept.exclusive (mem_release_iff.mp one).1 (mem_release_iff.mp two).1
  backed := by
    intro owner write member
    by_cases same : owner = process
    · subst same
      simp at member
    · simp only [Function.update_of_ne same] at member
      exact (kept.backed member).mono (fun _ held => mem_of_release same held)
        (fun _ issued => issued)
  outboxEvent := by
    intro owner eventId messageType held
    obtain ⟨earlier, different⟩ := mem_release_iff.mp held
    exact mem_of_release different (kept.outboxEvent earlier)
  claimed := fun held => kept.claimed (mem_release_iff.mp held).1

/-- A row locked by another process is not touched by a commit. -/
theorem outbox_of_commit (kept : Locking database locks uuids writes)
    {other : ProcessId} {id : UUID} (different : other ≠ process)
    (held : (other, .outboxRow id) ∈ locks) :
    (database.writeAll (writes process)).outbox id = database.outbox id := by
  obtain ⟨row, found, -⟩ := kept.claimed held
  rw [found]
  refine Database.outbox_writeAll_of_some_of_not_updated ?_ found
  intro patch member
  exact different (kept.exclusive held (kept.backed member))

/-- The uncommitted writes of another process are still backed after a commit:
the keys it holds are not among the committed ones. -/
theorem backed_of_commit (kept : Locking database locks uuids writes)
    {other : ProcessId} {write : Write} (different : other ≠ process)
    (member : write ∈ writes other) :
    Backed (database.writeAll (writes process)) locks uuids other write := by
  have backed := kept.backed member
  cases write with
  | insertShipment row =>
      refine ⟨backed.1, backed.2.1, ?_⟩
      refine Database.shipment_writeAll_of_none ?_ backed.2.2
      intro inserted committed same
      have held := (kept.backed committed).1
      rw [same] at held
      exact different (kept.exclusive backed.1 held)
  | insertEvent row =>
      refine ⟨backed.1, ?_⟩
      refine Database.event_writeAll_of_none ?_ backed.2
      intro inserted committed same
      have held := (kept.backed committed).1
      rw [same] at held
      exact different (kept.exclusive backed.1 held)
  | insertOutbox row =>
      refine ⟨backed.1, backed.2.1, ?_⟩
      refine Database.outbox_writeAll_of_none ?_ backed.2.2
      intro inserted committed same
      have held := (kept.backed committed).1
      rw [same] at held
      exact different (kept.exclusive backed.1 held)
  | updateShipment id patch => trivial
  | updateOutbox id patch => exact backed

/-- Ending a transaction with its writes. -/
theorem commit (kept : Locking database locks uuids writes) (process : ProcessId) :
    Locking (database.writeAll (writes process))
      (locks.filter fun held => held.1 ≠ process) uuids
      (Function.update writes process []) where
  exclusive := (kept.discard process).exclusive
  backed := by
    intro owner write member
    by_cases same : owner = process
    · subst same
      simp at member
    · simp only [Function.update_of_ne same] at member
      exact (kept.backed_of_commit same member).mono
        (fun _ held => mem_of_release same held) (fun _ issued => issued)
  outboxEvent := (kept.discard process).outboxEvent
  claimed := by
    intro owner id held
    obtain ⟨earlier, different⟩ := mem_release_iff.mp held
    rw [kept.outbox_of_commit different earlier]
    exact kept.claimed earlier

end Locking

end Freight
