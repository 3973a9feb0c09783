/-
Module: Freight.Store.LockTable
Purpose: The locks that a statement waits for and takes, in the order of their levels, and
  that a statement whose locks are free goes through.
Trusted boundary: none
Main exports:
  Lock.level, Statement.wanted, Statement.taken, Statement.ends, Locks, Locks.of_perform,
  Exhausted, Server.goes_of_free
-/
import Freight.Store.Alone

namespace Freight

open Interaction (ProcessId)

/-! ## Statements and locks -/

/-- The order in which a transaction takes its locks. -/
def Lock.level : Lock → Nat
  | .shipmentKey _ | .referenceNumber _ => 1
  | .eventKey _ => 2
  | .outboxKey _ | .outboxEventType _ _ => 3
  | .shipmentRow _ => 4
  | .outboxRow _ => 5

namespace Statement

/-- The locks that a statement waits for. -/
def wanted (postgres : Postgres) : Statement → List Lock
  | .insertShipment row =>
      let row := postgres.shipmentRow row
      [.shipmentKey row.id, .referenceNumber row.referenceNumber]
  | .insertEvent row => [.eventKey (postgres.eventRow row).eventId]
  | .insertOutbox row =>
      let row := postgres.outboxRow row
      [.outboxKey row.id, .outboxEventType row.eventId row.messageType]
  | .updateShipment id _ => [.shipmentRow id]
  | .updateOutbox id _ => [.outboxRow id]
  | _ => []

/-- The locks that a transaction holds more after an answer.  A claim takes what it does
not wait for. -/
def taken (postgres : Postgres) : (statement : Statement) → Except PyError (Reply statement) →
    List Lock
  | .claimOutbox _, .ok (some row) => [.outboxRow row.id]
  | statement, .ok _ => statement.wanted postgres
  | _, .error _ => []

/-- Whether an answer ends the transaction.  It is over after a rollback in any case. -/
def ends : (statement : Statement) → Except PyError (Reply statement) → Bool
  | .commit, .ok _ | .rollback, _ => true
  | _, _ => false

end Statement

/-! ## The lock table -/

/-- What an answer does to the lock table, and that a lock is taken only when no other
transaction holds it. -/
structure Locks (postgres : Postgres) (process : ProcessId) (statement : Statement)
    (answer : Except PyError (Reply statement)) (before after : World) : Prop where
  table : after.locks =
    if statement.ends answer then before.locks.filter fun held => held.1 ≠ process
    else (statement.taken postgres answer).map (process, ·) ++ before.locks
  free : ∀ lock ∈ statement.taken postgres answer, before.heldByOther process lock = false

namespace Locks

variable {server : Server} {process : ProcessId} {before after : World}
  {statement : Statement} {answer : Except PyError (Reply statement)}

/-- An answer that takes nothing. -/
theorem same (goesOn : statement.ends answer = false)
    (nothing : statement.taken server.postgres answer = [])
    (locks : after.locks = before.locks) :
    Locks server.postgres process statement answer before after where
  table := by simp [goesOn, nothing, locks]
  free := by simp [nothing]

/-- An answer with which the transaction is over. -/
theorem concluded (ended : statement.ends answer = true)
    (nothing : statement.taken server.postgres answer = [])
    (locks : after.locks = before.locks.filter fun held => held.1 ≠ process) :
    Locks server.postgres process statement answer before after where
  table := by simp [ended, locks]
  free := by simp [nothing]

/-- An answer for which locks have been taken. -/
theorem more {taken : List Lock} (goesOn : statement.ends answer = false)
    (takes : statement.taken server.postgres answer = taken)
    (free : ∀ lock ∈ taken, before.heldByOther process lock = false)
    (locks : after.locks = taken.map (process, ·) ++ before.locks) :
    Locks server.postgres process statement answer before after where
  table := by simp [goesOn, takes, locks]
  free := by rw [takes]; exact free

theorem one {lock : Lock} (goesOn : statement.ends answer = false)
    (takes : statement.taken server.postgres answer = [lock])
    (free : before.heldByOther process lock = false)
    (locks : after.locks = (process, lock) :: before.locks) :
    Locks server.postgres process statement answer before after :=
  more goesOn takes (by simpa using free) locks

/-- The keys of a row that could be inserted were free. -/
theorem free_of_keys {keys : List UniqueKey}
    (free : ∀ key ∈ keys, before.heldByOther process key.lock = false ∧ key.present = false) :
    ∀ lock ∈ keys.map UniqueKey.lock, before.heldByOther process lock = false := by
  intro lock member
  obtain ⟨key, listed, rfl⟩ := List.mem_map.mp member
  exact (free key listed).1

theorem of_fault {error : PyError} :
    Locks server.postgres process statement (.error error) before
      (Server.faulted process statement before) := by
  cases statement with
  | rollback => exact concluded rfl rfl rfl
  | _ => exact same rfl rfl rfl

theorem of_proceed (acted : server.proceed process statement before = some (answer, after)) :
    Locks server.postgres process statement answer before after := by
  cases statement with
  | insertShipment row =>
      simp only [Server.proceed] at acted
      rcases insertRow_cases acted with ⟨_, _, _, rfl, rfl⟩ | ⟨_, member, _⟩ | ⟨rfl, rfl, free⟩
      · exact same rfl rfl rfl
      · cases member
      · exact more rfl rfl (free_of_keys free) rfl
  | insertEvent row =>
      simp only [Server.proceed, Server.insertEvent] at acted
      split at acted
      · cases acted
        exact same rfl rfl rfl
      rcases insertRow_cases acted with
        ⟨_, _, _, rfl, rfl⟩ | ⟨_, _, _, rfl, rfl⟩ | ⟨rfl, rfl, free⟩
      · exact same rfl rfl rfl
      · exact same rfl rfl rfl
      · exact more rfl rfl (free_of_keys free) rfl
  | insertOutbox row =>
      simp only [Server.proceed] at acted
      rcases insertRow_cases acted with
        ⟨_, _, _, rfl, rfl⟩ | ⟨_, _, _, rfl, rfl⟩ | ⟨rfl, rfl, free⟩
      · exact same rfl rfl rfl
      · exact same rfl rfl rfl
      · exact more rfl rfl (free_of_keys free) rfl
  | updateShipment id patch =>
      simp only [Server.proceed] at acted
      obtain ⟨free, ⟨rfl, rfl⟩ | ⟨rfl, rfl⟩⟩ := updateRow_cases acted
      · exact same rfl rfl rfl
      · exact one rfl rfl free rfl
  | updateOutbox id patch =>
      simp only [Server.proceed] at acted
      obtain ⟨free, ⟨rfl, rfl⟩ | ⟨rfl, rfl⟩⟩ := updateRow_cases acted
      · exact same rfl rfl rfl
      · exact one rfl rfl free rfl
  | claimOutbox now =>
      simp only [Server.proceed] at acted
      split at acted
      · cases acted
        exact same rfl rfl rfl
      · rename_i row chosen
        cases acted
        have claimable := (List.mem_filter.mp (Server.mem_of_first chosen)).2
        simp only [Bool.and_eq_true, Bool.not_eq_true'] at claimable
        exact one rfl rfl claimable.2 rfl
  | commit =>
      cases acted
      exact concluded rfl rfl rfl
  | rollback =>
      cases acted
      exact concluded rfl rfl rfl
  | uuid4 => cases acted
  | now => cases acted
  | _ =>
      cases acted
      exact same rfl rfl rfl

/-- Spec lemma: what the server does with its locks. -/
theorem of_perform {choice : Choice}
    (acted : server.perform process statement choice before = some (answer, after)) :
    Locks server.postgres process statement answer before after := by
  obtain ⟨⟨reply, middle⟩, executed, equality⟩ := Option.map_eq_some_iff.mp acted
  cases equality
  have settled : (middle.settle process reply).locks = middle.locks := by
    cases reply with
    | ok value => exact rfl
    | error error => exact rfl
  have spec : Locks server.postgres process statement reply before middle := by
    cases choice with
    | fault error =>
        obtain ⟨-, rfl, rfl⟩ := execute_fault executed
        exact of_fault
    | proceed => exact of_proceed executed
    | uuid id =>
        cases statement with
        | uuid4 =>
            simp only [Server.execute, Server.drawUuid] at executed
            split at executed
            · cases executed
            · cases executed
              exact same rfl rfl rfl
        | _ => cases executed
    | time value =>
        cases statement with
        | now =>
            simp only [Server.execute, Server.readClock] at executed
            split at executed
            · cases executed
              exact same rfl rfl rfl
            · cases executed
        | _ => cases executed
  exact ⟨settled.trans spec.table, spec.free⟩

end Locks

/-! ## Statements that need not wait -/

section Free

variable {server : Server} {process : ProcessId} {world : World}

theorem checkKeys_ne_waits {keys : List UniqueKey}
    (free : ∀ key ∈ keys, world.heldByOther process key.lock = false) :
    checkKeys world process keys ≠ .waits := by
  induction keys with
  | nil =>
      intro waits
      cases waits
  | cons key keys inductionHypothesis =>
      simp only [checkKeys, free key List.mem_cons_self]
      cases key.present with
      | true =>
          intro waits
          cases waits
      | false =>
          exact inductionHypothesis fun other member => free other (List.mem_cons_of_mem _ member)

theorem insertRow_isSome {keys : List UniqueKey} {references : List ForeignKey} {write : Write}
    (free : ∀ lock ∈ keys.map UniqueKey.lock, world.heldByOther process lock = false) :
    (insertRow process keys references write world).isSome = true := by
  have unlocked : checkKeys world process keys ≠ .waits :=
    checkKeys_ne_waits fun key member => free _ (List.mem_map_of_mem member)
  unfold insertRow
  split
  · contradiction
  · rfl
  · split <;> rfl

theorem updateRow_isSome {lock : Lock} {present : Bool} {write : Write}
    (free : world.heldByOther process lock = false) :
    (updateRow process lock present write world).isSome = true := by
  simp only [updateRow, free]
  cases present with
  | true => rfl
  | false => rfl

/-- The identifiers have run out. -/
def Exhausted (world : World) : Prop := ∀ id, world.issued id = true

/-- A statement whose locks are free goes through, unless it asks for an identifier when
there is none left. -/
theorem Server.goes_of_free {statement : Statement}
    (free : ∀ lock ∈ statement.wanted server.postgres,
      world.heldByOther process lock = false) :
    Exhausted world ∨ ∃ choice outcome, choice.isFault = false ∧
      server.execute process statement choice world = some outcome := by
  have proceeds : (server.proceed process statement world).isSome = true →
      Exhausted world ∨ ∃ choice outcome, choice.isFault = false ∧
        server.execute process statement choice world = some outcome := by
    intro goes
    obtain ⟨outcome, executed⟩ := Option.isSome_iff_exists.mp goes
    exact .inr ⟨.proceed, outcome, rfl, executed⟩
  cases statement with
  | insertShipment row =>
      apply proceeds
      simp only [Server.proceed]
      apply insertRow_isSome
      exact free
  | insertEvent row =>
      apply proceeds
      simp only [Server.proceed, Server.insertEvent]
      split
      · rfl
      · apply insertRow_isSome
        exact free
  | insertOutbox row =>
      apply proceeds
      simp only [Server.proceed]
      apply insertRow_isSome
      exact free
  | updateShipment id patch => exact proceeds (updateRow_isSome (free _ List.mem_cons_self))
  | updateOutbox id patch => exact proceeds (updateRow_isSome (free _ List.mem_cons_self))
  | claimOutbox now =>
      apply proceeds
      simp only [Server.proceed]
      split <;> rfl
  | uuid4 =>
      by_cases left : ∃ id, world.issued id = false
      · obtain ⟨id, unused⟩ := left
        exact .inr ⟨.uuid id, (.ok id, world.issue process id), rfl, by
          simp [Server.execute, Server.drawUuid, unused]⟩
      · left
        intro id
        by_contra unused
        exact left ⟨id, by simpa using unused⟩
  | now =>
      exact .inr ⟨.time { wall := 0, utcoffset := some 0 }, _, rfl, rfl⟩
  | _ => exact proceeds rfl

end Free

end Freight
