/-
Module: Freight.Store.RelayLog
Purpose: What the record says about the world: the open writes of every process, the log of
  committed transactions, the rows that are locked and the rows that have been claimed.
Trusted boundary: none
Main exports:
  Relay.pending, Relay.ends, Relay.takes, Relay.Performed, Relay.performed,
  Relay.Faithful, Relay.relaying_faithful
-/
import Freight.Store.RelayProtocol

namespace Freight.Relay

open Interaction (ProcessId)

/-! ## What an operation does -/

/-- The writes of an open transaction after something has been said. -/
def pending (postgres : Postgres) (writes : List Write) : Said → List Write
  | ⟨.statement (.insertShipment row), .ok _⟩ =>
      writes ++ [.insertShipment (postgres.shipmentRow row)]
  | ⟨.statement (.insertEvent row), .ok _⟩ => writes ++ [.insertEvent (postgres.eventRow row)]
  | ⟨.statement (.insertOutbox row), .ok _⟩ =>
      writes ++ [.insertOutbox (postgres.outboxRow row)]
  | ⟨.statement (.updateShipment id patch), .ok _⟩ =>
      writes ++ [.updateShipment id (postgres.shipmentPatch patch)]
  | ⟨.statement (.updateOutbox id patch), .ok _⟩ =>
      writes ++ [.updateOutbox id (postgres.outboxPatch patch)]
  | ⟨.statement .commit, .ok _⟩ => []
  | ⟨.statement .rollback, _⟩ => []
  | _ => writes

/-- Whether a transaction ends. -/
def ends : Said → Bool
  | ⟨.statement .commit, .ok _⟩ => true
  | ⟨.statement .rollback, _⟩ => true
  | _ => false

/-- Whether a row of the outbox is locked. -/
def takes (id : UUID) : Said → Bool
  | ⟨.statement (.claimOutbox _), .ok (some row)⟩ => row.id = id
  | ⟨.statement (.updateOutbox target _), .ok _⟩ => target = id
  | _ => false

/-- A row that is claimed is the first of those that may be, and the clock shows UTC. -/
def Chosen (server : Server) (process : ProcessId) (before : World) : Said → Prop
  | ⟨.statement (.claimOutbox now), .ok (some row)⟩ =>
      server.first (server.claimable before process now) = some row
  | ⟨.statement .now, .ok value⟩ => value.utcoffset = some 0
  | _ => True

/-- The effect of an operation on what the record tells of. -/
structure Performed (server : Server) (process : ProcessId) (said : Said)
    (before after : World) : Prop where
  base : after.base = before.base
  wal : after.wal =
    if commits said then
      before.wal ++ [{ toConnection := before.connection process, process := process }]
    else before.wal
  own : after.writes process = pending server.postgres (before.writes process) said
  others : ∀ other, other ≠ process → after.writes other = before.writes other
  locks : ∀ holder id, (holder, Lock.outboxRow id) ∈ after.locks ↔
    (holder = process ∧ takes id said = true) ∨
      ((holder, Lock.outboxRow id) ∈ before.locks ∧ (holder = process → ends said = false))
  chosen : Chosen server process before said

namespace Performed

variable {server : Server} {process : ProcessId} {said : Said} {before after : World}

/-- An operation that touches none of it. -/
theorem unchanged (base : after.base = before.base) (wal : after.wal = before.wal)
    (writes : after.writes = before.writes) (locks : after.locks = before.locks)
    (keeps : ∀ writes, pending server.postgres writes said = writes)
    (free : ∀ id, takes id said = false) (open' : ends said = false)
    (open'' : commits said = false)
    (chosen : Chosen server process before said) :
    Performed server process said before after where
  base := base
  wal := by rw [open'', wal]; rfl
  own := by rw [keeps, writes]
  others := fun other _ => by rw [writes]
  locks := by
    intro holder id
    simp [locks, free, open']
  chosen := chosen

/-- An insert or an update that has gone through. -/
theorem written {write : Write} {locks : List Lock}
    (same : after = (before.hold process locks).append process write)
    (adds : ∀ writes, pending server.postgres writes said = writes ++ [write])
    (taken : ∀ id, Lock.outboxRow id ∈ locks ↔ takes id said = true)
    (open' : ends said = false) (open'' : commits said = false)
    (chosen : Chosen server process before said) :
    Performed server process said before after where
  base := by rw [same]; rfl
  wal := by rw [open'', same]; rfl
  own := by rw [same, adds]; simp [World.append, World.hold]
  others := by
    intro other different
    rw [same]
    simp [World.append, World.hold, Function.update_of_ne different]
  locks := by
    intro holder id
    rw [same, ← taken]
    simp only [open', implies_true, and_true]
    exact mem_hold_iff
  chosen := chosen

/-- A transaction that has ended. -/
theorem ended (base : after.base = before.base)
    (wal : after.wal =
      if commits said then
        before.wal ++ [{ toConnection := before.connection process, process := process }]
      else before.wal)
    (writes : after.writes = Function.update before.writes process [])
    (locks : after.locks = before.locks.filter fun held => held.1 ≠ process)
    (clears : ∀ writes, pending server.postgres writes said = [])
    (free : ∀ id, takes id said = false) (closed : ends said = true)
    (chosen : Chosen server process before said) :
    Performed server process said before after where
  base := base
  wal := wal
  own := by rw [clears, writes]; simp
  others := by
    intro other different
    rw [writes, Function.update_of_ne different]
  locks := by
    intro holder id
    rw [locks, mem_release_iff]
    simp [free, closed]
  chosen := chosen

/-- Noting an exception. -/
theorem settle {α : Type} {outcome : Except PyError α}
    (performed : Performed server process said before after) :
    Performed server process said before (after.settle process outcome) := by
  cases outcome with
  | ok value => exact performed
  | error error =>
      exact ⟨performed.base, performed.wal, performed.own, performed.others,
        performed.locks, performed.chosen⟩

end Performed

section Performed

variable {server : Server} {process : ProcessId} {before after : World}

/-- An operation that raises for reasons of its own. -/
theorem performed_fault {operation : Operation} {error : PyError} :
    Performed server process ⟨operation, .error error⟩ before
      (Server.faulted process operation.erase before) := by
  cases operation with
  | count outcome => exact .unchanged rfl rfl rfl rfl (fun _ => rfl) (fun _ => rfl) rfl rfl trivial
  | statement statement =>
      cases statement with
      | rollback => exact .ended rfl rfl rfl rfl (fun _ => rfl) (fun _ => rfl) rfl trivial
      | _ => exact .unchanged rfl rfl rfl rfl (fun _ => rfl) (fun _ => rfl) rfl rfl trivial

theorem performed_proceed {operation : Operation} {answer : operation.Answer}
    (acted : server.proceed process operation.erase before = some (answer, after)) :
    Performed server process ⟨operation, answer⟩ before after := by
  cases operation with
  | count outcome =>
      cases acted
      exact .unchanged rfl rfl rfl rfl (fun _ => rfl) (fun _ => rfl) rfl rfl trivial
  | statement statement =>
      cases statement with
      | selectShipment id =>
          cases acted
          exact .unchanged rfl rfl rfl rfl (fun _ => rfl) (fun _ => rfl) rfl rfl trivial
      | selectEventId id =>
          cases acted
          exact .unchanged rfl rfl rfl rfl (fun _ => rfl) (fun _ => rfl) rfl rfl trivial
      | insertShipment row =>
          simp only [Operation.erase, Server.proceed] at acted
          rcases insertRow_cases acted with
            ⟨_, _, _, rfl, rfl⟩ | ⟨_, member, _⟩ | ⟨rfl, same, _⟩
          · exact .unchanged rfl rfl rfl rfl (fun _ => rfl) (fun _ => rfl) rfl rfl trivial
          · cases member
          · exact .written same (fun _ => rfl) (by simp [shipmentKeys, takes]) rfl rfl trivial
      | insertEvent row =>
          simp only [Operation.erase, Server.proceed, Server.insertEvent] at acted
          split at acted
          · cases acted
            exact .unchanged rfl rfl rfl rfl (fun _ => rfl) (fun _ => rfl) rfl rfl trivial
          · rcases insertRow_cases acted with
              ⟨_, _, _, rfl, rfl⟩ | ⟨_, _, _, rfl, rfl⟩ | ⟨rfl, same, _⟩
            · exact .unchanged rfl rfl rfl rfl (fun _ => rfl) (fun _ => rfl) rfl rfl trivial
            · exact .unchanged rfl rfl rfl rfl (fun _ => rfl) (fun _ => rfl) rfl rfl trivial
            · exact .written same (fun _ => rfl) (by simp [eventKeys, takes]) rfl rfl trivial
      | insertOutbox row =>
          simp only [Operation.erase, Server.proceed] at acted
          rcases insertRow_cases acted with
            ⟨_, _, _, rfl, rfl⟩ | ⟨_, _, _, rfl, rfl⟩ | ⟨rfl, same, _⟩
          · exact .unchanged rfl rfl rfl rfl (fun _ => rfl) (fun _ => rfl) rfl rfl trivial
          · exact .unchanged rfl rfl rfl rfl (fun _ => rfl) (fun _ => rfl) rfl rfl trivial
          · exact .written same (fun _ => rfl) (by simp [outboxKeys, takes]) rfl rfl trivial
      | updateShipment id patch =>
          simp only [Operation.erase, Server.proceed] at acted
          obtain ⟨-, ⟨rfl, rfl⟩ | ⟨rfl, same⟩⟩ := updateRow_cases acted
          · exact .unchanged rfl rfl rfl rfl (fun _ => rfl) (fun _ => rfl) rfl rfl trivial
          · exact .written same (fun _ => rfl) (by simp [takes]) rfl rfl trivial
      | updateOutbox id patch =>
          simp only [Operation.erase, Server.proceed] at acted
          obtain ⟨-, ⟨rfl, rfl⟩ | ⟨rfl, same⟩⟩ := updateRow_cases acted
          · exact .unchanged rfl rfl rfl rfl (fun _ => rfl) (fun _ => rfl) rfl rfl trivial
          · exact .written same (fun _ => rfl) (by simp [takes, eq_comm]) rfl rfl trivial
      | claimOutbox now =>
          simp only [Operation.erase, Server.proceed] at acted
          split at acted
          · cases acted
            exact .unchanged rfl rfl rfl rfl (fun _ => rfl) (fun _ => rfl) rfl rfl trivial
          · rename_i row chosen
            cases acted
            refine ⟨rfl, rfl, rfl, fun _ _ => rfl, ?_, chosen⟩
            intro holder id
            refine mem_hold_iff.trans ?_
            simp [takes, ends, eq_comm]
      | commit =>
          cases acted
          exact .ended rfl rfl rfl rfl (fun _ => rfl) (fun _ => rfl) rfl trivial
      | rollback =>
          cases acted
          exact .ended rfl rfl rfl rfl (fun _ => rfl) (fun _ => rfl) rfl trivial
      | uuid4 => cases acted
      | now => cases acted
      | observe =>
          cases acted
          exact .unchanged rfl rfl rfl rfl (fun _ => rfl) (fun _ => rfl) rfl rfl trivial
      | publish message =>
          cases acted
          exact .unchanged rfl rfl rfl rfl (fun _ => rfl) (fun _ => rfl) rfl rfl trivial
      | respond response =>
          cases acted
          exact .unchanged rfl rfl rfl rfl (fun _ => rfl) (fun _ => rfl) rfl rfl trivial

theorem performed_uuid {operation : Operation} {answer : operation.Answer} {id : UUID}
    (acted : Server.drawUuid process id operation.erase before = some (answer, after)) :
    Performed server process ⟨operation, answer⟩ before after := by
  cases operation with
  | count outcome => cases acted
  | statement statement =>
      cases statement with
      | uuid4 =>
          simp only [Operation.erase, Server.drawUuid] at acted
          split at acted
          · cases acted
          · cases acted
            exact .unchanged rfl rfl rfl rfl (fun _ => rfl) (fun _ => rfl) rfl rfl trivial
      | _ => cases acted

theorem performed_time {operation : Operation} {answer : operation.Answer} {value : DateTime}
    (acted : Server.readClock value operation.erase before = some (answer, after)) :
    Performed server process ⟨operation, answer⟩ before after := by
  cases operation with
  | count outcome => cases acted
  | statement statement =>
      cases statement with
      | now =>
          simp only [Operation.erase, Server.readClock] at acted
          split at acted
          · rename_i utc
            cases acted
            exact .unchanged rfl rfl rfl rfl (fun _ => rfl) (fun _ => rfl) rfl rfl utc
          · cases acted
      | _ => cases acted

/-- Spec lemma: what the server does with an operation. -/
theorem performed {operation : Operation} {choice : Choice} {answer : operation.Answer}
    (acted : server.perform process operation.erase choice before = some (answer, after)) :
    Performed server process ⟨operation, answer⟩ before after := by
  obtain ⟨⟨reply, middle⟩, executed, same⟩ := Option.map_eq_some_iff.mp acted
  cases same
  apply Performed.settle
  cases choice with
  | fault error =>
      obtain ⟨-, rfl, rfl⟩ := execute_fault executed
      exact performed_fault
  | proceed => exact performed_proceed executed
  | uuid id => exact performed_uuid executed
  | time value => exact performed_time executed

end Performed

/-! ## Reading the record -/

/-- The open writes after an entry. -/
def settled (postgres : Postgres) (writes : List Write) (entry : LogEntry) : List Write :=
  match entry.exchange with
  | none => []
  | some said => pending postgres writes said

/-- The open writes of a process. -/
def openWrites (postgres : Postgres) (log : Log) (process : ProcessId) : List Write :=
  (log.entriesOf process).foldl (settled postgres) []

/-- How many transactions have been committed. -/
def committedBy (log : Log) : Nat :=
  log.countP fun entry => entry.2.exchange.any commits

/-- Whether an entry ends a transaction. -/
def releases (entry : LogEntry) : Bool :=
  match entry.exchange with
  | none => true
  | some said => ends said

/-- A process has locked a row, and its transaction has not ended since. -/
def Holds (log : Log) (holder : ProcessId) (id : UUID) : Prop :=
  ∃ before entry said after, log.entriesOf holder = before ++ entry :: after ∧
    entry.exchange = some said ∧ takes id said = true ∧
    ∀ later ∈ after, releases later = false

/-- The rows among which a relay chooses. -/
def due (server : Server) (now : DateTime) (free : OutboxEventModel → Bool)
    (database : Database) : List OutboxEventModel :=
  database.outboxEvents.filter fun row =>
    row.publishedAt.isNone &&
      decide (row.nextAttemptAt.instant server.postgres.localize ≤
        now.instant server.postgres.localize) &&
      free row

/-- A row that is claimed is the first of those that were pending and due, and not locked by
others. -/
def Preferred (server : Server) (base : Database) (wal : List Transaction) (earlier : Log)
    (process : ProcessId) (entry : LogEntry) : Prop :=
  ∀ now row, entry.exchange = some ⟨.statement (.claimOutbox now), .ok (some row)⟩ →
    ∃ free, (∀ other, free other = false →
        ∃ holder, holder ≠ process ∧ Holds earlier holder other.id) ∧
      server.first (due server now free
        ((replay base (wal.take entry.stamp)).writeAll
          (openWrites server.postgres earlier process))) = some row

/-- What the record says about the world. -/
structure Faithful (server : Server) (base : Database)
    (record : Record) : Prop where
  start : record.world.base = base
  writes : ∀ process,
    record.world.writes process = openWrites server.postgres record.log process
  length : record.world.wal.length = committedBy record.log
  stamped : record.log.Each fun earlier _ entry => entry.stamp = committedBy earlier
  committed : record.log.Each fun earlier process entry =>
    ∀ said, entry.exchange = some said → commits said = true →
      ∃ transaction, record.world.wal[entry.stamp]? = some transaction ∧
        transaction.process = process ∧
        transaction.writes = openWrites server.postgres earlier process
  entered : ∀ (index : Nat) transaction, record.world.wal[index]? = some transaction →
    ∃ earlier entry said, earlier ++ [(transaction.process, entry)] <+: record.log ∧
      entry.stamp = index ∧ entry.exchange = some said ∧ commits said = true ∧
      transaction.writes = openWrites server.postgres earlier transaction.process
  locks : ∀ holder id, (holder, Lock.outboxRow id) ∈ record.world.locks →
    Holds record.log holder id
  claims : record.log.Each (Preferred server base record.world.wal)
  clock : record.log.Each fun _ _ entry =>
    ∀ value, entry.exchange = some ⟨.statement .now, .ok value⟩ → value.utcoffset = some 0

section Reading

variable {postgres : Postgres} {log : Log} {process other : ProcessId}
  {entry : LogEntry} {id : UUID}

theorem openWrites_snoc_self :
    openWrites postgres (log ++ [(process, entry)]) process =
      settled postgres (openWrites postgres log process) entry := by
  rw [openWrites, Interaction.Journal.entriesOf_snoc_self, List.foldl_append]
  rfl

theorem openWrites_snoc_of_ne (different : other ≠ process) :
    openWrites postgres (log ++ [(process, entry)]) other = openWrites postgres log other := by
  rw [openWrites, Interaction.Journal.entriesOf_snoc_of_ne different, openWrites]

theorem committedBy_snoc :
    committedBy (log ++ [(process, entry)]) =
      committedBy log + if entry.exchange.any commits then 1 else 0 := by
  rw [committedBy, List.countP_append, List.countP_singleton, committedBy]

theorem committedBy_mono {earlier : Log} (before : earlier <+: log) :
    committedBy earlier ≤ committedBy log :=
  before.sublist.countP_le

/-- A lock is kept while its transaction lasts. -/
theorem Holds.snoc (holds : Holds log other id)
    (kept : other = process → releases entry = false) :
    Holds (log ++ [(process, entry)]) other id := by
  obtain ⟨before, taking, said, after, split, exchanged, taken, lasting⟩ := holds
  by_cases same : other = process
  · subst same
    refine ⟨before, taking, said, after ++ [entry], ?_, exchanged, taken, ?_⟩
    · rw [Interaction.Journal.entriesOf_snoc_self, split, List.append_assoc, List.cons_append]
    · intro later member
      rcases List.mem_append.mp member with earlier | last
      · exact lasting later earlier
      · cases List.mem_singleton.mp last
        exact kept rfl
  · refine ⟨before, taking, said, after, ?_, exchanged, taken, lasting⟩
    rw [Interaction.Journal.entriesOf_snoc_of_ne same, split]

/-- A lock that has just been taken. -/
theorem Holds.last {said : Said} (exchanged : entry.exchange = some said)
    (taken : takes id said = true) : Holds (log ++ [(process, entry)]) process id := by
  refine ⟨log.entriesOf process, entry, said, [], ?_, exchanged, taken, ?_⟩
  · rw [Interaction.Journal.entriesOf_snoc_self]
  · exact fun later member => nomatch member

end Reading

namespace Faithful

variable {server : Server} {base : Database} {process : ProcessId}
  {before after : Record}

/-- A claim stays preferred when further transactions are committed. -/
theorem claims_grow (kept : Faithful server base before) (more : List Transaction) :
    before.log.Each (Preferred server base (before.world.wal ++ more)) := by
  refine kept.claims.mono ?_
  intro earlier owner entry inside preferred
  have within : entry.stamp ≤ before.world.wal.length := by
    rw [kept.length, kept.stamped earlier owner entry inside]
    exact committedBy_mono ((List.prefix_append _ _).trans inside)
  rw [Preferred, List.take_append_of_le_length within]
  exact preferred

/-- Step lemma: an operation that is put on record. -/
theorem perform (kept : Faithful server base before) {said : Said}
    (performed : Performed server process said before.world after.world)
    (logged : after.log = before.log ++
      [(process, { stamp := before.world.wal.length, exchange := some said })]) :
    Faithful server base after where
  start := performed.base.trans kept.start
  writes := by
    intro other
    rw [logged]
    by_cases same : other = process
    · subst same
      rw [performed.own, openWrites_snoc_self, kept.writes]
      rfl
    · rw [performed.others other same, openWrites_snoc_of_ne same, kept.writes]
  length := by
    rw [logged, committedBy_snoc, performed.wal, ← kept.length]
    by_cases final : commits said = true <;> simp [final]
  stamped := by
    rw [logged]
    exact kept.stamped.snoc kept.length
  committed := by
    rw [logged]
    refine Interaction.Journal.Each.snoc (kept.committed.mono ?_) ?_
    · intro earlier owner entry inside committed other exchanged final
      obtain ⟨transaction, found, rest⟩ := committed other exchanged final
      refine ⟨transaction, ?_, rest⟩
      rw [performed.wal]
      split
      · rw [List.getElem?_append_left (List.getElem?_eq_some_iff.mp found).1]
        exact found
      · exact found
    · intro other exchanged final
      cases exchanged
      refine ⟨{ toConnection := before.world.connection process, process := process }, ?_,
        rfl, kept.writes process⟩
      rw [performed.wal, if_pos final]
      exact List.getElem?_concat_length
  entered := by
    intro index transaction found
    rw [performed.wal] at found
    rw [logged]
    have old : before.world.wal[index]? = some transaction →
        ∃ earlier entry other,
          earlier ++ [(transaction.process, entry)] <+: before.log ++
            [(process, { stamp := before.world.wal.length, exchange := some said })] ∧
          entry.stamp = index ∧ entry.exchange = some other ∧ commits other = true ∧
          transaction.writes = openWrites server.postgres earlier transaction.process := by
      intro there
      obtain ⟨earlier, entry, other, inside, rest⟩ := kept.entered index transaction there
      exact ⟨earlier, entry, other, inside.trans (List.prefix_append _ _), rest⟩
    split at found
    · rename_i final
      rcases Nat.lt_trichotomy index before.world.wal.length with inside | same | beyond
      · rw [List.getElem?_append_left inside] at found
        exact old found
      · subst same
        rw [List.getElem?_concat_length] at found
        cases found
        exact ⟨before.log, _, said, List.prefix_rfl, rfl, rfl, final, kept.writes process⟩
      · rw [List.getElem?_eq_none (by simpa using Nat.succ_le_of_lt beyond)] at found
        cases found
    · exact old found
  locks := by
    intro holder id held
    rw [logged]
    rcases (performed.locks holder id).mp held with ⟨rfl, taken⟩ | ⟨earlier, lasting⟩
    · exact Holds.last rfl taken
    · exact (kept.locks holder id earlier).snoc lasting
  claims := by
    rw [logged]
    refine Interaction.Journal.Each.snoc ?_ ?_
    · rw [performed.wal]
      split
      · exact kept.claims_grow _
      · exact kept.claims
    · intro now row exchanged
      cases exchanged
      have first := performed.chosen
      have same : after.world.wal.take before.world.wal.length = before.world.wal := by
        rw [performed.wal]
        exact List.take_length
      refine ⟨fun other => !before.world.heldByOther process (.outboxRow other.id), ?_, ?_⟩
      · intro other taken
        have held : before.world.heldByOther process (.outboxRow other.id) = true := by
          simpa using taken
        obtain ⟨⟨holder, lock⟩, member, both⟩ := List.any_eq_true.mp held
        simp only [Bool.and_eq_true, decide_eq_true_eq] at both
        obtain ⟨rfl, different⟩ := both
        exact ⟨holder, different, kept.locks holder other.id member⟩
      · rw [same, ← kept.writes process, ← kept.start]
        exact first
  clock := by
    rw [logged]
    refine kept.clock.snoc ?_
    intro value exchanged
    cases exchanged
    exact performed.chosen

/-- Step lemma: a process that is killed. -/
theorem crash (kept : Faithful server base before)
    (same : after.world = before.world.discard process)
    (logged : after.log = before.log ++
      [(process, { stamp := before.world.wal.length, exchange := none })]) :
    Faithful server base after where
  start := by rw [same]; exact kept.start
  writes := by
    intro other
    rw [logged, same]
    by_cases own : other = process
    · subst own
      rw [openWrites_snoc_self]
      simp [World.discard, settled]
    · rw [openWrites_snoc_of_ne own, ← kept.writes]
      simp [World.discard, Function.update_of_ne own]
  length := by
    rw [logged, committedBy_snoc, same]
    exact kept.length
  stamped := by
    rw [logged]
    exact kept.stamped.snoc kept.length
  committed := by
    rw [logged, same]
    refine kept.committed.snoc ?_
    intro other exchanged
    cases exchanged
  entered := by
    intro index transaction found
    rw [same] at found
    obtain ⟨earlier, entry, said, inside, rest⟩ := kept.entered index transaction found
    rw [logged]
    exact ⟨earlier, entry, said, inside.trans (List.prefix_append _ _), rest⟩
  locks := by
    intro holder id held
    rw [same] at held
    obtain ⟨earlier, different⟩ := mem_release_iff.mp held
    rw [logged]
    exact (kept.locks holder id earlier).snoc fun own => absurd own different
  claims := by
    rw [logged, same]
    refine kept.claims.snoc ?_
    intro now row exchanged
    cases exchanged
  clock := by
    rw [logged]
    refine kept.clock.snoc ?_
    intro value exchanged
    cases exchanged

end Faithful

/-- Run lemma: the record is faithful. -/
theorem relaying_faithful {server : Server} {base : Database} {requests : ProcessId → Request}
    {state : RelayingState}
    (reached : (relaying server requests).Reachable { world := { base := base } } state) :
    Faithful server base state.world := by
  obtain ⟨actions, ran⟩ := reached
  refine (relaying server requests).run_induction
    (motive := fun state => Faithful server base state.world) ?_ ?_ ran
  · intro action state next kept stepped
    rcases (relaying server requests).step_cases stepped with
      ⟨process, choice, operation, resume, answer, after, rfl, found, acted, rfl⟩ |
        ⟨process, program, rfl, found, rfl⟩
    · obtain ⟨-, acts, logged⟩ := Interaction.System.recorded_act acted
      exact kept.perform (performed acts) logged
    · exact kept.crash rfl rfl
  · exact
      { start := rfl
        writes := fun _ => rfl
        length := rfl
        stamped := .nil
        committed := .nil
        entered := fun index transaction found => nomatch found
        locks := fun holder id held => nomatch held
        claims := .nil
        clock := .nil }

end Freight.Relay
