/-
Module: Freight.Store.Statements
Purpose: One proof rule for each statement: what a process that performs it may
  conclude about its connection, its locks and the log, whether the statement
  returns or raises.
Trusted boundary: none
Main exports:
  discipline, storeContract, Lasting, Archival, Mine, holds_statement,
  holds_observe, holds_respond, holds_uuid4, holds_now, holds_selectShipment,
  holds_selectEventId, holds_insertShipment, holds_insertEvent
-/
import Freight.Store.Invariant

namespace Freight

open Interaction (ProcessId Contract)

section Definitions

variable (server : Server) (base : Database) (quiet : Prop) (requests : ProcessId → Request)

/-- How the processes share the world.  In a quiet system nobody else commits. -/
def discipline : Interaction.System.Discipline World where
  invariant := Invariant server base quiet requests
  rely := fun process before after =>
    Undisturbed base process before after ∧ (quiet → after.wal = before.wal)
  guarantee := fun process before after =>
    ∀ other, other ≠ process → Undisturbed base other before after

/-- The contract of one process. -/
def storeContract (process : ProcessId) :
    Contract Statement (fun op => Except PyError (Reply op)) World Choice :=
  (platform server requests).contract (discipline server base quiet requests) process

/-- An assertion about what a process holds and about the log, which neither the
others nor its own statements falsify while its transaction is open. -/
def Lasting (process : ProcessId) (assertion : World → Prop) : Prop :=
  ∀ before after, Extends base process before after → (quiet → after.wal = before.wal) →
    assertion before → assertion after

/-- An assertion about the log alone, which outlives the transaction. -/
def Archival (process : ProcessId) (assertion : List Transaction → Prop) : Prop :=
  ∀ wal more, process ∉ more.map Transaction.process → (quiet → more = []) →
    assertion wal → assertion (wal ++ more)

end Definitions

/-- The connection of a process, and an assertion that lasts. -/
structure Mine (process : ProcessId) (connection : Connection) (assertion : World → Prop)
    (world : World) : Prop where
  connection : world.connection process = connection
  lasts : assertion world

/-- A connection after an exception. -/
def Connection.raise (connection : Connection) (error : PyError) : Connection :=
  { connection with raised := error :: connection.raised }

/-- A connection after a read. -/
def Connection.note (connection : Connection) (read : Read) : Connection :=
  { connection with reads := read :: connection.reads }

/-- A connection after a write. -/
def Connection.append (connection : Connection) (write : Write) : Connection :=
  { connection with writes := connection.writes ++ [write] }

section Assertions

variable {server : Server} {base : Database} {quiet : Prop} {requests : ProcessId → Request}
  {process : ProcessId} {connection : Connection} {world : World}
  {assertion second : World → Prop} {archive : List Transaction → Prop}

theorem Lasting.and (one : Lasting base quiet process assertion)
    (two : Lasting base quiet process second) :
    Lasting base quiet process fun world => assertion world ∧ second world :=
  fun before after grown still holds =>
    ⟨one before after grown still holds.1, two before after grown still holds.2⟩

theorem Lasting.const (fact : Prop) : Lasting base quiet process fun _ => fact :=
  fun _ _ _ _ holds => holds

theorem Lasting.lock (lock : Lock) :
    Lasting base quiet process fun world => (process, lock) ∈ world.locks :=
  fun _ _ grown _ held => grown.locks lock held

theorem Lasting.uuid (id : UUID) :
    Lasting base quiet process fun world => (process, id) ∈ world.uuids :=
  fun _ _ grown _ issued => grown.uuids id issued

/-- A claimed row stays as it was claimed. -/
theorem Lasting.claimed (row : OutboxEventModel) :
    Lasting base quiet process fun world =>
      (process, .outboxRow row.id) ∈ world.locks ∧
        (replay base world.wal).outbox row.id = some row :=
  fun _ _ grown _ holds =>
    ⟨grown.locks _ holds.1, (grown.claimed row.id holds.1).trans holds.2⟩

theorem Archival.lasting (archival : Archival quiet process archive) :
    Lasting base quiet process fun world => archive world.wal := by
  intro before after grown still holds
  obtain ⟨more, log, others⟩ := grown.log
  rw [log]
  refine archival before.wal more others ?_ holds
  intro calm
  have same := still calm
  rw [log] at same
  simpa using same

theorem Archival.and {archived : List Transaction → Prop}
    (one : Archival quiet process archive) (two : Archival quiet process archived) :
    Archival quiet process fun wal => archive wal ∧ archived wal :=
  fun wal more others still holds =>
    ⟨one wal more others still holds.1, two wal more others still holds.2⟩

theorem Archival.const (fact : Prop) : Archival quiet process fun _ => fact :=
  fun _ _ _ _ holds => holds

/-- The process has not committed. -/
theorem Archival.uncommitted :
    Archival quiet process fun wal => process ∉ wal.map Transaction.process := by
  intro wal more others _ holds member
  rw [List.map_append, List.mem_append] at member
  exact member.elim holds others

/-- What the log said at a point it still says. -/
theorem Archival.at (lsn : Nat) (fact : Database → Prop) :
    Archival quiet process fun wal =>
      lsn ≤ wal.length ∧ fact (replay base (wal.take lsn)) := by
  rintro wal more _ _ ⟨inside, holds⟩
  refine ⟨by simpa using Nat.le_add_right_of_le inside, ?_⟩
  rw [List.take_append_of_le_length inside]
  exact holds

/-- In a quiet system the log has stopped growing. -/
theorem Archival.still (wal : List Transaction) :
    Archival quiet process fun current => quiet → current = wal := by
  intro current more _ still holds calm
  rw [still calm, List.append_nil]
  exact holds calm

theorem Mine.stable (lasting : Lasting base quiet process assertion) :
    (storeContract server base quiet requests process).Stable
      (Mine process connection assertion) := by
  rintro before after ⟨same, holds⟩ ⟨undisturbed, still⟩ -
  exact ⟨undisturbed.connection.trans same,
    lasting before after undisturbed.toExtends still holds⟩

theorem Mine.weaken (mine : Mine process connection assertion world)
    (implies : assertion world → second world) : Mine process connection second world :=
  ⟨mine.connection, implies mine.lasts⟩

/-- The assertion survives a change that leaves the log alone and takes nothing
from the process. -/
theorem Lasting.same (lasting : Lasting base quiet process assertion)
    (world after : World) (log : after.wal = world.wal)
    (locks : ∀ lock, (process, lock) ∈ world.locks → (process, lock) ∈ after.locks)
    (uuids : ∀ id, (process, id) ∈ world.uuids → (process, id) ∈ after.uuids)
    (holds : assertion world) : assertion after :=
  lasting world after (.of_log log locks uuids) (fun _ => log) holds

theorem Mine.raise (lasting : Lasting base quiet process assertion)
    (mine : Mine process connection assertion world) (error : PyError) :
    Mine process (connection.raise error) assertion (world.raise process error) where
  connection := by
    simp [← mine.connection, World.connection, World.raise, Connection.raise]
  lasts := lasting.same world _ rfl (fun _ held => held) (fun _ issued => issued) mine.lasts

theorem Mine.note (lasting : Lasting base quiet process assertion)
    (mine : Mine process connection assertion world) (read : Read) :
    Mine process (connection.note read) assertion (world.note process read) where
  connection := by
    simp [← mine.connection, World.connection, World.note, Connection.note]
  lasts := lasting.same world _ rfl (fun _ held => held) (fun _ issued => issued) mine.lasts

theorem Mine.append (lasting : Lasting base quiet process assertion)
    (mine : Mine process connection assertion world) (write : Write) :
    Mine process (connection.append write) assertion (world.append process write) where
  connection := by
    simp [← mine.connection, World.connection, World.append, Connection.append]
  lasts := lasting.same world _ rfl (fun _ held => held) (fun _ issued => issued) mine.lasts

/-- Taking locks adds them to what the process holds. -/
theorem Mine.hold (lasting : Lasting base quiet process assertion)
    (mine : Mine process connection assertion world) (taken : List Lock) :
    Mine process connection
      (fun world => assertion world ∧ ∀ lock ∈ taken, (process, lock) ∈ world.locks)
      (world.hold process taken) where
  connection := mine.connection
  lasts :=
    ⟨lasting.same world _ rfl (fun _ held => mem_hold_iff.mpr (.inr held))
        (fun _ issued => issued) mine.lasts,
      fun _ member => mem_hold_iff.mpr (.inl ⟨rfl, member⟩)⟩

theorem Lasting.locks (taken : List Lock) :
    Lasting base quiet process fun world => ∀ lock ∈ taken, (process, lock) ∈ world.locks :=
  fun _ _ grown _ held lock member => grown.locks lock (held lock member)

/-- Ending a transaction keeps what the log says. -/
theorem Mine.discard (mine : Mine process connection assertion world)
    (archives : assertion world → archive world.wal) :
    Mine process { connection with writes := [] } (fun world => archive world.wal)
      (world.discard process) where
  connection := by simp [← mine.connection, World.connection, World.discard]
  lasts := archives mine.lasts

theorem Refusable.of_fault {request : Request} {error : PyError}
    (faults : server.faults error = true) : Refusable server base request error :=
  fun _ _ _ _ _ => .inl faults

end Assertions

/-! ## The general rule -/

section Rules

variable {server : Server} {base : Database} {quiet : Prop} {requests : ProcessId → Request}
  {process : ProcessId} {connection : Connection} {world : World}
  {assertion : World → Prop} {session : Session}

theorem execute_fault {statement : Statement} {error : PyError}
    {reply : Except PyError (Reply statement)} {after : World}
    (acted : server.execute process statement (.fault error) world = some (reply, after)) :
    server.faults error = true ∧ reply = .error error ∧
      after = Server.faulted process statement world := by
  simp only [Server.execute] at acted
  split at acted
  · rename_i faults
    simp only [Option.some.injEq, Prod.mk.injEq] at acted
    exact ⟨faults, acted.1.symm, acted.2.symm⟩
  · cases acted

/-- A statement is verified by what it does to a world of which the assertion
holds. -/
theorem holds_statement {statement : Statement}
    {post : Contract.Post PyError Session World (Reply statement)}
    (lasting : Lasting base quiet process assertion)
    (mine : Mine process connection assertion world)
    (step : ∀ before choice reply after, Mine process connection assertion before →
      Invariant server base quiet requests before →
      server.execute process statement choice before = some (reply, after) →
      Step server base quiet requests process before after ∧
        (∀ error, reply = .error error →
          Refusable server base (requests process) error) ∧
        post reply session (after.settle process reply)) :
    (storeContract server base quiet requests process).holds (call statement) post session
      world := by
  refine Contract.holds_call (Mine.stable lasting) mine ?_
  intro before held kept choice reply after acted
  simp only [storeContract, Interaction.System.contract, platform, Server.perform,
    Option.map_eq_some_iff, Prod.mk.injEq] at acted
  obtain ⟨⟨result, reached⟩, executed, rfl, rfl⟩ := acted
  obtain ⟨stepped, refusable, established⟩ :=
    step before choice result reached held kept executed
  cases result with
  | ok value => exact ⟨stepped.1, stepped.2, established⟩
  | error error =>
      have noted := stepped.trans (Step.raise stepped.1 (refusable error rfl))
      exact ⟨noted.1, noted.2, established⟩

/-- The rule for a statement that leaves nothing behind when it raises for
reasons of its own. -/
theorem holds_plain {statement : Statement}
    {post : Contract.Post PyError Session World (Reply statement)}
    (plain : ∀ world, Server.faulted process statement world = world)
    (lasting : Lasting base quiet process assertion)
    (mine : Mine process connection assertion world)
    (faulted : ∀ error after, server.faults error = true →
      Mine process (connection.raise error) assertion after →
        post (.error error) session after)
    (step : ∀ before choice reply after, (∀ error, choice ≠ .fault error) →
      Mine process connection assertion before →
      Invariant server base quiet requests before →
      server.execute process statement choice before = some (reply, after) →
      Step server base quiet requests process before after ∧
        (∀ error, reply = .error error →
          Refusable server base (requests process) error) ∧
        post reply session (after.settle process reply)) :
    (storeContract server base quiet requests process).holds (call statement) post session
      world := by
  refine holds_statement lasting mine ?_
  intro before choice reply after held kept acted
  by_cases faulty : ∃ error, choice = .fault error
  · obtain ⟨error, rfl⟩ := faulty
    obtain ⟨faults, rfl, rfl⟩ := execute_fault acted
    rw [plain]
    refine ⟨Step.refl kept, ?_, faulted error _ faults (held.raise lasting error)⟩
    rintro other equality
    cases equality
    exact Refusable.of_fault faults
  · exact step before choice reply after (fun error equality => faulty ⟨error, equality⟩)
      held kept acted

/-! ## Statements that touch nothing shared -/

theorem holds_observe {post : Contract.Post PyError Session World Unit}
    (lasting : Lasting base quiet process assertion)
    (mine : Mine process connection assertion world)
    (returned : ∀ after, Mine process connection assertion after →
      post (.ok ()) session after)
    (raised : ∀ error after, server.faults error = true →
      Mine process (connection.raise error) assertion after →
        post (.error error) session after) :
    (storeContract server base quiet requests process).holds (call .observe) post session
      world := by
  refine holds_plain (fun _ => rfl) lasting mine raised ?_
  intro before choice reply after proper held kept acted
  cases choice with
  | fault error => exact absurd rfl (proper error)
  | proceed =>
      cases acted
      exact ⟨Step.refl kept, by simp, returned _ held⟩
  | _ => cases acted

theorem holds_now {post : Contract.Post PyError Session World DateTime}
    (lasting : Lasting base quiet process assertion)
    (mine : Mine process connection assertion world)
    (returned : ∀ value after, value.utcoffset = some 0 →
      Mine process connection assertion after → post (.ok value) session after)
    (raised : ∀ error after, server.faults error = true →
      Mine process (connection.raise error) assertion after →
        post (.error error) session after) :
    (storeContract server base quiet requests process).holds (call .now) post session
      world := by
  refine holds_plain (fun _ => rfl) lasting mine raised ?_
  intro before choice reply after proper held kept acted
  cases choice with
  | fault error => exact absurd rfl (proper error)
  | time value =>
      simp only [Server.execute, Server.readClock] at acted
      split at acted
      · rename_i utc
        cases acted
        exact ⟨Step.refl kept, by simp, returned _ _ utc held⟩
      · cases acted
  | _ => cases acted

theorem holds_uuid4 {post : Contract.Post PyError Session World UUID}
    (lasting : Lasting base quiet process assertion)
    (mine : Mine process connection assertion world)
    (returned : ∀ id after,
      Mine process connection (fun world => assertion world ∧ (process, id) ∈ world.uuids)
        after → post (.ok id) session after)
    (raised : ∀ error after, server.faults error = true →
      Mine process (connection.raise error) assertion after →
        post (.error error) session after) :
    (storeContract server base quiet requests process).holds (call .uuid4) post session
      world := by
  refine holds_plain (fun _ => rfl) lasting mine raised ?_
  intro before choice reply after proper held kept acted
  cases choice with
  | fault error => exact absurd rfl (proper error)
  | uuid id =>
      simp only [Server.execute, Server.drawUuid] at acted
      split at acted
      · cases acted
      · rename_i fresh
        cases acted
        refine ⟨Step.issue kept (by simpa using fresh), by simp, returned _ _ ⟨?_, ?_, ?_⟩⟩
        · exact held.connection
        · exact lasting.same before _ rfl (fun _ held => held)
            (fun _ issued => List.mem_cons_of_mem _ issued) held.lasts
        · exact List.mem_cons_self
  | _ => cases acted

theorem holds_respond {response : HttpResponse}
    {post : Contract.Post PyError Session World Unit}
    (lasting : Lasting base quiet process assertion)
    (mine : Mine process connection assertion world)
    (answerable : ∀ before, Mine process connection assertion before →
      Answerable server base before.wal (requests process) connection.reads response)
    (returned : ∀ after,
      Mine process { connection with response := some response } assertion after →
        post (.ok ()) session after)
    (raised : ∀ error after, server.faults error = true →
      Mine process (connection.raise error) assertion after →
        post (.error error) session after) :
    (storeContract server base quiet requests process).holds (call (.respond response)) post
      session world := by
  refine holds_plain (fun _ => rfl) lasting mine raised ?_
  intro before choice reply after proper held kept acted
  cases choice with
  | fault error => exact absurd rfl (proper error)
  | proceed =>
      cases acted
      have reads : before.reads process = connection.reads :=
        congrArg Connection.reads held.connection
      refine ⟨Step.answer kept (reads ▸ answerable before held), by simp, returned _ ⟨?_, ?_⟩⟩
      · simp [← held.connection, World.connection, World.answer, World.settle]
      · exact lasting.same before _ rfl (fun _ held => held) (fun _ issued => issued)
          held.lasts
  | _ => cases acted

/-! ## Reads -/

theorem World.visible_eq (kept : Invariant server base quiet requests world)
    (mine : Mine process connection assertion world) :
    world.visible process = (replay base world.wal).writeAll connection.writes := by
  have writes : world.writes process = connection.writes :=
    congrArg Connection.writes mine.connection
  rw [World.visible, World.database, kept.start, writes]

/-- `SELECT … FROM shipments`, before the transaction has written anything. -/
theorem holds_selectShipment {id : UUID}
    {post : Contract.Post PyError Session World (Option ShipmentModel)}
    (lasting : Lasting base quiet process assertion)
    (mine : Mine process connection assertion world)
    (clean : connection.writes = []) (silent : connection.response = none)
    (returned : ∀ row after, Invariant server base quiet requests after →
      row = (replay base after.wal).shipment id →
      Mine process (connection.note (.shipment after.wal.length row)) assertion after →
        post (.ok row) session after)
    (raised : ∀ error after, server.faults error = true →
      Mine process (connection.raise error) assertion after →
        post (.error error) session after) :
    (storeContract server base quiet requests process).holds (call (.selectShipment id)) post
      session world := by
  refine holds_plain (fun _ => rfl) lasting mine raised ?_
  intro before choice reply after proper held kept acted
  cases choice with
  | fault error => exact absurd rfl (proper error)
  | proceed =>
      cases acted
      have quietly : before.response process = none :=
        (congrArg Connection.response held.connection).trans silent
      have seen : (before.visible process).shipment id =
          (replay base before.wal).shipment id := by
        rw [World.visible_eq kept held, clean, Database.writeAll_nil]
      have noted : Step server base quiet requests process before
          (before.note process
            (.shipment before.wal.length ((before.visible process).shipment id))) :=
        Step.note kept quietly (by simp)
      exact ⟨noted, by simp, returned _ _ noted.1 seen (held.note lasting _)⟩
  | _ => cases acted

/-- `SELECT event_id FROM shipment_events`, before the transaction has written
anything. -/
theorem holds_selectEventId {eventId : UUID}
    {post : Contract.Post PyError Session World (Option UUID)}
    (lasting : Lasting base quiet process assertion)
    (mine : Mine process connection assertion world)
    (clean : connection.writes = []) (silent : connection.response = none)
    (returned : ∀ event after,
      event = (replay base after.wal).event eventId →
      Mine process (connection.note (.event after.wal.length event.isSome)) assertion after →
        post (.ok (event.map ShipmentEventModel.eventId)) session after)
    (raised : ∀ error after, server.faults error = true →
      Mine process (connection.raise error) assertion after →
        post (.error error) session after) :
    (storeContract server base quiet requests process).holds (call (.selectEventId eventId))
      post session world := by
  refine holds_plain (fun _ => rfl) lasting mine raised ?_
  intro before choice reply after proper held kept acted
  cases choice with
  | fault error => exact absurd rfl (proper error)
  | proceed =>
      cases acted
      have quietly : before.response process = none :=
        (congrArg Connection.response held.connection).trans silent
      have seen : (before.visible process).event eventId =
          (replay base before.wal).event eventId := by
        rw [World.visible_eq kept held, clean, Database.writeAll_nil]
      refine ⟨Step.note kept quietly (by simp), by simp, ?_⟩
      exact returned _ _ seen (held.note lasting _)
  | _ => cases acted

/-! ## Inserts -/

theorem free_of_heldByOther {lock : Lock} (free : world.heldByOther process lock = false) :
    ∀ other, (other, lock) ∈ world.locks → other = process := by
  intro other held
  by_contra different
  simp only [World.heldByOther, List.any_eq_false] at free
  exact free (other, lock) held (by simpa using different)

theorem checkKeys_free {keys : List UniqueKey}
    (free : checkKeys world process keys = .free) :
    ∀ key ∈ keys, world.heldByOther process key.lock = false ∧ key.present = false := by
  induction keys with
  | nil => simp
  | cons key keys inductionHypothesis =>
      simp only [checkKeys] at free
      split at free
      · cases free
      rename_i unlocked
      split at free
      · cases free
      rename_i absent
      intro other member
      rcases List.mem_cons.mp member with rfl | later
      · exact ⟨by simpa using unlocked, by simpa using absent⟩
      · exact inductionHypothesis free other later

theorem checkKeys_violates {keys : List UniqueKey} {constraint : String}
    (taken : checkKeys world process keys = .violates constraint) :
    ∃ key ∈ keys, key.present = true ∧ key.constraint = constraint := by
  induction keys with
  | nil => cases taken
  | cons key keys inductionHypothesis =>
      simp only [checkKeys] at taken
      split at taken
      · cases taken
      split at taken
      · rename_i present
        cases taken
        exact ⟨key, List.mem_cons_self, present, rfl⟩
      · obtain ⟨other, member, facts⟩ := inductionHypothesis taken
        exact ⟨other, List.mem_cons_of_mem _ member, facts⟩

/-- What an `INSERT` can do: violate a key, violate a reference, or write. -/
theorem insertRow_cases {keys : List UniqueKey} {references : List ForeignKey}
    {write : Write} {reply : Except PyError Unit} {after : World}
    (acted : insertRow process keys references write world = some (reply, after)) :
    (∃ key ∈ keys, key.present = true ∧ reply = .error (violation key.constraint) ∧
        after = world) ∨
      (∃ reference ∈ references, reference.present = false ∧
        reply = .error (violation reference.constraint) ∧ after = world) ∨
      (reply = .ok () ∧
        after = (world.hold process (keys.map UniqueKey.lock)).append process write ∧
        (∀ key ∈ keys, world.heldByOther process key.lock = false ∧ key.present = false)) := by
  unfold insertRow at acted
  split at acted
  · cases acted
  · rename_i constraint taken
    cases acted
    obtain ⟨key, member, present, rfl⟩ := checkKeys_violates taken
    exact .inl ⟨key, member, present, rfl, rfl⟩
  · rename_i free
    split at acted
    · rename_i reference missing
      cases acted
      have absent := List.find?_some missing
      exact .inr (.inl ⟨reference, List.mem_of_find?_eq_some missing,
        by simpa using absent, rfl, rfl⟩)
    · cases acted
      exact .inr (.inr ⟨rfl, rfl, checkKeys_free free⟩)

/-- A row that a transaction does not see is not committed either. -/
theorem Database.shipment_eq_none_of_writeAll {database : Database} {writes : List Write}
    {id : UUID} (absent : ((database.writeAll writes).shipment id).isSome = false) :
    database.shipment id = none := by
  rw [← Option.not_isSome_iff_eq_none]
  intro present
  rw [shipment_writeAll_isSome writes present] at absent
  cases absent

theorem Database.event_eq_none_of_writeAll {database : Database} {writes : List Write}
    {id : UUID} (absent : ((database.writeAll writes).event id).isSome = false) :
    database.event id = none := by
  cases found : database.event id with
  | none => rfl
  | some row =>
      rw [event_writeAll_of_some writes found] at absent
      cases absent

theorem Database.outbox_eq_none_of_writeAll {database : Database} {writes : List Write}
    {id : UUID} (absent : ((database.writeAll writes).outbox id).isSome = false) :
    database.outbox id = none := by
  cases found : database.outbox id with
  | none => rfl
  | some row =>
      obtain ⟨after, foundAfter, -⟩ := outbox_writeAll_of_some writes found
      rw [foundAfter] at absent
      cases absent

/-- The insert rule: the locks are taken and the row is written under them. -/
theorem Step.insert {keys : List UniqueKey} {write : Write}
    (kept : Invariant server base quiet requests world)
    (free : ∀ key ∈ keys, world.heldByOther process key.lock = false ∧ key.present = false)
    (rows : ∀ id, Lock.outboxRow id ∉ keys.map UniqueKey.lock)
    (outboxEvent : ∀ eventId messageType,
      Lock.outboxEventType eventId messageType ∈ keys.map UniqueKey.lock →
        (process, .eventKey eventId) ∈ world.locks)
    (backed : Backed (replay base world.wal)
      ((keys.map UniqueKey.lock).map (process, ·) ++ world.locks) world.uuids process
      write) :
    Step server base quiet requests process world
      ((world.hold process (keys.map UniqueKey.lock)).append process write) := by
  have held : Step server base quiet requests process world
      (world.hold process (keys.map UniqueKey.lock)) := by
    refine Step.hold kept ?_ outboxEvent (fun id member => absurd member (rows id))
    intro lock member
    obtain ⟨key, listed, rfl⟩ := List.mem_map.mp member
    exact free_of_heldByOther (free key listed).1
  exact held.trans (Step.append held.1 backed)

theorem holds_insertShipment {row : ShipmentModel}
    {post : Contract.Post PyError Session World Unit}
    (lasting : Lasting base quiet process assertion)
    (mine : Mine process connection assertion world)
    (creation : (requests process).isReception = false)
    (issued : ∀ before, assertion before → (process, row.id) ∈ before.uuids)
    (returned : ∀ after,
      Mine process
        (connection.append (.insertShipment (server.postgres.shipmentRow row))) assertion
        after → post (.ok ()) session after)
    (raised : ∀ error after, Mine process (connection.raise error) assertion after →
      post (.error error) session after) :
    (storeContract server base quiet requests process).holds (call (.insertShipment row)) post
      session world := by
  refine holds_plain (fun _ => rfl) lasting mine (fun error after _ => raised error after) ?_
  intro before choice reply after proper held kept acted
  cases choice with
  | fault error => exact absurd rfl (proper error)
  | proceed =>
      simp only [Server.execute, Server.proceed] at acted
      rcases insertRow_cases acted with
        ⟨key, member, present, rfl, rfl⟩ | ⟨reference, member, -⟩ | ⟨rfl, rfl, free⟩
      · refine ⟨Step.refl kept, ?_, raised _ _ (held.raise lasting _)⟩
        intro error _ reception
        rw [creation] at reception
        cases reception
      · cases member
      · have visible := World.visible_eq kept held
        refine ⟨Step.insert kept free (by simp [shipmentKeys]) (by simp [shipmentKeys]) ?_,
          by simp, returned _ ?_⟩
        · refine ⟨?_, issued before held.lasts, ?_⟩
          · simp [shipmentKeys, Postgres.shipmentRow]
          · have absent := (free _ List.mem_cons_self).2
            rw [visible] at absent
            exact Database.shipment_eq_none_of_writeAll absent
        · exact ((held.hold lasting _).append (lasting.and (Lasting.locks _)) _).weaken
            (fun holds => holds.1)
  | _ => cases acted

/-- Why the insert of an event is refused. -/
inductive EventRefusal (server : Server) (base : Database) (connection : Connection)
    (row : ShipmentEventModel) (wal : List Transaction) : PyError → Prop where
  | fault {error : PyError} (faults : server.faults error = true) :
      EventRefusal server base connection row wal error
  | nullSource {text : String} (null : server.postgres.varchar row.source = .null) :
      EventRefusal server base connection row wal (.integrityError none text)
  | duplicate
      (recorded : (((replay base wal).writeAll connection.writes).event
        row.eventId).isSome) :
      EventRefusal server base connection row wal (violation "shipment_events_pkey")
  | orphan
      (missing : (((replay base wal).writeAll connection.writes).shipment
        row.shipmentId).isSome = false) :
      EventRefusal server base connection row wal
        (violation "shipment_events_shipment_id_fkey")

theorem EventRefusal.refusable {request : Request} {row : ShipmentEventModel}
    {wal : List Transaction} {error : PyError}
    (refusal : EventRefusal server base connection row wal error)
    (parent : request.isReception = true →
      (((replay base wal).writeAll connection.writes).shipment
        row.shipmentId).isSome) :
    Refusable server base request error := by
  cases refusal with
  | fault faults => exact Refusable.of_fault faults
  | nullSource null =>
      intro _ _ constraint text equality
      cases equality
  | duplicate recorded =>
      intro _ _ constraint text equality
      cases equality
      exact .inr rfl
  | orphan missing =>
      intro reception _ constraint text _
      rw [parent reception] at missing
      cases missing

theorem holds_insertEvent {row : ShipmentEventModel}
    {post : Contract.Post PyError Session World Unit}
    (lasting : Lasting base quiet process assertion)
    (mine : Mine process connection assertion world)
    (parent : (requests process).isReception = true → ∀ before, assertion before →
      (((replay base before.wal).writeAll connection.writes).shipment
        row.shipmentId).isSome)
    (returned : ∀ after,
      Mine process (connection.append (.insertEvent (server.postgres.eventRow row)))
        (fun world => assertion world ∧ (process, .eventKey row.eventId) ∈ world.locks)
        after → post (.ok ()) session after)
    (raised : ∀ error after, EventRefusal server base connection row after.wal error →
      Mine process (connection.raise error) assertion after →
        post (.error error) session after) :
    (storeContract server base quiet requests process).holds (call (.insertEvent row)) post
      session world := by
  refine holds_plain (fun _ => rfl) lasting mine
    (fun error after faults => raised error after (.fault faults)) ?_
  intro before choice reply after proper held kept acted
  cases choice with
  | fault error => exact absurd rfl (proper error)
  | proceed =>
      have visible := World.visible_eq kept held
      simp only [Server.execute, Server.proceed, Server.insertEvent] at acted
      split at acted
      · rename_i null
        cases acted
        have refusal : EventRefusal server base connection row before.wal
            (.integrityError none "null value in column \"source\"") := .nullSource null
        refine ⟨Step.refl kept, ?_, raised _ _ refusal (held.raise lasting _)⟩
        rintro error ⟨⟩
        exact refusal.refusable (fun reception => parent reception before held.lasts)
      rcases insertRow_cases acted with
        ⟨key, member, present, rfl, rfl⟩ | ⟨reference, member, missing, rfl, rfl⟩ |
          ⟨rfl, rfl, free⟩
      · cases List.mem_singleton.mp member
        rw [visible] at present
        have refusal : EventRefusal server base connection row after.wal
            (violation "shipment_events_pkey") := .duplicate present
        refine ⟨Step.refl kept, ?_, raised _ _ refusal (held.raise lasting _)⟩
        rintro error ⟨⟩
        exact refusal.refusable (fun reception => parent reception after held.lasts)
      · cases List.mem_singleton.mp member
        rw [visible] at missing
        have refusal : EventRefusal server base connection row after.wal
            (violation "shipment_events_shipment_id_fkey") := .orphan missing
        refine ⟨Step.refl kept, ?_, raised _ _ refusal (held.raise lasting _)⟩
        rintro error ⟨⟩
        exact refusal.refusable (fun reception => parent reception after held.lasts)
      · refine ⟨Step.insert kept free (by simp [eventKeys]) (by simp [eventKeys]) ?_,
          by simp, returned _ ?_⟩
        · refine ⟨by simp [eventKeys], ?_⟩
          have absent := (free _ List.mem_cons_self).2
          rw [visible] at absent
          exact Database.event_eq_none_of_writeAll absent
        · exact ((held.hold lasting _).append (lasting.and (Lasting.locks _)) _).weaken
            (fun holds => ⟨holds.1, holds.2 _ (by simp [eventKeys, Postgres.eventRow])⟩)
  | _ => cases acted

end Rules

end Freight
