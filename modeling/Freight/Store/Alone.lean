/-
Module: Freight.Store.Alone
Purpose: Each statement of a process that is alone on a server whose environment
  raises nothing: it never waits, and what it answers and leaves is determined.
Trusted boundary: none
Main exports:
  Server.Faultless, Server.calm, Server.run_calm_iff, Alone, Closed, ends_statement,
  ends_selectShipment, ends_selectEventId, ends_insertEvent, ends_insertOutbox,
  ends_updateShipment, ends_uuid4, ends_now, ends_observe, ends_respond,
  ends_session_rollback, ends_flush_clean, ends_transaction
-/
import Freight.Interaction.Solo
import Freight.Store.UnitOfWork

namespace Freight

open Interaction (ProcessId Contract Computation)

/-- An environment that raises nothing of its own. -/
def Server.Faultless (server : Server) : Prop := ∀ error, server.faults error = false

/-- The same server, with an environment that raises nothing. -/
def Server.calm (server : Server) : Server := { server with faults := fun _ => false }

theorem Server.calm_faultless (server : Server) : server.calm.Faultless := fun _ => rfl

theorem Server.first_calm (server : Server) (rows : List OutboxEventModel) :
    server.calm.first rows = server.first rows := by
  induction rows with
  | nil => rfl
  | cons row rows inductionHypothesis =>
      simp only [Server.first, inductionHypothesis]
      rfl

/-- What a statement does when it goes through has nothing to do with faults. -/
theorem Server.proceed_calm (server : Server) (process : ProcessId) (statement : Statement)
    (world : World) :
    server.calm.proceed process statement world = server.proceed process statement world := by
  cases statement with
  | claimOutbox now =>
      simp only [Server.proceed, Server.first_calm]
      rfl
  | _ => rfl

/-- A choice by which the environment raises something of its own. -/
def Choice.isFault : Choice → Bool
  | .fault _ => true
  | _ => false

theorem Server.perform_calm (server : Server) (process : ProcessId) (statement : Statement)
    {choice : Choice} (proper : choice.isFault = false) (world : World) :
    server.calm.perform process statement choice world =
      server.perform process statement choice world := by
  cases choice with
  | fault error => cases proper
  | proceed => simp only [Server.perform, Server.execute, Server.proceed_calm]
  | uuid id => rfl
  | time value => rfl

/-- A run without faults is a run of the calm server, and the other way round. -/
theorem Server.run_calm_iff {server : Server} {process : ProcessId} {α : Type}
    {program : Interaction.Program Statement (fun op => Except PyError (Reply op)) α} :
    ∀ {choices : List Choice} {world after : World} {value : α},
      program.run (server.calm.perform process) choices world = some (value, after) ↔
        (∀ choice ∈ choices, choice.isFault = false) ∧
          program.run (server.perform process) choices world = some (value, after) := by
  induction program with
  | done value =>
      intro choices world after result
      cases choices with
      | nil => simp [Interaction.Program.run]
      | cons choice choices => simp [Interaction.Program.run]
  | perform op resume inductionHypothesis =>
      intro choices world after result
      cases choices with
      | nil => simp [Interaction.Program.run]
      | cons choice choices =>
          rw [List.forall_mem_cons]
          simp only [Interaction.Program.run]
          cases fault : choice.isFault with
          | true =>
              have impossible : server.calm.perform process op choice world = none := by
                cases choice with
                | fault error => rfl
                | _ => cases fault
              simp [impossible]
          | false =>
              rw [server.perform_calm process op fault world]
              cases server.perform process op choice world with
              | none => simp
              | some outcome => simpa using inductionHypothesis outcome.1

/-- A process that has been alone since `start`, seen from the server: its
connection, the identifiers it has drawn since, and no lock but its own. -/
structure Alone (start : World) (process : ProcessId) (drawn : List (ProcessId × UUID))
    (connection : Connection) (world : World) : Prop where
  base : world.base = start.base
  wal : world.wal = start.wal
  uuids : world.uuids = drawn ++ start.uuids
  connection : world.connection process = connection
  locks : ∀ held ∈ world.locks, held.1 = process

/-- What a process leaves behind that was alone from its beginning to its end: the
log with its transactions, and no lock. -/
structure Closed (start : World) (process : ProcessId) (log : List Transaction)
    (world : World) : Prop where
  base : world.base = start.base
  wal : world.wal = start.wal ++ log
  uuids : ∃ drawn, world.uuids = drawn ++ start.uuids
  writes : world.writes process = []
  locks : world.locks = []

section Rules

variable {server : Server} {start world : World} {process : ProcessId}
  {drawn : List (ProcessId × UUID)} {connection : Connection} {session : Session}

namespace Alone

theorem database (alone : Alone start process drawn connection world) :
    world.database = start.database := by
  rw [World.database, alone.base, alone.wal, World.database]

theorem visible (alone : Alone start process drawn connection world) :
    world.visible process = start.database.writeAll connection.writes := by
  rw [World.visible, alone.database]
  exact congrArg (fun known => start.database.writeAll (Connection.writes known))
    alone.connection

theorem heldByOther (alone : Alone start process drawn connection world) (lock : Lock) :
    world.heldByOther process lock = false := by
  rw [World.heldByOther, List.any_eq_false]
  intro held member
  simp [alone.locks held member]

/-- Keys that are free can be inserted. -/
theorem checkKeys (alone : Alone start process drawn connection world)
    {keys : List UniqueKey} (free : ∀ key ∈ keys, key.present = false) :
    Freight.checkKeys world process keys = .free := by
  induction keys with
  | nil => rfl
  | cons key keys inductionHypothesis =>
      rw [Freight.checkKeys, alone.heldByOther, free key List.mem_cons_self]
      exact inductionHypothesis fun other member => free other (List.mem_cons_of_mem _ member)

theorem note (alone : Alone start process drawn connection world) (read : Read) :
    Alone start process drawn (connection.note read) (world.note process read) where
  base := alone.base
  wal := alone.wal
  uuids := alone.uuids
  connection := by
    rw [← alone.connection]
    simp [World.connection, World.note, Connection.note]
  locks := alone.locks

theorem raise (alone : Alone start process drawn connection world) (error : PyError) :
    Alone start process drawn (connection.raise error) (world.raise process error) where
  base := alone.base
  wal := alone.wal
  uuids := alone.uuids
  connection := by
    rw [← alone.connection]
    simp [World.connection, World.raise, Connection.raise]
  locks := alone.locks

theorem append (alone : Alone start process drawn connection world) (locks : List Lock)
    (write : Write) :
    Alone start process drawn (connection.append write)
      ((world.hold process locks).append process write) where
  base := alone.base
  wal := alone.wal
  uuids := alone.uuids
  connection := by
    rw [← alone.connection]
    simp [World.connection, World.append, World.hold, Connection.append]
  locks := by
    intro held member
    rcases List.mem_append.mp member with mine | earlier
    · obtain ⟨lock, -, rfl⟩ := List.mem_map.mp mine
      rfl
    · exact alone.locks held earlier

theorem answer (alone : Alone start process drawn connection world)
    (response : HttpResponse) :
    Alone start process drawn { connection with response := some response }
      (world.answer process response) where
  base := alone.base
  wal := alone.wal
  uuids := alone.uuids
  connection := by
    rw [← alone.connection]
    simp [World.connection, World.answer]
  locks := alone.locks

theorem issue (alone : Alone start process drawn connection world) (id : UUID) :
    Alone start process ((process, id) :: drawn) connection (world.issue process id) where
  base := alone.base
  wal := alone.wal
  uuids := by simp [World.issue, alone.uuids]
  connection := alone.connection
  locks := alone.locks

theorem discard (alone : Alone start process drawn connection world) :
    Alone start process drawn connection.ended (world.discard process) where
  base := alone.base
  wal := alone.wal
  uuids := alone.uuids
  connection := by
    rw [← alone.connection]
    simp [World.connection, World.discard, Connection.ended]
  locks := fun held member => alone.locks held (List.mem_of_mem_filter member)

/-- The end of a process that has not committed. -/
theorem close (alone : Alone start process drawn connection world) :
    Closed start process [] (world.discard process) where
  base := alone.base
  wal := by rw [List.append_nil]; exact alone.wal
  uuids := ⟨drawn, alone.uuids⟩
  writes := by simp [World.discard]
  locks := by
    rw [World.discard, List.filter_eq_nil_iff]
    intro held member
    simp [alone.locks held member]

/-- A commit, and the end of the process after it. -/
theorem commit (alone : Alone start process drawn connection world) :
    Closed start process [{ toConnection := connection, process := process }]
      (world.commit process) where
  base := alone.base
  wal := by
    rw [← alone.connection, ← alone.wal]
    rfl
  uuids := ⟨drawn, alone.uuids⟩
  writes := alone.close.writes
  locks := alone.close.locks

end Alone

theorem Closed.database {log : List Transaction} (closed : Closed start process log world) :
    world.database = replay start.database log := by
  rw [World.database, closed.base, closed.wal, World.database, replay_append]

theorem Closed.discard {log : List Transaction} (closed : Closed start process log world) :
    Closed start process log (world.discard process) where
  base := closed.base
  wal := closed.wal
  uuids := closed.uuids
  writes := by simp [World.discard]
  locks := by rw [World.discard, closed.locks]; rfl

/-! ## Statements -/

/-- The rule for every statement but `uuid4` and `now`: what the server does when it
proceeds is all that can happen. -/
theorem ends_statement {statement : Statement}
    {post : Contract.Post PyError Session World (Reply statement)}
    {answer : Except PyError (Reply statement)} {after : World}
    (faultless : server.Faultless)
    (proceeds : server.proceed process statement world = some (answer, after))
    (established : post answer session (after.settle process answer)) :
    (call statement).ends (server.perform process) post session world := by
  apply Computation.ends_call
  · exact ⟨.proceed, answer, after.settle process answer, by
      simp [Server.perform, Server.execute, proceeds]⟩
  · intro choice other reached performed
    cases choice with
    | proceed =>
        simp only [Server.perform, Server.execute, proceeds, Option.map_some,
          Option.some.injEq, Prod.mk.injEq] at performed
        obtain ⟨rfl, rfl⟩ := performed
        exact established
    | fault error => simp [Server.perform, Server.execute, faultless error] at performed
    | uuid id =>
        cases statement with
        | uuid4 => cases proceeds
        | _ => cases performed
    | time value =>
        cases statement with
        | now => cases proceeds
        | _ => cases performed

theorem ends_observe {post : Contract.Post PyError Session World Unit}
    (faultless : server.Faultless) (established : post (.ok ()) session world) :
    (call .observe).ends (server.perform process) post session world :=
  ends_statement faultless rfl established

theorem ends_selectShipment {id : UUID}
    {post : Contract.Post PyError Session World (Option ShipmentModel)}
    (faultless : server.Faultless) (alone : Alone start process drawn connection world)
    (established : ∀ after,
      Alone start process drawn
        (connection.note (.shipment start.wal.length
          ((start.database.writeAll connection.writes).shipment id))) after →
      post (.ok ((start.database.writeAll connection.writes).shipment id)) session after) :
    (call (.selectShipment id)).ends (server.perform process) post session world := by
  refine ends_statement faultless rfl ?_
  have noted := alone.note (.shipment world.wal.length ((world.visible process).shipment id))
  rw [alone.visible, alone.wal] at noted ⊢
  exact established _ noted

theorem ends_selectEventId {eventId : UUID}
    {post : Contract.Post PyError Session World (Option UUID)}
    (faultless : server.Faultless) (alone : Alone start process drawn connection world)
    (established : ∀ after,
      Alone start process drawn
        (connection.note (.event start.wal.length
          ((start.database.writeAll connection.writes).event eventId).isSome)) after →
      post (.ok (((start.database.writeAll connection.writes).event eventId).map
        ShipmentEventModel.eventId)) session after) :
    (call (.selectEventId eventId)).ends (server.perform process) post session world := by
  refine ends_statement faultless rfl ?_
  have noted := alone.note
    (.event world.wal.length ((world.visible process).event eventId).isSome)
  rw [alone.visible, alone.wal] at noted ⊢
  exact established _ noted

/-- An insert whose keys are free and whose references are there. -/
theorem insertRow_alone (alone : Alone start process drawn connection world)
    {keys : List UniqueKey} {references : List ForeignKey} (write : Write)
    (free : ∀ key ∈ keys, key.present = false)
    (referred : ∀ reference ∈ references, reference.present = true) :
    insertRow process keys references write world =
      some (.ok (), (world.hold process (keys.map UniqueKey.lock)).append process write) := by
  have resolved : (references.find? fun reference => !reference.present) = none := by
    rw [List.find?_eq_none]
    intro reference member
    simp [referred reference member]
  simp only [insertRow, alone.checkKeys free, resolved]

theorem ends_insertEvent {row : ShipmentEventModel}
    {post : Contract.Post PyError Session World Unit} (faultless : server.Faultless)
    (alone : Alone start process drawn connection world)
    (source : server.postgres.varchar row.source ≠ .null)
    (fresh : (start.database.writeAll connection.writes).event row.eventId = none)
    (parent : ((start.database.writeAll connection.writes).shipment row.shipmentId).isSome)
    (established : ∀ after,
      Alone start process drawn
        (connection.append (.insertEvent (server.postgres.eventRow row))) after →
      post (.ok ()) session after) :
    (call (.insertEvent row)).ends (server.perform process) post session world := by
  have free : ∀ key ∈ eventKeys (world.visible process) (server.postgres.eventRow row),
      key.present = false := by
    rw [alone.visible]
    simp [eventKeys, Postgres.eventRow, fresh]
  have referred : ∀ reference ∈
      eventReferences (world.visible process) (server.postgres.eventRow row),
      reference.present = true := by
    rw [alone.visible]
    simp [eventReferences, Postgres.eventRow, parent]
  have proceeds : server.proceed process (.insertEvent row) world =
      some (.ok (), (world.hold process
        ((eventKeys (world.visible process) (server.postgres.eventRow row)).map
          UniqueKey.lock)).append process (.insertEvent (server.postgres.eventRow row))) := by
    rw [Server.proceed, Server.insertEvent, if_neg (by exact source)]
    exact insertRow_alone alone _ free referred
  exact ends_statement faultless proceeds (established _ (alone.append _ _))

/-- An event whose source is null is refused. -/
theorem ends_insertEvent_null {row : ShipmentEventModel}
    {post : Contract.Post PyError Session World Unit} (faultless : server.Faultless)
    (alone : Alone start process drawn connection world)
    (source : server.postgres.varchar row.source = .null)
    (established : ∀ after connection, Alone start process drawn connection after →
      post (.error (.integrityError none "null value in column \"source\"")) session after) :
    (call (.insertEvent row)).ends (server.perform process) post session world := by
  refine ends_statement faultless ?_ (established _ _ (alone.raise _))
  rw [Server.proceed, Server.insertEvent, if_pos (by exact source)]
  rfl

theorem ends_insertOutbox {row : OutboxEventModel}
    {post : Contract.Post PyError Session World Unit} (faultless : server.Faultless)
    (alone : Alone start process drawn connection world)
    (free : (start.database.writeAll connection.writes).outbox row.id = none)
    (unannounced : ∀ other ∈ (start.database.writeAll connection.writes).outboxEvents,
      other.eventId ≠ row.eventId)
    (parent : ((start.database.writeAll connection.writes).event row.eventId).isSome)
    (established : ∀ after,
      Alone start process drawn
        (connection.append (.insertOutbox (server.postgres.outboxRow row))) after →
      post (.ok ()) session after) :
    (call (.insertOutbox row)).ends (server.perform process) post session world := by
  have freeKeys : ∀ key ∈ outboxKeys (world.visible process) (server.postgres.outboxRow row),
      key.present = false := by
    rw [alone.visible]
    simp only [outboxKeys, Postgres.outboxRow, List.mem_cons, List.not_mem_nil, or_false,
      forall_eq_or_imp, forall_eq, free, Option.isSome_none, true_and, List.any_eq_false]
    intro other member
    simp [unannounced other member]
  have referred : ∀ reference ∈
      outboxReferences (world.visible process) (server.postgres.outboxRow row),
      reference.present = true := by
    rw [alone.visible]
    simp [outboxReferences, Postgres.outboxRow, parent]
  have proceeds : server.proceed process (.insertOutbox row) world =
      some (.ok (), (world.hold process
        ((outboxKeys (world.visible process) (server.postgres.outboxRow row)).map
          UniqueKey.lock)).append process (.insertOutbox (server.postgres.outboxRow row))) :=
    insertRow_alone alone _ freeKeys referred
  exact ends_statement faultless proceeds (established _ (alone.append _ _))

theorem ends_updateShipment {id : UUID} {patch : ShipmentPatch}
    {post : Contract.Post PyError Session World Unit} (faultless : server.Faultless)
    (alone : Alone start process drawn connection world)
    (present : ((start.database.writeAll connection.writes).shipment id).isSome)
    (established : ∀ after,
      Alone start process drawn
        (connection.append (.updateShipment id (server.postgres.shipmentPatch patch))) after →
      post (.ok ()) session after) :
    (call (.updateShipment id patch)).ends (server.perform process) post session world := by
  have updated : server.proceed process (.updateShipment id patch) world =
      some (.ok (), (world.hold process [.shipmentRow id]).append process
        (.updateShipment id (server.postgres.shipmentPatch patch))) := by
    simp only [Server.proceed, updateRow, alone.heldByOther, alone.visible, present, if_true,
      Bool.false_eq_true, if_false]
    rfl
  exact ends_statement faultless updated (established _ (alone.append _ _))

/-- `uuid4()` hands out an identifier that was not in use. -/
theorem ends_uuid4 {post : Contract.Post PyError Session World UUID}
    (faultless : server.Faultless) (alone : Alone start process drawn connection world)
    (spare : ∃ id, world.issued id = false)
    (established : ∀ id after, world.issued id = false →
      Alone start process ((process, id) :: drawn) connection after →
        post (.ok id) session after) :
    (call .uuid4).ends (server.perform process) post session world := by
  apply Computation.ends_call
  · obtain ⟨id, unused⟩ := spare
    exact ⟨.uuid id, .ok id, world.issue process id, by
      simp [Server.perform, Server.execute, Server.drawUuid, unused, World.settle]⟩
  · intro choice answer after performed
    cases choice with
    | proceed => cases performed
    | fault error => simp [Server.perform, Server.execute, faultless error] at performed
    | time value => cases performed
    | uuid id =>
        simp only [Server.perform, Server.execute, Server.drawUuid] at performed
        split at performed
        · cases performed
        · rename_i unused
          cases performed
          exact established id _ (by simpa using unused) (alone.issue id)

theorem ends_now {post : Contract.Post PyError Session World DateTime}
    (faultless : server.Faultless)
    (established : ∀ value, value.utcoffset = some 0 → post (.ok value) session world) :
    (call .now).ends (server.perform process) post session world := by
  apply Computation.ends_call
  · exact ⟨.time (.utc 0), .ok (.utc 0), world, rfl⟩
  · intro choice answer after performed
    cases choice with
    | proceed => cases performed
    | fault error => simp [Server.perform, Server.execute, faultless error] at performed
    | uuid id => cases performed
    | time value =>
        simp only [Server.perform, Server.execute, Server.readClock] at performed
        split at performed
        · rename_i utc
          cases performed
          exact established value utc
        · cases performed

theorem ends_respond {response : HttpResponse} {post : Contract.Post PyError Session World Unit}
    (faultless : server.Faultless) (alone : Alone start process drawn connection world)
    (established : ∀ after,
      Alone start process drawn { connection with response := some response } after →
        post (.ok ()) session after) :
    (call (.respond response)).ends (server.perform process) post session world :=
  ends_statement faultless rfl (established _ (alone.answer response))

/-! ## The session -/

theorem ends_session_rollback {post : Contract.Post PyError Session World Unit}
    (faultless : server.Faultless) (alone : Alone start process drawn connection world)
    (established : ∀ after, Alone start process drawn connection.ended after →
      post (.ok ()) {} after) :
    Session.rollback.ends (server.perform process) post session world := by
  apply Computation.ends_bind
  refine ends_statement faultless rfl ?_
  exact Computation.ends_modify (established _ alone.discard)

variable {act : Interaction.Program.Interpreter Statement
  (fun op => Except PyError (Reply op)) World Choice}

theorem ends_flushNewShipments_nil {post : Contract.Post PyError Session World Unit}
    (none : session.newShipments = []) (established : post (.ok ()) session world) :
    Session.flushNewShipments.ends act post session world := by
  obtain ⟨shipments, outboxEvents, newShipments, newEvents, newOutboxEvents⟩ := session
  cases none
  exact Computation.ends_bind (Computation.ends_read
    (Computation.ends_bind (Computation.ends_forEach_nil established)))

theorem ends_flushNewEvents_nil {post : Contract.Post PyError Session World Unit}
    (none : session.newEvents = []) (established : post (.ok ()) session world) :
    Session.flushNewEvents.ends act post session world := by
  obtain ⟨shipments, outboxEvents, newShipments, newEvents, newOutboxEvents⟩ := session
  cases none
  exact Computation.ends_bind (Computation.ends_read
    (Computation.ends_bind (Computation.ends_forEach_nil established)))

theorem ends_updateOutbox_clean {objects : List (Tracked OutboxEventModel)}
    {post : Contract.Post PyError Session World Unit}
    (clean : ∀ tracked ∈ objects, tracked.assigned = none)
    (established : post (.ok ()) session world) :
    (Interaction.Computation.forEach Session.updateOutbox objects).ends
      act post session world := by
  induction objects with
  | nil => exact Computation.ends_forEach_nil established
  | cons tracked objects inductionHypothesis =>
      apply Computation.ends_forEach_cons
      simp only [Session.updateOutbox, clean tracked List.mem_cons_self]
      exact inductionHypothesis fun other member => clean other (List.mem_cons_of_mem _ member)

theorem ends_flushNewOutboxEvents_nil {post : Contract.Post PyError Session World Unit}
    (none : session.newOutboxEvents = []) (established : post (.ok ()) session world) :
    Session.flushNewOutboxEvents.ends act post session world := by
  obtain ⟨shipments, outboxEvents, newShipments, newEvents, newOutboxEvents⟩ := session
  cases none
  exact Computation.ends_bind (Computation.ends_read
    (Computation.ends_bind (Computation.ends_forEach_nil established)))

/-- Flushing a clean session does nothing. -/
theorem ends_flush_clean {post : Contract.Post PyError Session World Unit}
    (clean : session.Clean) (established : post (.ok ()) session world) :
    Session.flush.ends act post session world := by
  have same : session =
      { session with
        shipments := []
        outboxEvents := session.outboxEvents.map Tracked.flushed } := by
    rw [← clean.shipments, Tracked.map_flushed_of_clean clean.outboxEvents]
  apply Computation.ends_bind
  apply Computation.ends_read
  apply Computation.ends_bind
  apply ends_updateOutbox_clean clean.outboxEvents
  apply Computation.ends_bind
  apply ends_flushNewOutboxEvents_nil clean.newOutboxEvents
  apply Computation.ends_bind
  rw [clean.shipments]
  apply Computation.ends_forEach_nil
  apply Computation.ends_bind
  apply ends_flushNewShipments_nil clean.newShipments
  apply Computation.ends_bind
  apply ends_flushNewEvents_nil clean.newEvents
  apply Computation.ends_modify
  rw [← same]
  exact established

/-! ## The owner of a transaction -/

/-- The shape that `get_db` and `handle_event` share, around a body whose flush
leaves a connection to commit, or which raises. -/
theorem ends_transaction {α : Type} {body : Py α}
    {post : Contract.Post PyError Session World α} (faultless : server.Faultless)
    (verified : body.ends (server.perform process)
      (Contract.Post.on
        (fun value => Session.flush.ends (server.perform process)
          (Contract.Post.on
            (fun _ _ reached => ∃ drawn connection,
              Alone start process drawn connection reached ∧
                ∀ session after, Closed start process
                    [{ toConnection := connection, process := process }] after →
                  post (.ok value) session after)
            (fun _ _ _ => False)))
        (fun error _ reached => ∃ drawn connection,
          Alone start process drawn connection reached ∧
            ∀ session after, Closed start process [] after →
              post (.error error) session after))
      session world) :
    (transaction body).ends (server.perform process) post session world := by
  apply Computation.ends_onExit
  apply Computation.ends_tryExcept
  apply Computation.ends_bind
  refine Computation.ends_mono verified ?_
  intro outcome last reached established
  cases outcome with
  | error error =>
      obtain ⟨drawn, connection, alone, raised⟩ := established
      simp only [Contract.Post.on]
      apply Computation.ends_bind
      refine ends_session_rollback faultless alone fun after ended => ?_
      simp only [Contract.Post.on]
      apply Computation.ends_bind
      refine ends_observe faultless ?_
      simp only [Contract.Post.on]
      apply Computation.ends_raise
      exact ends_statement faultless rfl (raised _ _ ended.close)
  | ok value =>
      refine Computation.ends_bind (Computation.ends_bind ?_)
      refine Computation.ends_mono established ?_
      intro flushed final flushedWorld ready
      cases flushed with
      | error error => cases ready
      | ok done =>
          obtain ⟨drawn, connection, alone, answered⟩ := ready
          refine ends_statement faultless rfl ?_
          simp only [Contract.Post.on]
          apply Computation.ends_bind
          refine ends_observe faultless ?_
          simp only [Contract.Post.on]
          apply Computation.ends_pure
          exact ends_statement faultless rfl (answered _ _ alone.commit.discard)

end Rules

end Freight
