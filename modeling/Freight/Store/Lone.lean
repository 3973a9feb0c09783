/-
Module: Freight.Store.Lone
Purpose: Each statement of a process that is the only one on the server, in terms of the
  tables as the process sees them.
Trusted boundary: none
Main exports:
  Lone, Lone.holds_selectShipment, Lone.holds_insertShipment, Lone.holds_uuid4,
  Lone.holds_commit, Tracked.writes, Lone.holds_flush
-/
import Freight.Store.Alone
import Freight.Store.Repositories

namespace Freight

open Interaction (ProcessId Contract Computation)

/-- The only process on the server, with the tables as it sees them and the identifiers
that have been handed out. -/
structure Lone (process : ProcessId) (database : Database) (issued : UUID → Bool)
    (world : World) : Prop where
  visible : world.visible process = database
  issued : world.issued = issued
  locks : ∀ held ∈ world.locks, held.1 = process

namespace Lone

variable {server : Server} {process : ProcessId} {database : Database} {issued : UUID → Bool}
  {start world : World} {session : Session}

theorem alone (lone : Lone process database issued world) :
    Alone world process [] (world.connection process) world where
  base := rfl
  wal := rfl
  uuids := rfl
  connection := rfl
  locks := lone.locks

/-- What a process that is alone has written is what it sees. -/
theorem of_alone (lone : Lone process database issued start) {connection : Connection}
    (alone : Alone start process [] connection world) {writes : List Write}
    (written : connection.writes = start.writes process ++ writes) :
    Lone process (database.writeAll writes) issued world where
  visible := by
    rw [alone.visible, written, Database.writeAll_append, ← lone.visible]
    rfl
  issued := by
    rw [← lone.issued]
    funext id
    simp only [World.issued, alone.base, alone.uuids, List.nil_append]
  locks := alone.locks

/-! ## Statements -/

theorem holds_selectShipment {id : UUID}
    {post : Contract.Post PyError Session World (Option ShipmentModel)}
    (faultless : server.Faultless) (lone : Lone process database issued world)
    (established : ∀ after, Lone process database issued after →
      post (.ok (database.shipment id)) session after) :
    (Contract.alone (server.perform process)).holds (call (.selectShipment id)) post session
      world := by
  refine Computation.ends.holds (ends_selectShipment faultless lone.alone ?_)
  intro after alone
  have seen : (world.database.writeAll (world.connection process).writes) = database :=
    lone.visible
  rw [seen] at alone ⊢
  exact established after (lone.of_alone alone (List.append_nil _).symm)

theorem holds_selectEventId {eventId : UUID}
    {post : Contract.Post PyError Session World (Option UUID)}
    (faultless : server.Faultless) (lone : Lone process database issued world)
    (established : ∀ after, Lone process database issued after →
      post (.ok ((database.event eventId).map ShipmentEventModel.eventId)) session after) :
    (Contract.alone (server.perform process)).holds (call (.selectEventId eventId)) post session
      world := by
  refine Computation.ends.holds (ends_selectEventId faultless lone.alone ?_)
  intro after alone
  have seen : (world.database.writeAll (world.connection process).writes) = database :=
    lone.visible
  rw [seen] at alone ⊢
  exact established after (lone.of_alone alone (List.append_nil _).symm)

theorem holds_observe {post : Contract.Post PyError Session World Unit}
    (faultless : server.Faultless) (established : post (.ok ()) session world) :
    (Contract.alone (server.perform process)).holds (call .observe) post session world :=
  Computation.ends.holds (ends_observe faultless established)

theorem holds_now {post : Contract.Post PyError Session World DateTime}
    (faultless : server.Faultless)
    (established : ∀ value, value.utcoffset = some 0 → post (.ok value) session world) :
    (Contract.alone (server.perform process)).holds (call .now) post session world :=
  Computation.ends.holds (ends_now faultless established)

/-- `uuid4()` hands out an identifier that was not in use. -/
theorem holds_uuid4 {post : Contract.Post PyError Session World UUID}
    (faultless : server.Faultless) (lone : Lone process database issued world)
    (established : ∀ id after, issued id = false →
      Lone process database (fun other => issued other || decide (id = other)) after →
        post (.ok id) session after) :
    (Contract.alone (server.perform process)).holds (call .uuid4) post session world := by
  rintro moved rfl - choice answer after performed
  refine ⟨trivial, trivial, ?_⟩
  cases choice with
  | proceed => cases performed
  | fault error =>
      simp [Contract.alone, Server.perform, Server.execute, faultless error] at performed
  | time value => cases performed
  | uuid id =>
      simp only [Contract.alone, Server.perform, Server.execute, Server.drawUuid] at performed
      split at performed
      · cases performed
      · rename_i unused
        cases performed
        refine established id _ (lone.issued ▸ by simpa using unused) ?_
        exact
          { visible := lone.visible
            issued := by
              rw [← lone.issued]
              funext other
              simp [World.settle, World.issued, World.issue, Bool.or_comm, Bool.or_left_comm]
            locks := lone.locks }

/-- An insert whose keys are free. -/
theorem holds_insertShipment {row : ShipmentModel}
    {post : Contract.Post PyError Session World Unit} (faultless : server.Faultless)
    (lone : Lone process database issued world) (fresh : database.shipment row.id = none)
    (unused : ∀ other ∈ database.shipments, other.referenceNumber ≠ row.referenceNumber)
    (established : ∀ after,
      Lone process (database.write (.insertShipment (server.postgres.shipmentRow row))) issued
        after →
      post (.ok ()) session after) :
    (Contract.alone (server.perform process)).holds (call (.insertShipment row)) post session
      world := by
  have free : ∀ key ∈ shipmentKeys (world.visible process) (server.postgres.shipmentRow row),
      key.present = false := by
    rw [lone.visible]
    simpa [shipmentKeys, Postgres.shipmentRow, fresh] using unused
  have referred : ∀ reference ∈ ([] : List ForeignKey), reference.present = true := by simp
  have proceeds : server.proceed process (.insertShipment row) world =
      some (.ok (), (world.hold process
        ((shipmentKeys (world.visible process) (server.postgres.shipmentRow row)).map
          UniqueKey.lock)).append process
            (.insertShipment (server.postgres.shipmentRow row))) :=
    insertRow_alone lone.alone _ free referred
  refine Computation.ends.holds (ends_statement faultless proceeds ?_)
  exact established _ (lone.of_alone
    (lone.alone.append _ (.insertShipment (server.postgres.shipmentRow row))) rfl)

theorem holds_insertEvent {row : ShipmentEventModel}
    {post : Contract.Post PyError Session World Unit} (faultless : server.Faultless)
    (lone : Lone process database issued world)
    (source : server.postgres.varchar row.source ≠ .null)
    (fresh : database.event row.eventId = none)
    (parent : (database.shipment row.shipmentId).isSome)
    (established : ∀ after,
      Lone process (database.write (.insertEvent (server.postgres.eventRow row))) issued after →
      post (.ok ()) session after) :
    (Contract.alone (server.perform process)).holds (call (.insertEvent row)) post session
      world := by
  have seen : (world.database.writeAll (world.connection process).writes) = database :=
    lone.visible
  refine Computation.ends.holds
    (ends_insertEvent faultless lone.alone source (by rw [seen]; exact fresh)
      (by rw [seen]; exact parent) ?_)
  intro after alone
  exact established after (lone.of_alone alone rfl)

theorem holds_insertOutbox {row : OutboxEventModel}
    {post : Contract.Post PyError Session World Unit} (faultless : server.Faultless)
    (lone : Lone process database issued world) (free : database.outbox row.id = none)
    (unannounced : ∀ other ∈ database.outboxEvents, other.eventId ≠ row.eventId)
    (parent : (database.event row.eventId).isSome)
    (established : ∀ after,
      Lone process (database.write (.insertOutbox (server.postgres.outboxRow row))) issued
        after →
      post (.ok ()) session after) :
    (Contract.alone (server.perform process)).holds (call (.insertOutbox row)) post session
      world := by
  have seen : (world.database.writeAll (world.connection process).writes) = database :=
    lone.visible
  refine Computation.ends.holds
    (ends_insertOutbox faultless lone.alone (by rw [seen]; exact free)
      (by rw [seen]; exact unannounced) (by rw [seen]; exact parent) ?_)
  intro after alone
  exact established after (lone.of_alone alone rfl)

theorem holds_updateShipment {id : UUID} {patch : ShipmentPatch}
    {post : Contract.Post PyError Session World Unit} (faultless : server.Faultless)
    (lone : Lone process database issued world) (present : (database.shipment id).isSome)
    (established : ∀ after,
      Lone process (database.write (.updateShipment id (server.postgres.shipmentPatch patch)))
        issued after →
      post (.ok ()) session after) :
    (Contract.alone (server.perform process)).holds (call (.updateShipment id patch)) post
      session world := by
  have seen : (world.database.writeAll (world.connection process).writes) = database :=
    lone.visible
  refine Computation.ends.holds
    (ends_updateShipment faultless lone.alone (by rw [seen]; exact present) ?_)
  intro after alone
  exact established after (lone.of_alone alone rfl)

/-- A commit leaves the tables as the process sees them, for everybody. -/
theorem holds_commit {post : Contract.Post PyError Session World Unit}
    (faultless : server.Faultless) (lone : Lone process database issued world)
    (established : ∀ after, Lone process database issued after →
      after.writes process = [] → post (.ok ()) session after) :
    (Contract.alone (server.perform process)).holds (call .commit) post session world := by
  refine Computation.ends.holds (ends_statement faultless rfl ?_)
  have closed := lone.alone.commit
  refine established (world.commit process) ?_ closed.writes
  exact
    { visible := by
        rw [World.visible, closed.writes, Database.writeAll_nil, closed.database,
          ← lone.visible]
        rfl
      issued := lone.issued
      locks := by
        intro held member
        rw [closed.locks] at member
        cases member }

/-- After a commit there is nothing to roll back. -/
theorem holds_rollback {post : Contract.Post PyError Session World Unit}
    (faultless : server.Faultless) (lone : Lone process database issued world)
    (clean : world.writes process = [])
    (established : ∀ after, Lone process database issued after →
      after.writes process = [] → post (.ok ()) session after) :
    (Contract.alone (server.perform process)).holds (call .rollback) post session world := by
  refine Computation.ends.holds (ends_statement faultless rfl ?_)
  have closed := lone.alone.close
  refine established (world.discard process) ?_ closed.writes
  exact
    { visible := by
        rw [World.visible, closed.writes, closed.database, ← lone.visible,
          World.visible, clean]
        rfl
      issued := lone.issued
      locks := by
        intro held member
        rw [closed.locks] at member
        cases member }

end Lone

/-! ## The unit of work -/

/-- The columns of a loaded shipment that were assigned another value. -/
def Tracked.patch (tracked : Tracked ShipmentModel) : ShipmentPatch :=
  match tracked.assigned with
  | none => {}
  | some current => ShipmentPatch.between tracked.loaded current

/-- What the unit of work writes for a loaded shipment. -/
def Tracked.writes (postgres : Postgres) (tracked : Tracked ShipmentModel) : List Write :=
  if tracked.patch = {} then []
  else [.updateShipment tracked.loaded.id (postgres.shipmentPatch tracked.patch)]

/-- An update of no column changes nothing. -/
theorem Database.updateShipment_empty (postgres : Postgres) (database : Database) (id : UUID) :
    database.write (.updateShipment id (postgres.shipmentPatch {})) = database := by
  have same : ∀ row, (postgres.shipmentPatch {}).applyTo row = row := fun _ => rfl
  simp [write, Table.modify, same]

/-- The tables after the update, whether or not a column has changed. -/
theorem Tracked.writeAll_writes (postgres : Postgres) (tracked : Tracked ShipmentModel)
    (database : Database) :
    database.writeAll (tracked.writes postgres) =
      database.write (.updateShipment tracked.loaded.id
        (postgres.shipmentPatch tracked.patch)) := by
  unfold Tracked.writes
  split
  · rename_i unchanged
    rw [unchanged, Database.updateShipment_empty]
    rfl
  · rfl

/-- Rows that can be enqueued in turn: no key is taken, and every row of the outbox
announces an event of its own that is recorded. -/
structure Database.Accepts (database : Database) (rows : List OutboxEventModel) : Prop where
  ids : ((database.outboxEvents ++ rows).map OutboxEventModel.id).Nodup
  eventIds : ((database.outboxEvents ++ rows).map OutboxEventModel.eventId).Nodup
  recorded : ∀ row ∈ database.outboxEvents ++ rows, (database.event row.eventId).isSome

namespace Database.Accepts

variable {postgres : Postgres} {database : Database} {row : OutboxEventModel}
  {rows : List OutboxEventModel}

theorem free (accepts : database.Accepts (row :: rows)) : database.outbox row.id = none := by
  rw [outbox_eq_none_iff]
  intro taken
  have apart := accepts.ids
  rw [List.map_append, List.nodup_append] at apart
  exact apart.2.2 row.id taken row.id (by simp) rfl

theorem unannounced (accepts : database.Accepts (row :: rows)) :
    ∀ other ∈ database.outboxEvents, other.eventId ≠ row.eventId := by
  intro other member same
  have apart := accepts.eventIds
  rw [List.map_append, List.nodup_append] at apart
  exact apart.2.2 other.eventId (List.mem_map_of_mem member) row.eventId (by simp) same

/-- Enqueuing the first row leaves room for the others. -/
theorem insertOutbox (accepts : database.Accepts (row :: rows)) :
    (database.write (.insertOutbox (postgres.outboxRow row))).Accepts rows where
  ids := by simpa [write, Postgres.outboxRow] using accepts.ids
  eventIds := by simpa [write, Postgres.outboxRow] using accepts.eventIds
  recorded := by
    intro other member
    have recorded := accepts.recorded
    simp only [List.mem_append, List.mem_cons] at recorded
    simp only [write, List.mem_append, List.mem_singleton] at member
    rcases member with (earlier | rfl) | later
    · exact recorded other (.inl earlier)
    · exact recorded row (.inr (.inl rfl))
    · exact recorded other (.inr (.inr later))

end Database.Accepts

namespace Lone

variable {server : Server} {process : ProcessId} {issued : UUID → Bool} {session : Session}

theorem holds_insertOutboxes {post : Contract.Post PyError Session World Unit}
    (faultless : server.Faultless) (rows : List OutboxEventModel) :
    ∀ {database : Database} {world : World}, Lone process database issued world →
      database.Accepts rows →
      (∀ after, Lone process (database.writeAll
          (rows.map fun row => .insertOutbox (server.postgres.outboxRow row))) issued after →
        post (.ok ()) session after) →
      (Contract.alone (server.perform process)).holds
        (Interaction.Computation.forEach (fun row => call (.insertOutbox row)) rows) post
        session world := by
  induction rows with
  | nil => exact fun lone _ established => Contract.holds_forEach_nil (established _ lone)
  | cons row rows inductionHypothesis =>
      intro database world lone accepts established
      apply Contract.holds_forEach_cons
      refine lone.holds_insertOutbox faultless accepts.free accepts.unannounced
        (accepts.recorded row (by simp)) ?_
      intro after inserted
      exact inductionHypothesis inserted accepts.insertOutbox established

theorem holds_updateShipments {post : Contract.Post PyError Session World Unit}
    (faultless : server.Faultless) (objects : List (Tracked ShipmentModel)) :
    ∀ {database : Database} {world : World}, Lone process database issued world →
      (∀ tracked ∈ objects, (database.shipment tracked.loaded.id).isSome) →
      (∀ after, Lone process (database.writeAll
          (objects.flatMap (Tracked.writes server.postgres))) issued after →
        post (.ok ()) session after) →
      (Contract.alone (server.perform process)).holds
        (Interaction.Computation.forEach Session.updateShipment objects) post session
        world := by
  induction objects with
  | nil => exact fun lone _ established => Contract.holds_forEach_nil (established _ lone)
  | cons tracked objects inductionHypothesis =>
      intro database world lone present established
      rw [List.forall_mem_cons] at present
      rw [List.flatMap_cons, Database.writeAll_append] at established
      have rest : ∀ after, Lone process (database.writeAll (tracked.writes server.postgres))
          issued after →
          (Contract.alone (server.perform process)).holds
            (Interaction.Computation.forEach Session.updateShipment objects) post session
            after := by
        intro after updated
        refine inductionHypothesis updated ?_ established
        exact fun other member =>
          Database.shipment_writeAll_isSome _ (present.2 other member)
      apply Contract.holds_forEach_cons
      simp only [Session.updateShipment, Tracked.writes, Tracked.patch] at rest ⊢
      cases assigned : tracked.assigned with
      | none =>
          simp only [assigned, if_true] at rest
          exact Contract.holds_pure (rest _ lone)
      | some current =>
          simp only [assigned] at rest
          by_cases unchanged : ShipmentPatch.between tracked.loaded current = {}
          · simp only [unchanged, if_true] at rest ⊢
            exact Contract.holds_pure (rest _ lone)
          · simp only [unchanged, if_false] at rest ⊢
            exact lone.holds_updateShipment faultless present.1 rest

/-- Flushing a session in which shipments are loaded and outbox rows are pending. -/
theorem holds_flush {database : Database} {world : World}
    {post : Contract.Post PyError Session World Unit} (faultless : server.Faultless)
    (lone : Lone process database issued world) (unclaimed : session.outboxEvents = [])
    (noShipments : session.newShipments = []) (noEvents : session.newEvents = [])
    (accepts : database.Accepts session.newOutboxEvents)
    (present : ∀ tracked ∈ session.shipments, (database.shipment tracked.loaded.id).isSome)
    (established : ∀ last after, Lone process (database.writeAll
        ((session.newOutboxEvents.map fun row =>
            Write.insertOutbox (server.postgres.outboxRow row)) ++
          session.shipments.flatMap (Tracked.writes server.postgres))) issued after →
      post (.ok ()) last after) :
    (Contract.alone (server.perform process)).holds Session.flush post session world := by
  apply Contract.holds_bind
  apply Contract.holds_read
  apply Contract.holds_bind
  rw [unclaimed]
  apply Contract.holds_forEach_nil
  apply Contract.holds_bind
  apply Contract.holds_bind
  apply Contract.holds_read
  apply Contract.holds_bind
  refine lone.holds_insertOutboxes faultless _ accepts ?_
  intro enqueued lone
  apply Contract.holds_modify
  apply Contract.holds_bind
  refine lone.holds_updateShipments faultless _ ?_ ?_
  · exact fun tracked member => Database.shipment_writeAll_isSome _ (present tracked member)
  intro updated lone
  rw [← Database.writeAll_append] at lone
  apply Contract.holds_bind
  refine Computation.ends.holds (ends_flushNewShipments_nil noShipments ?_)
  apply Contract.holds_bind
  refine Computation.ends.holds (ends_flushNewEvents_nil noEvents ?_)
  exact Contract.holds_modify (established _ _ lone)

/-! ## Repositories -/

section Repositories

variable {database : Database} {world : World}

/-- Selecting a shipment: an object with assigned attributes as it is, or else the row. -/
theorem holds_scalarShipment {shipmentId : UUID}
    {post : Contract.Post PyError Session World (Option (Tracked ShipmentModel))}
    (faultless : server.Faultless) (lone : Lone process database issued world)
    (established : ∀ after, Lone process database issued after →
      post (.ok ((database.shipment shipmentId).map fun row =>
        (session.trackedShipment shipmentId).getD { loaded := row })) session after) :
    (Contract.alone (server.perform process)).holds
      (Session.scalarShipment shipmentId) post session world := by
  apply Contract.holds_bind
  refine lone.holds_selectShipment faultless ?_
  intro after lone
  have answered := established after lone
  cases found : database.shipment shipmentId with
  | none =>
      rw [found] at answered
      exact answered
  | some row =>
      have own : row.id = shipmentId := Table.key_of_lookup found
      rw [found, ← own] at answered
      apply Contract.holds_bind
      apply Contract.holds_read
      exact Contract.holds_pure answered

/-- `SQLAlchemyShipmentRepository.get`. -/
theorem holds_get {shipmentId : UUID}
    {post : Contract.Post PyError Session World (Option Shipment)}
    (faultless : server.Faultless) (lone : Lone process database issued world)
    (missing : database.shipment shipmentId = none → ∀ after,
      Lone process database issued after → post (.ok none) session after)
    (found : ∀ row, database.shipment shipmentId = some row → ∀ after,
      Lone process database issued after →
        post (.ok (some (ShipmentMapper.toDomain
          ((session.trackedShipment shipmentId).getD { loaded := row }).current)))
          session after) :
    (Contract.alone (server.perform process)).holds
      (SQLAlchemyShipmentRepository.get shipmentId) post session world := by
  apply Contract.holds_bind
  refine lone.holds_scalarShipment faultless ?_
  intro after lone
  apply Contract.holds_pure
  cases there : database.shipment shipmentId with
  | none => exact missing there after lone
  | some row => exact found row there after lone

/-- `SQLAlchemyShipmentRepository.save` of a shipment that is there: its object is assigned,
or else its row is loaded again. -/
theorem holds_save_present {shipment : Shipment} {row : ShipmentModel}
    {post : Contract.Post PyError Session World Unit} (faultless : server.Faultless)
    (lone : Lone process database issued world)
    (there : database.shipment shipment.id = some row)
    (established : ∀ after, Lone process database issued after →
      post (.ok ())
        (Session.assignShipment
          ((session.trackedShipment shipment.id).getD { loaded := row })
          (ShipmentMapper.toModel shipment) session) after) :
    (Contract.alone (server.perform process)).holds
      (SQLAlchemyShipmentRepository.save shipment) post session world := by
  apply Contract.holds_bind
  refine holds_observe faultless ?_
  apply Contract.holds_bind
  apply Contract.holds_bind
  apply Contract.holds_read
  simp only [Contract.Post.on]
  cases known : session.trackedShipment shipment.id with
  | some tracked =>
      rw [known] at established
      exact established world lone
  | none =>
      refine lone.holds_scalarShipment faultless ?_
      intro after lone
      rw [there, known]
      rw [known] at established
      exact established after lone

/-- `SQLAlchemyShipmentRepository.save` of a shipment that nobody has. -/
theorem holds_save_new {shipment : Shipment}
    {post : Contract.Post PyError Session World Unit} (faultless : server.Faultless)
    (lone : Lone process database issued world)
    (untracked : session.trackedShipment shipment.id = none)
    (fresh : database.shipment shipment.id = none)
    (established : ∀ after, Lone process database issued after →
      post (.ok ())
        { session with
          newShipments := session.newShipments ++ [ShipmentMapper.toModel shipment] } after) :
    (Contract.alone (server.perform process)).holds
      (SQLAlchemyShipmentRepository.save shipment) post session world := by
  apply Contract.holds_bind
  refine holds_observe faultless ?_
  apply Contract.holds_bind
  apply Contract.holds_bind
  apply Contract.holds_read
  simp only [Contract.Post.on, untracked]
  refine lone.holds_scalarShipment faultless ?_
  intro after lone
  rw [fresh]
  exact established after lone

/-- `SQLAlchemyShipmentEventRepository.exists`. -/
theorem holds_exists {eventId : UUID} {post : Contract.Post PyError Session World Bool}
    (faultless : server.Faultless) (lone : Lone process database issued world)
    (established : ∀ after, Lone process database issued after →
      post (.ok ((database.event eventId).map ShipmentEventModel.eventId).isSome) session
        after) :
    (Contract.alone (server.perform process)).holds
      (SQLAlchemyShipmentEventRepository.exists eventId) post session world := by
  apply Contract.holds_bind
  exact lone.holds_selectEventId faultless established

/-- `SQLAlchemyShipmentEventRepository.save`. -/
theorem holds_saveEvent {event : ShipmentEvent}
    {post : Contract.Post PyError Session World Unit} (faultless : server.Faultless)
    (established : post (.ok ())
      { session with newEvents := session.newEvents ++ [EventMapper.toModel event] } world) :
    (Contract.alone (server.perform process)).holds
      (SQLAlchemyShipmentEventRepository.save event) post session world := by
  apply Contract.holds_bind
  exact holds_observe faultless established

/-- `SQLAlchemyOutboxRepository.add` when one event is pending. -/
theorem holds_add {message : RecordedEventMessage} {row : ShipmentEventModel}
    {post : Contract.Post PyError Session World Unit} (faultless : server.Faultless)
    (lone : Lone process database issued world) (noShipments : session.newShipments = [])
    (pending : session.newEvents = [row]) (source : server.postgres.varchar row.source ≠ .null)
    (fresh : database.event row.eventId = none)
    (parent : (database.shipment row.shipmentId).isSome)
    (established : ∀ now after,
      Lone process (database.write (.insertEvent (server.postgres.eventRow row))) issued after →
      post (.ok ())
        { session with
          newEvents := []
          newOutboxEvents :=
            session.newOutboxEvents ++ [SQLAlchemyOutboxRepository.model message now] }
        after) :
    (Contract.alone (server.perform process)).holds
      (SQLAlchemyOutboxRepository.add message) post session world := by
  apply Contract.holds_bind
  refine Computation.ends.holds (ends_flushNewShipments_nil noShipments ?_)
  apply Contract.holds_bind
  apply holds_flushNewEvents_single pending
  refine lone.holds_insertEvent faultless source fresh parent ?_
  intro after lone
  apply Contract.holds_bind
  refine holds_now faultless ?_
  intro now utc
  exact Contract.holds_modify (established now after lone)

/-- `SQLAlchemyOutboxRepository.add` when a new shipment and its event are pending. -/
theorem holds_add_created {message : RecordedEventMessage} {shipment : ShipmentModel}
    {row : ShipmentEventModel} {post : Contract.Post PyError Session World Unit}
    (faultless : server.Faultless) (lone : Lone process database issued world)
    (created : session.newShipments = [shipment]) (pending : session.newEvents = [row])
    (freshShipment : database.shipment shipment.id = none)
    (unused : ∀ other ∈ database.shipments,
      other.referenceNumber ≠ shipment.referenceNumber)
    (source : server.postgres.varchar row.source ≠ .null)
    (fresh : database.event row.eventId = none) (parent : row.shipmentId = shipment.id)
    (established : ∀ now after,
      Lone process ((database.write (.insertShipment
          (server.postgres.shipmentRow shipment))).write
        (.insertEvent (server.postgres.eventRow row))) issued after →
      post (.ok ())
        { session with
          newShipments := []
          newEvents := []
          newOutboxEvents :=
            session.newOutboxEvents ++ [SQLAlchemyOutboxRepository.model message now] }
        after) :
    (Contract.alone (server.perform process)).holds
      (SQLAlchemyOutboxRepository.add message) post session world := by
  apply Contract.holds_bind
  apply holds_flushNewShipments_single created
  refine lone.holds_insertShipment faultless freshShipment unused ?_
  intro after lone
  apply Contract.holds_bind
  refine holds_flushNewEvents_single (by exact pending) ?_
  refine lone.holds_insertEvent faultless source fresh ?_ ?_
  · rw [parent, Database.shipment_insertShipment, freshShipment]
    simp [Postgres.shipmentRow]
  intro after lone
  apply Contract.holds_bind
  refine holds_now faultless ?_
  intro now utc
  exact Contract.holds_modify (established now after lone)

end Repositories

end Lone

end Freight
