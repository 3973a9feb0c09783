/-
Module: Freight.Store.Entries
Purpose: What one entry of the log does to the three tables: nothing that
  concerns a recorded event, or one event row with the outbox row that announces
  it.
Trusted boundary: none
Main exports:
  Announced, Entry, Reception.writeAll_projection, Effect.entry, replay_take_succ,
  Effect.identity, History.identity
-/
import Freight.Store.History

namespace Freight

open Interaction (ProcessId)

/-- A source that is a string and timestamps with a timezone. -/
structure ShipmentEvent.WellTyped (event : ShipmentEvent) : Prop where
  source : ∃ text, event.source = .str text
  occurredAt : event.occurredAt.aware = true
  receivedAt : event.receivedAt.aware = true

/-- A request that reports a well-typed event, if it reports any. -/
def Request.WellTyped : Request → Prop
  | .receiveEvent _ reported => reported.occurredAt.aware = true
  | .handleEvent _ event => event.WellTyped
  | _ => True

theorem Request.Reports.wellTyped {request : Request} {correlationId : Option String}
    {event : ShipmentEvent} (reports : request.Reports correlationId event)
    (typed : request.WellTyped) : event.WellTyped := by
  cases request with
  | receiveEvent _ reported =>
      obtain ⟨-, receivedAt, utc, rfl⟩ := reports
      exact ⟨⟨_, rfl⟩, typed, by simp [ShipmentEventRequest.event, DateTime.aware, utc]⟩
  | handleEvent _ handled =>
      obtain ⟨-, rfl⟩ := reports
      exact typed
  | _ => cases reports

/-- An event row and the outbox row that announces it: both written from one
recorded event. -/
structure Announced (postgres : Postgres) (request : Request) (recorded : ShipmentEvent)
    (event : ShipmentEventModel) (outbox : OutboxEventModel) : Prop where
  typed : request.WellTyped → recorded.WellTyped
  event_eq : event = postgres.eventRow (EventMapper.toModel recorded)
  outbox_eq : ∃ messageId correlationId enqueuedAt,
    outbox = postgres.outboxRow
      (SQLAlchemyOutboxRepository.model
        { messageId := messageId
          eventId := recorded.eventId
          shipmentId := recorded.shipmentId
          body := RecordedEventMessage.envelope messageId recorded recorded.payload.plain
          correlationId := correlationId }
        enqueuedAt)

theorem Announced.eventId {postgres : Postgres} {request : Request}
    {recorded : ShipmentEvent} {event : ShipmentEventModel} {outbox : OutboxEventModel}
    (announced : Announced postgres request recorded event outbox) :
    outbox.eventId = event.eventId := by
  obtain ⟨-, rfl, messageId, correlationId, enqueuedAt, rfl⟩ := announced
  rfl

/-- The identifier and the creation of a shipment. -/
def ShipmentModel.birth (row : ShipmentModel) : UUID × DateTime := (row.id, row.createdAt)

/-- The tables before an entry of the log and after it. -/
inductive Entry (postgres : Postgres) (request : Request) (before after : Database) :
    Prop where
  | silent (births : after.shipments.map ShipmentModel.birth =
        before.shipments.map ShipmentModel.birth)
      (events : after.shipmentEvents = before.shipmentEvents)
      (snapshots : after.outboxEvents.map OutboxEventModel.snapshot =
        before.outboxEvents.map OutboxEventModel.snapshot)
  | created (recorded : ShipmentEvent) (shipment : ShipmentModel)
      (event : ShipmentEventModel) (outbox : OutboxEventModel)
      (announced : Announced postgres request recorded event outbox)
      (freshShipment : before.shipment shipment.id = none)
      (freshEvent : before.event event.eventId = none)
      (created : event.eventType = .shipmentCreated)
      (birth : shipment.birth = (event.shipmentId, event.occurredAt))
      (shipments : after.shipments = before.shipments ++ [shipment])
      (events : after.shipmentEvents = before.shipmentEvents ++ [event])
      (outboxEvents : after.outboxEvents = before.outboxEvents ++ [outbox])
  | received (recorded : ShipmentEvent) (event : ShipmentEventModel)
      (outbox : OutboxEventModel)
      (announced : Announced postgres request recorded event outbox)
      (freshEvent : before.event event.eventId = none)
      (received : event.eventType ≠ .shipmentCreated)
      (births : after.shipments.map ShipmentModel.birth =
        before.shipments.map ShipmentModel.birth)
      (events : after.shipmentEvents = before.shipmentEvents ++ [event])
      (outboxEvents : after.outboxEvents = before.outboxEvents ++ [outbox])

/-- The update of the projection, whether or not a column has changed. -/
theorem Reception.writeAll_projection (reception : Reception) (postgres : Postgres)
    (database : Database) :
    database.writeAll (reception.projection postgres) =
      { database with
        shipments :=
          Table.modify ShipmentModel.id database.shipments reception.row.id
            (postgres.shipmentPatch reception.patch).applyTo } := by
  unfold Reception.projection
  split
  · rename_i unchanged
    have same : Table.modify ShipmentModel.id database.shipments reception.row.id
        (postgres.shipmentPatch reception.patch).applyTo = database.shipments := by
      rw [unchanged]
      simp [Table.modify, Postgres.shipmentPatch, ShipmentPatch.applyTo]
    rw [same]
    rfl
  · rfl

/-- The handler changes none of the columns of the identity. -/
theorem Reception.identity_after (reception : Reception)
    (handled : ShipmentEventHandler.handle (ShipmentMapper.toDomain reception.row)
      reception.event = (.ok reception.status, reception.after)) :
    (ShipmentMapper.toModel reception.after).identity = reception.row.identity := by
  obtain ⟨-, -, ⟨-, payload, -, ⟨-, equality, -⟩ | ⟨-, equality, -⟩⟩ |
    ⟨-, ⟨-, equality, -⟩ | ⟨-, -, next, -, equality⟩⟩⟩ :=
      ShipmentEventHandler.handle_cases handled <;> rw [equality] <;> rfl

/-- A projection changes none of them in any row. -/
theorem Reception.identity_applyTo (reception : Reception) (postgres : Postgres)
    (identity : reception.loaded.identity = reception.row.identity)
    (handled : ShipmentEventHandler.handle (ShipmentMapper.toDomain reception.row)
      reception.event = (.ok reception.status, reception.after)) (row : ShipmentModel) :
    ((postgres.shipmentPatch reception.patch).applyTo row).identity = row.identity := by
  have same : (ShipmentMapper.toModel reception.after).identity = reception.loaded.identity :=
    (reception.identity_after handled).trans identity.symm
  simp only [ShipmentModel.identity, Prod.mk.injEq] at same
  obtain ⟨-, reference, origin, destination, carrier, createdAt⟩ := same
  simp [Reception.patch, ShipmentPatch.between, changedColumn, ShipmentModel.identity,
    ShipmentPatch.applyTo, Postgres.shipmentPatch, reference, origin, destination, carrier,
    createdAt, DateTime.eq_refl]

theorem ShipmentModel.birth_of_identity {first second : ShipmentModel}
    (same : first.identity = second.identity) : first.birth = second.birth := by
  simp only [ShipmentModel.identity, Prod.mk.injEq] at same
  rw [ShipmentModel.birth, ShipmentModel.birth, same.1, same.2.2.2.2.2]

/-- A projection keeps the births. -/
theorem Reception.births (reception : Reception) (postgres : Postgres) (database : Database)
    (identity : reception.loaded.identity = reception.row.identity)
    (handled : ShipmentEventHandler.handle (ShipmentMapper.toDomain reception.row)
      reception.event = (.ok reception.status, reception.after)) :
    (database.writeAll (reception.projection postgres)).shipments.map ShipmentModel.birth =
      database.shipments.map ShipmentModel.birth := by
  rw [reception.writeAll_projection, Table.modify, List.map_map]
  apply List.map_congr_left
  intro row _
  by_cases same : row.id = reception.row.id
  · simp only [Function.comp_apply, same, if_true]
    exact ShipmentModel.birth_of_identity (reception.identity_applyTo postgres identity handled row)
  · simp only [Function.comp_apply, same, if_false]

/-- Step lemma: every legal entry is one of the three. -/
theorem Effect.entry {server : Server} {base : Database} {quiet : Prop}
    {wal : List Transaction} {request : Request} {transaction : Transaction}
    (effect : Effect server base quiet wal request transaction) :
    Entry server.postgres request (replay base wal)
      ((replay base wal).writeAll transaction.writes) := by
  cases effect with
  | nothing writes published =>
      rw [writes]
      exact .silent rfl rfl rfl
  | created creation createdAt receivedAt freshShipment freshEvent freshOutbox writes =>
      rw [writes]
      refine .created creation.event (creation.shipmentRow server.postgres)
        (creation.eventRow server.postgres) (creation.outboxRow server.postgres)
        ⟨fun _ => ⟨⟨_, rfl⟩, ?_, ?_⟩, rfl, creation.messageId, creation.correlationId,
          creation.enqueuedAt, rfl⟩
        freshShipment freshEvent rfl rfl rfl rfl rfl
      · simp [Creation.event, CreateShipment.createdEvent, DateTime.aware, createdAt]
      · simp [Creation.event, CreateShipment.createdEvent, DateTime.aware, receivedAt]
  | received reception reports lsn current found saved loaded identity handled payload
      reads freshEvent freshOutbox writes =>
      have received : reception.event.eventType ≠ .shipmentCreated :=
        (ShipmentEventHandler.handle_cases handled).2.1
      have tables : ∀ database : Database,
          (database.writeAll (reception.projection server.postgres)).shipmentEvents =
              database.shipmentEvents ∧
            (database.writeAll (reception.projection server.postgres)).outboxEvents =
              database.outboxEvents := by
        intro database
        rw [reception.writeAll_projection]
        exact ⟨rfl, rfl⟩
      rw [writes, Reception.writes, Database.writeAll_append]
      refine .received reception.recorded (reception.eventRow server.postgres)
        (reception.outboxRow server.postgres)
        ⟨fun typed => ?_, rfl, reception.messageId, reception.correlationId,
          reception.enqueuedAt, rfl⟩
        freshEvent received ?_ ?_ ?_
      · obtain ⟨source, occurredAt, receivedAt⟩ := reports.wellTyped typed
        exact ⟨source, occurredAt, receivedAt⟩
      · rw [reception.births server.postgres _ identity handled]
        rfl
      · rw [(tables _).1]
        rfl
      · rw [(tables _).2]
        rfl
  | attempted attempt locked pending confirmed writes =>
      rw [writes]
      refine .silent rfl rfl ?_
      simp only [Attempt.writes, Database.writeAll_cons, Database.writeAll_nil, Database.write,
        Table.modify, List.map_map]
      apply List.map_congr_left
      intro row _
      by_cases same : row.id = attempt.row.id <;> simp [same]

/-- Step lemma: an entry leaves the identity of a shipment alone. -/
theorem Effect.identity {server : Server} {base : Database} {quiet : Prop}
    {wal : List Transaction} {request : Request} {transaction : Transaction}
    (effect : Effect server base quiet wal request transaction) {id : UUID}
    {before after : ShipmentModel} (found : (replay base wal).shipment id = some before)
    (left : ((replay base wal).writeAll transaction.writes).shipment id = some after) :
    after.identity = before.identity := by
  cases effect with
  | nothing writes published =>
      rw [writes] at left
      cases found.symm.trans left
      rfl
  | created creation createdAt receivedAt freshShipment freshEvent freshOutbox writes =>
      rw [writes] at left
      simp only [Creation.writes, Database.writeAll_cons, Database.writeAll_nil,
        Database.shipment_insertOutbox, Database.shipment_insertEvent,
        Database.shipment_insertShipment, found, Option.some_or, Option.some.injEq] at left
      rw [left]
  | received reception reports lsn current present saved loaded identity handled payload reads
      freshEvent freshOutbox writes =>
      rw [writes, Reception.writes, Database.writeAll_append, reception.writeAll_projection,
        Database.shipment, Table.lookup_modify (ShipmentPatch.applyTo_id _)] at left
      change (if id = reception.row.id then
        ((replay base wal).shipment id).map _ else (replay base wal).shipment id) = _ at left
      rw [found] at left
      split at left
      · cases left
        exact reception.identity_applyTo server.postgres identity handled before
      · cases left
        rfl
  | attempted attempt locked pending confirmed writes =>
      rw [writes] at left
      simp only [Attempt.writes, Database.writeAll_cons, Database.writeAll_nil,
        Database.shipment_updateOutbox, found, Option.some.injEq] at left
      rw [left]

/-- The tables after one more entry of the log. -/
theorem replay_take_succ (base : Database) {wal : List Transaction} {index : Nat}
    {transaction : Transaction} (found : wal[index]? = some transaction) :
    replay base (wal.take (index + 1)) =
      (replay base (wal.take index)).writeAll transaction.writes := by
  rw [List.take_add_one, found]
  exact replay_snoc base (wal.take index) transaction

/-- Run lemma: no stretch of the log changes the identity of a shipment. -/
theorem History.identity {server : Server} {base : Database} {quiet : Prop}
    {requests : ProcessId → Request} {wal : List Transaction}
    (history : History server base quiet requests wal) {id : UUID} {first second : Nat}
    (ordered : first ≤ second) {before after : ShipmentModel}
    (found : (replay base (wal.take first)).shipment id = some before)
    (left : (replay base (wal.take second)).shipment id = some after) :
    after.identity = before.identity := by
  refine replay_shipment_induction
    (fun before after => after.identity = before.identity) ordered (fun _ => rfl)
    (fun _ _ _ one two => two.trans one) ?_ before after found left
  intro index _ _ transaction entry before after found left
  rw [replay_take_succ base entry] at left
  exact (history.effect_of_getElem entry).identity found left

/-- A relay changes none of the columns that were written when a row was
enqueued. -/
theorem Effect.snapshots_of_publishOne {server : Server} {base : Database} {quiet : Prop}
    {wal : List Transaction} {retryDelay : Int} {transaction : Transaction}
    (effect : Effect server base quiet wal (.publishOne retryDelay) transaction) :
    ((replay base wal).writeAll transaction.writes).outboxEvents.map
        OutboxEventModel.snapshot =
      (replay base wal).outboxEvents.map OutboxEventModel.snapshot := by
  have entry := effect.entry
  cases effect with
  | received reception reports => cases reports
  | nothing writes =>
      rw [writes]
      rfl
  | attempted attempt locked pending confirmed writes =>
      cases entry with
      | silent births events snapshots => exact snapshots
      | created _ _ _ _ _ _ _ _ _ _ events =>
          rw [writes] at events
          simp [Attempt.writes, Database.write] at events
      | received _ _ _ _ _ _ _ events =>
          rw [writes] at events
          simp [Attempt.writes, Database.write] at events

end Freight
