/-
Module: Freight.Database.Session
Purpose: The ORM session of one process: its identity map, its pending objects
  and the unit of work that turns them into statements, with the repositories
  written over it.
Trusted boundary: none
Main exports:
  Session, Py, Session.scalarShipment, Session.flush, Session.commit,
  Session.rollback, SQLAlchemyShipmentRepository,
  SQLAlchemyShipmentEventRepository, SQLAlchemyOutboxRepository
-/
import Freight.Database.Server

namespace Freight

open Interaction (Computation)
open Interaction.Computation (ofExcept read modify raise tryExcept onExit forEach)

/-! ## The session

The session is configured with `autoflush=False` and `expire_on_commit=False`.
It belongs to one process, so its state is private; only its statements reach
the server. -/

/-- A persistent object: the row as it was loaded or last flushed, and the
attributes once the program has assigned to them. -/
structure Tracked (Row : Type) where
  loaded : Row
  assigned : Option Row := none
deriving DecidableEq, Repr

/-- The attributes of an object. -/
def Tracked.current {Row : Type} (tracked : Tracked Row) : Row :=
  tracked.assigned.getD tracked.loaded

/-- The object once its changes have been flushed. -/
def Tracked.flushed {Row : Type} (tracked : Tracked Row) : Tracked Row :=
  { loaded := tracked.current }

/-- The identity map, and the pending objects of `session.new` in the order in
which they were added.  The map refers to its objects weakly: a shipment stays in
it while its assigned attributes wait for a flush, and one that the code no longer
refers to is gone.  A claimed outbox row is locked by the session's transaction, so
its object is kept as it was claimed.  Recorded events are never read back as
objects, so they are only kept while pending. -/
structure Session where
  shipments : List (Tracked ShipmentModel) := []
  outboxEvents : List (Tracked OutboxEventModel) := []
  newShipments : List ShipmentModel := []
  newEvents : List ShipmentEventModel := []
  newOutboxEvents : List OutboxEventModel := []
deriving DecidableEq, Repr

/-- Python code that works with a session. -/
abbrev Py (α : Type) : Type := Computation Statement Reply PyError Session α

/-- Perform one statement. -/
def call (statement : Statement) : Py (Reply statement) := Computation.call statement

namespace Session

/-- The identity map's entry for a shipment. -/
def trackedShipment (session : Session) (id : UUID) : Option (Tracked ShipmentModel) :=
  Table.lookup (fun tracked => tracked.loaded.id) session.shipments id

/-- The identity map's entry for an outbox row. -/
def trackedOutbox (session : Session) (id : UUID) : Option (Tracked OutboxEventModel) :=
  Table.lookup (fun tracked => tracked.loaded.id) session.outboxEvents id

/-- `session.scalar(select(ShipmentModel).where(id))`.  The statement is always
emitted, but an object that is still in the identity map is not refreshed. -/
def scalarShipment (id : UUID) : Py (Option (Tracked ShipmentModel)) := do
  let row : Option ShipmentModel ← call (.selectShipment id)
  match row with
  | none => pure none
  | some row =>
      let session ← read
      pure (some ((session.trackedShipment row.id).getD { loaded := row }))

/-- `session.get(ShipmentModel, id)`: the identity map first. -/
def getShipment (id : UUID) : Py (Option (Tracked ShipmentModel)) := do
  let session ← read
  match session.trackedShipment id with
  | some tracked => pure (some tracked)
  | none => scalarShipment id

/-- `session.get(OutboxEventModel, id)` for a row that the session has claimed.
A row it has not claimed is not looked for: no code path asks for one. -/
def getOutbox (id : UUID) : Py (Option OutboxEventModel) := do
  let session ← read
  pure ((session.trackedOutbox id).map Tracked.current)

/-- Assign every attribute of an object, which the identity map then holds until
the flush. -/
def assignShipment (tracked : Tracked ShipmentModel) (model : ShipmentModel)
    (session : Session) : Session :=
  { session with
    shipments :=
      { tracked with assigned := some model } ::
        session.shipments.filter fun other => other.loaded.id ≠ tracked.loaded.id }

/-- Change attributes of a claimed outbox row. -/
def changeOutbox (id : UUID) (change : OutboxEventModel → OutboxEventModel)
    (session : Session) : Session :=
  { session with
    outboxEvents :=
      Table.modify (fun tracked => tracked.loaded.id) session.outboxEvents id
        fun tracked => { tracked with assigned := some (change tracked.current) } }

/-! ### The unit of work -/

/-- Flush the pending shipments, which the code refers to no longer. -/
def flushNewShipments : Py Unit := do
  let session ← read
  forEach (fun row => call (.insertShipment row)) session.newShipments
  modify fun session => { session with newShipments := [] }

/-- Flush the pending events. -/
def flushNewEvents : Py Unit := do
  let session ← read
  forEach (fun row => call (.insertEvent row)) session.newEvents
  modify fun session => { session with newEvents := [] }

/-- Flush the pending outbox rows. -/
def flushNewOutboxEvents : Py Unit := do
  let session ← read
  forEach (fun row => call (.insertOutbox row)) session.newOutboxEvents
  modify fun session =>
    { session with
      outboxEvents :=
        session.newOutboxEvents.map ({ loaded := · }) ++ session.outboxEvents
      newOutboxEvents := [] }

/-- Emit an `UPDATE` for the changed columns of a shipment, if there are any.
Only assigned attributes are compared. -/
def updateShipment (tracked : Tracked ShipmentModel) : Py Unit :=
  match tracked.assigned with
  | none => pure ()
  | some current =>
      let patch := ShipmentPatch.between tracked.loaded current
      if patch = {} then pure ()
      else call (.updateShipment tracked.loaded.id patch)

/-- Emit an `UPDATE` for the changed columns of an outbox row, if there are
any. -/
def updateOutbox (tracked : Tracked OutboxEventModel) : Py Unit :=
  match tracked.assigned with
  | none => pure ()
  | some current =>
      let patch := OutboxPatch.between tracked.loaded current
      if patch = {} then pure ()
      else call (.updateOutbox tracked.loaded.id patch)

/-- `session.flush()`: mapper by mapper, in the order of the class names.  No
relationship between the mapped classes is declared, so a foreign key does not
change that order.  When a statement raises, the caller rolls back.  Afterwards
nothing holds the shipments any more. -/
def flush : Py Unit := do
  let session ← read
  forEach updateOutbox session.outboxEvents
  flushNewOutboxEvents
  forEach updateShipment session.shipments
  flushNewShipments
  flushNewEvents
  modify fun session =>
    { session with
      shipments := []
      outboxEvents := session.outboxEvents.map Tracked.flushed }

/-- `session.commit()`. -/
def commit : Py Unit := do
  flush
  call .commit

/-- `session.rollback()`: pending objects are forgotten and loaded ones expire. -/
def rollback : Py Unit := do
  call .rollback
  modify fun _ => {}

/-- `session.close()`: an open transaction is rolled back. -/
def close : Py Unit := call .rollback

end Session

/-! ## Repositories -/

namespace SQLAlchemyShipmentRepository

/-- The object that was loaded is dropped once it has been converted. -/
def get (shipmentId : UUID) : Py (Option Shipment) := do
  let model ← Session.scalarShipment shipmentId
  pure (model.map fun tracked => ShipmentMapper.toDomain tracked.current)

def save (shipment : Shipment) : Py Unit := do
  call .observe
  let existing ← Session.getShipment shipment.id
  match existing with
  | none =>
      modify fun session =>
        { session with
          newShipments := session.newShipments ++ [ShipmentMapper.toModel shipment] }
  | some tracked =>
      modify (Session.assignShipment tracked (ShipmentMapper.toModel shipment))

end SQLAlchemyShipmentRepository

namespace SQLAlchemyShipmentEventRepository

def «exists» (eventId : UUID) : Py Bool := do
  let found : Option UUID ← call (.selectEventId eventId)
  pure found.isSome

def save (event : ShipmentEvent) : Py Unit := do
  call .observe
  modify fun session =>
    { session with newEvents := session.newEvents ++ [EventMapper.toModel event] }

end SQLAlchemyShipmentEventRepository

namespace SQLAlchemyOutboxRepository

/-- The row that `add` builds for a message. -/
def model (message : RecordedEventMessage) (now : DateTime) : OutboxEventModel where
  id := message.messageId
  eventId := message.eventId
  shipmentId := message.shipmentId
  messageType := eventRecordedRoutingKey
  payload := message.body
  createdAt := now
  nextAttemptAt := now
  attempts := 0
  correlationId := message.correlationId

/-- Pending parents are flushed before the dependent row is added. -/
def add (message : RecordedEventMessage) : Py Unit := do
  Session.flushNewShipments
  Session.flushNewEvents
  let now : DateTime ← call .now
  modify fun session =>
    { session with newOutboxEvents := session.newOutboxEvents ++ [model message now] }

/-- The message of a stored row. -/
def message (model : OutboxEventModel) : RecordedEventMessage where
  messageId := model.id
  eventId := model.eventId
  shipmentId := model.shipmentId
  body := model.payload
  -- `model.correlation_id or str(model.id)`: an empty string is false too
  correlationId :=
    match model.correlationId with
    | none | some "" => some model.id.str
    | some correlationId => some correlationId

def claimNext (now : DateTime) : Py (Option RecordedEventMessage) := do
  let row : Option OutboxEventModel ← call (.claimOutbox now)
  match row with
  | none => pure none
  | some row =>
      modify fun session =>
        { session with outboxEvents := { loaded := row } :: session.outboxEvents }
      pure (some (message row))

/-- The changes of `mark_published`. -/
def published (now : DateTime) (model : OutboxEventModel) : OutboxEventModel :=
  { model with
    attempts := model.attempts + 1
    publishedAt := some now
    lastError := none }

/-- `error[:100]`. -/
def truncated (error : String) : String := String.ofList (error.toList.take 100)

/-- The changes of `mark_failed`. -/
def failed (retryAt : DateTime) (error : String) (model : OutboxEventModel) :
    OutboxEventModel :=
  { model with
    attempts := model.attempts + 1
    nextAttemptAt := retryAt
    lastError := some (truncated error) }

/-- `_get`, followed by the assignments of its caller. -/
def mark (messageId : UUID) (change : OutboxEventModel → OutboxEventModel) : Py Unit := do
  let model ← Session.getOutbox messageId
  match model with
  | none => raise (.exception "LookupError" "Claimed outbox message no longer exists")
  | some _ => modify (Session.changeOutbox messageId change)

def markPublished (messageId : UUID) (now : DateTime) : Py Unit :=
  mark messageId (published now)

def markFailed (messageId : UUID) (retryAt : DateTime) (error : String) : Py Unit :=
  mark messageId (failed retryAt error)

end SQLAlchemyOutboxRepository

end Freight
