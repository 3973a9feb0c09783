/-
Module: Freight.Application.EntryPoints
Purpose: The owners of a transaction: the HTTP routes under `get_db`, the
  ingestion worker and the relay, and the system of any number of them.
Trusted boundary: none
Main exports:
  transaction, sessionBegin, getDb, createShipment, receiveEvent, handleEvent,
  publishOne, Request, Request.program, platform, PlatformState
-/
import Freight.Application.UseCases

namespace Freight

open Interaction (Program ProcessId)
open Interaction.Computation (raise tryExcept onExit)

/-! ## Owning a transaction -/

/-- The shape that `get_db` and the worker's `handle_event` share: commit after
the body, roll back and re-raise on any exception, close in any case. -/
def transaction {α : Type} (body : Py α) : Py α :=
  onExit
    (tryExcept
      (do
        let answer ← body
        Session.commit
        call .observe
        pure answer)
      (fun error => do
        Session.rollback
        call .observe
        raise error))
    Session.close

/-- `with session.begin()`: commit on the normal exit, roll back on an exception,
also on one raised by the commit. -/
def sessionBegin {α : Type} (body : Py α) : Py α :=
  tryExcept
    (do
      let answer ← body
      Session.commit
      pure answer)
    (fun error => do
      Session.rollback
      raise error)

/-! ## HTTP -/

/-- `get_db` around the rest of a request. -/
def getDb {α : Type} (request : Py α) : Py α := transaction request

/-- `POST /shipments`. -/
def createShipment (correlationId : Option String) (input : CreateShipmentInput) :
    Py Shipment :=
  getDb do
    let shipment ← CreateShipment.execute correlationId input
    call (.respond { statusCode := 201, shipment := some shipment })
    pure shipment

/-- `ShipmentEventRequest`, after validation. -/
structure ShipmentEventRequest where
  eventId : UUID
  shipmentId : UUID
  eventType : ShipmentEventType
  source : String
  occurredAt : DateTime
  payload : List (String × Json)
deriving DecidableEq, Repr

/-- The event that a request reports. -/
def ShipmentEventRequest.event (request : ShipmentEventRequest) (receivedAt : DateTime) :
    ShipmentEvent where
  eventId := request.eventId
  shipmentId := request.shipmentId
  eventType := request.eventType
  source := .str request.source
  occurredAt := request.occurredAt
  receivedAt := receivedAt
  payload := .json (.obj request.payload)

/-- `_is_duplicate_event_id`, from the constraint the server named. -/
def isDuplicateEventId (constraintName : Option String) : Bool :=
  constraintName = some "shipment_events_pkey"

/-- The body of the route's `try` statement. -/
def recordEvent (correlationId : Option String) (event : ShipmentEvent) : Py Shipment := do
  let shipment ← ReceiveShipmentEvent.execute correlationId event
  Session.flush
  pure shipment

/-- The `except` clauses of the route. -/
def recoverEvent (event : ShipmentEvent) (error : PyError) : Py Shipment :=
  match error with
  | .integrityError constraintName _ => do
      Session.rollback
      if isDuplicateEventId constraintName then
        match ← ReceiveShipmentEvent.getCurrentShipment event.shipmentId with
        | none => raise error
        | some shipment => pure shipment
      else raise error
  | .valueError _ _ => raise (.httpException 404 error.str)
  | .invalidStateTransition _ _ => raise (.httpException 409 error.str)
  | .invalidShipmentEvent _ => raise (.httpException 422 error.str)
  | _ => raise error

/-- `POST /events`. -/
def receiveEvent (correlationId : Option String) (request : ShipmentEventRequest) :
    Py Shipment :=
  getDb do
    let receivedAt : DateTime ← call .now
    let event := request.event receivedAt
    let shipment ← tryExcept (recordEvent correlationId event) (recoverEvent event)
    call (.respond { statusCode := 200, shipment := some shipment })
    pure shipment

/-! ## Workers -/

/-- The ingestion worker's `handle_event`. -/
def handleEvent (correlationId : Option String) (event : ShipmentEvent) : Py Unit :=
  transaction do
    let _ ← ReceiveShipmentEvent.execute correlationId event

/-- The relay's `publish_one`. -/
def publishOne (retryDelay : Int) : Py Bool := do
  let result ←
    tryExcept (onExit (sessionBegin (PublishOutboxEvent.execute retryDelay)) Session.close)
      (fun error => do
        call .observe
        raise error)
  match result with
  | none => pure false
  | some _ => do
      call .observe
      pure true

/-! ## The system -/

/-- What a process is asked to do. -/
inductive Request where
  | createShipment (correlationId : Option String) (input : CreateShipmentInput)
  | receiveEvent (correlationId : Option String) (request : ShipmentEventRequest)
  | handleEvent (correlationId : Option String) (event : ShipmentEvent)
  | publishOne (retryDelay : Int)
deriving DecidableEq, Repr

namespace Request

/-- The process's code, whose value is dropped: what it tells its caller has
been answered, returned or raised by then. -/
def code : Request → Py Unit
  | .createShipment correlationId input => do
      let _ ← Freight.createShipment correlationId input
  | .receiveEvent correlationId request => do
      let _ ← Freight.receiveEvent correlationId request
  | .handleEvent correlationId event => Freight.handleEvent correlationId event
  | .publishOne retryDelay => do
      let _ ← Freight.publishOne retryDelay

/-- The process, with a session of its own. -/
def program (request : Request) :
    Program Statement (fun op => Except PyError (Reply op)) (Except PyError Unit × Session) :=
  request.code {}

end Request

/-- Any number of processes over one server.  A process that is killed leaves
its transaction to the server, which discards it. -/
def platform (server : Server) (requests : ProcessId → Request) :
    Interaction.System Statement (fun op => Except PyError (Reply op)) World Choice
      (Except PyError Unit × Session) where
  act := server.perform
  crash := World.discard
  program := fun process => (requests process).program

/-- A state of the platform. -/
abbrev PlatformState : Type :=
  Interaction.System.State Statement (fun op => Except PyError (Reply op)) World
    (Except PyError Unit × Session)

end Freight
