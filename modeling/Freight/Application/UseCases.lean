/-
Module: Freight.Application.UseCases
Purpose: The three use cases that write to the store.
Trusted boundary: none
Main exports:
  CreateShipment.execute, ReceiveShipmentEvent.execute,
  ReceiveShipmentEvent.getCurrentShipment, PublishOutboxEvent.execute
-/
import Freight.Database.Session
import Freight.Domain.Calendar

namespace Freight

open Interaction.Computation (ofExcept raise tryExcept)

/-- `RecordedEventMessage.from_event`, which draws the message id itself. -/
def RecordedEventMessage.record (event : ShipmentEvent) (correlationId : Option String) :
    Py RecordedEventMessage := do
  let messageId : UUID ← call .uuid4
  ofExcept (RecordedEventMessage.fromEvent messageId event correlationId)

/-! ## Creation -/

structure CreateShipmentInput where
  referenceNumber : String
  origin : String
  destination : String
  carrier : String
deriving DecidableEq, Repr

namespace CreateShipment

/-- The event that records a creation. -/
def createdEvent (eventId : UUID) (shipment : Shipment) (createdAt receivedAt : DateTime) :
    ShipmentEvent where
  eventId := eventId
  shipmentId := shipment.id
  eventType := .shipmentCreated
  source := .str "platform"
  occurredAt := createdAt
  receivedAt := receivedAt
  payload := .json (.obj [])

def execute (correlationId : Option String) (input : CreateShipmentInput) :
    Py Shipment := do
  let createdAt : DateTime ← call .now
  let id : UUID ← call .uuid4
  let shipment :=
    Shipment.create id input.referenceNumber input.origin input.destination input.carrier
      createdAt
  let eventId : UUID ← call .uuid4
  let receivedAt : DateTime ← call .now
  let event := createdEvent eventId shipment createdAt receivedAt
  SQLAlchemyShipmentRepository.save shipment
  SQLAlchemyShipmentEventRepository.save event
  let message ← RecordedEventMessage.record event correlationId
  SQLAlchemyOutboxRepository.add message
  pure shipment

end CreateShipment

/-! ## Reception -/

namespace ReceiveShipmentEvent

def execute (correlationId : Option String) (event : ShipmentEvent) : Py Shipment := do
  if event.eventType = .shipmentCreated then
    raise (.invalidShipmentEvent event.eventType.value)
  else
    match ← SQLAlchemyShipmentRepository.get event.shipmentId with
    | none => raise (.value ("Shipment " ++ event.shipmentId.str ++ " not found."))
    | some shipment =>
        if ← SQLAlchemyShipmentEventRepository.exists event.eventId then
          pure shipment
        else
          let (result, shipment) := ShipmentEventHandler.handle shipment event
          let processingStatus ← ofExcept result
          let recordedEvent := { event with processingStatus := processingStatus }
          SQLAlchemyShipmentEventRepository.save recordedEvent
          SQLAlchemyShipmentRepository.save shipment
          let message ← RecordedEventMessage.record recordedEvent correlationId
          SQLAlchemyOutboxRepository.add message
          pure shipment

/-- Reload the persisted projection after a transaction-level conflict. -/
def getCurrentShipment (shipmentId : UUID) : Py (Option Shipment) :=
  SQLAlchemyShipmentRepository.get shipmentId

end ReceiveShipmentEvent

/-! ## Publication -/

/-- The datetime after a delta in microseconds. -/
def DateTime.add (value : DateTime) (delta : Int) : DateTime :=
  { value with wall := value.wall + delta }

/-- `datetime + timedelta`: from `datetime.min` to `datetime.max`. -/
def DateTime.plus (value : DateTime) (delta : Int) : Except PyError DateTime :=
  if 0 ≤ (value.add delta).wall ∧ (value.add delta).wall < DateTime.ending then
    .ok (value.add delta)
  else .error (.exception "OverflowError" "date value out of range")

theorem DateTime.plus_cases (value : DateTime) (delta : Int) :
    value.plus delta = .ok (value.add delta) ∨
      value.plus delta = .error (.exception "OverflowError" "date value out of range") := by
  unfold DateTime.plus
  split
  · exact .inl rfl
  · exact .inr rfl

structure PublicationResult where
  message : RecordedEventMessage
  confirmed : Bool
  errorType : Option String := none
deriving DecidableEq, Repr

namespace ObservedPublisher

/-- `ObservedPublisher.publish`: the observation runs on both exits. -/
def publish (message : RecordedEventMessage) : Py Unit :=
  Interaction.Computation.onExit (call (.publish message)) (call .observe)

end ObservedPublisher

namespace PublishOutboxEvent

def execute (retryDelay : Int) : Py (Option PublicationResult) := do
  let claimedAt : DateTime ← call .now
  match ← SQLAlchemyOutboxRepository.claimNext claimedAt with
  | none => pure none
  | some message =>
      -- the `else` branch of the `try` statement is outside its `except`
      let failure : Option PyError ←
        tryExcept
          (do
            ObservedPublisher.publish message
            pure none)
          (fun error => pure (some error))
      let now : DateTime ← call .now
      match failure with
      | some error =>
          let retryAt ← ofExcept (now.plus retryDelay)
          SQLAlchemyOutboxRepository.markFailed message.messageId retryAt
            (SQLAlchemyOutboxRepository.truncated error.typeName)
          pure (some { message, confirmed := false, errorType := some error.typeName })
      | none =>
          SQLAlchemyOutboxRepository.markPublished message.messageId now
          pure (some { message, confirmed := true })

end PublishOutboxEvent

end Freight
