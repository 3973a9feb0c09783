/-
Module: Freight.Application.RecordedEventMessage
Purpose: The outbound snapshot of a recorded event.
Trusted boundary: none
Main exports:
  eventRecordedRoutingKey, RecordedEventMessage, RecordedEventMessage.envelope,
  RecordedEventMessage.fromEvent
-/
import Freight.Domain.Shipment

namespace Freight

/-- `EVENT_RECORDED_ROUTING_KEY`. -/
def eventRecordedRoutingKey : String := "shipment.event.recorded.v1"

/-- A snapshot of a recorded fact, never an ingestion command.  The body is the
JSON document that the sorted compact encoder writes down: reading the text
back, storing it and writing it again are all determined by that document. -/
structure RecordedEventMessage where
  messageId : UUID
  eventId : UUID
  shipmentId : UUID
  body : Json
  correlationId : Option String := none
deriving DecidableEq, Repr

namespace RecordedEventMessage

/-- The `envelope` dictionary of `from_event`. -/
def envelope (messageId : UUID) (event : ShipmentEvent) (payload : Json) : Json :=
  .obj
    [("contract_version", .str "v1"),
     ("message_type", .str eventRecordedRoutingKey),
     ("message_id", .str messageId.str),
     ("event_id", .str event.eventId.str),
     ("shipment_id", .str event.shipmentId.str),
     ("event_type", .str event.eventType.value),
     ("source", event.source),
     ("occurred_at", .str event.occurredAt.isoformat),
     ("received_at", .str event.receivedAt.isoformat),
     ("payload", payload),
     ("processing_status", .str event.processingStatus.value)]

/-- `RecordedEventMessage.from_event`, after its call of `uuid4`. -/
def fromEvent (messageId : UUID) (event : ShipmentEvent) (correlationId : Option String) :
    Except PyError RecordedEventMessage :=
  let payload := event.payload.plain
  if payload.isDict then
    .ok
      { messageId := messageId
        eventId := event.eventId
        shipmentId := event.shipmentId
        body := envelope messageId event payload
        correlationId := correlationId }
  else .error (.value "Recorded-event payload must be an object")

theorem fromEvent_error {messageId : UUID} {event : ShipmentEvent}
    {correlationId : Option String} {error : PyError}
    (rejected : fromEvent messageId event correlationId = .error error) :
    error = .value "Recorded-event payload must be an object" := by
  simp only [fromEvent] at rejected
  split at rejected
  · cases rejected
  · exact (Except.error.inj rejected).symm

theorem fromEvent_ok {messageId : UUID} {event : ShipmentEvent}
    {correlationId : Option String} {message : RecordedEventMessage}
    (built : fromEvent messageId event correlationId = .ok message) :
    event.payload.plain.isDict = true ∧
      message =
        { messageId := messageId
          eventId := event.eventId
          shipmentId := event.shipmentId
          body := envelope messageId event event.payload.plain
          correlationId := correlationId } := by
  simp only [fromEvent] at built
  split at built
  · rename_i object
    exact ⟨object, (Except.ok.inj built).symm⟩
  · cases built

end RecordedEventMessage

end Freight
