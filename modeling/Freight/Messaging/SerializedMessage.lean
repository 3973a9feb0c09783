/-
Module: Freight.Messaging.SerializedMessage
Purpose: The outbound message with its body as the text it is: written when the event is
  recorded, parsed for its column, and written again from the column for each claim.
Trusted boundary: none
Main exports:
  SerializedMessage, SerializedMessage.fromEvent, SerializedMessage.model,
  SerializedMessage.ofModel, SerializedMessage.fromEvent_ok, SerializedMessage.model_ok
-/
import Freight.Database.Session
import Freight.Text.JsonRoundTrip

namespace Freight

open JsonText (dumps loads)

/-- `RecordedEventMessage`, with its body as text. -/
structure SerializedMessage where
  messageId : UUID
  eventId : UUID
  shipmentId : UUID
  body : String
  correlationId : Option String := none
deriving DecidableEq, Repr

namespace SerializedMessage

/-- `from_event`, after its call of `uuid4`. -/
def fromEvent (interpreter : Interpreter) (messageId : UUID) (event : ShipmentEvent)
    (correlationId : Option String) : Except PyError SerializedMessage := do
  let payload := event.payload.plain
  if !payload.isDict then
    throw (.value "Recorded-event payload must be an object")
  let body ← dumps interpreter (RecordedEventMessage.envelope messageId event payload)
  pure
    { messageId := messageId
      eventId := event.eventId
      shipmentId := event.shipmentId
      body := body
      correlationId := correlationId }

/-- The row that `add` builds: `json.loads` of the body for its payload. -/
def model (interpreter : Interpreter) (message : SerializedMessage) (now : DateTime) :
    Except PyError OutboxEventModel := do
  let payload ← loads interpreter message.body
  pure
    { id := message.messageId
      eventId := message.eventId
      shipmentId := message.shipmentId
      messageType := eventRecordedRoutingKey
      payload := payload
      createdAt := now
      nextAttemptAt := now
      attempts := 0
      correlationId := message.correlationId }

/-- The message that `claim_next` builds of a row. -/
def ofModel (interpreter : Interpreter) (model : OutboxEventModel) :
    Except PyError SerializedMessage := do
  let body ← dumps interpreter model.payload
  pure
    { messageId := model.id
      eventId := model.eventId
      shipmentId := model.shipmentId
      body := body
      correlationId := (SQLAlchemyOutboxRepository.message model).correlationId }

/-! ## The documents behind the texts -/

section Documents

variable {interpreter : Interpreter} {messageId : UUID} {event : ShipmentEvent}
  {correlationId : Option String} {message : SerializedMessage}

/-- An envelope can be read back when the payload and the source can. -/
theorem envelope_wire {payload : Json} (source : event.source.Wire) (wire : payload.Wire) :
    (RecordedEventMessage.envelope messageId event payload).Wire := by
  have keys : ["contract_version", "message_type", "message_id", "event_id", "shipment_id",
      "event_type", "source", "occurred_at", "received_at", "payload",
      "processing_status"].Nodup := by decide
  refine ⟨keys, ?_⟩
  exact ⟨trivial, trivial, trivial, trivial, trivial, trivial, source, trivial, trivial, wire,
    trivial, trivial⟩

/-- A message that is built has the text of the document for its body. -/
theorem fromEvent_ok (built : fromEvent interpreter messageId event correlationId =
      .ok message) :
    ∃ document, RecordedEventMessage.fromEvent messageId event correlationId = .ok document ∧
      document.body = RecordedEventMessage.envelope messageId event event.payload.plain ∧
      dumps interpreter document.body = .ok message.body ∧
      message.messageId = messageId ∧ message.eventId = event.eventId ∧
      message.shipmentId = event.shipmentId ∧ message.correlationId = correlationId := by
  simp only [fromEvent, bind, Except.bind, throw, throwThe, MonadExceptOf.throw] at built
  split at built
  · cases built
  rename_i object
  split at built
  · cases built
  rename_i body written
  cases built
  have dict : event.payload.plain.isDict = true := by simpa using object
  refine ⟨{
      messageId := messageId
      eventId := event.eventId
      shipmentId := event.shipmentId
      body := RecordedEventMessage.envelope messageId event event.payload.plain
      correlationId := correlationId }, ?_, rfl, written, rfl, rfl, rfl, rfl⟩
  simp only [RecordedEventMessage.fromEvent, dict, if_true]

/-- The row of a message differs from the row of its document in the order of keys only. -/
theorem model_ok {document : RecordedEventMessage} {now : DateTime} {row : OutboxEventModel}
    (wire : document.body.Wire) (written : dumps interpreter document.body = .ok message.body)
    (built : message.model interpreter now = .ok row) :
    row.payload = document.body.sortKeys ∧ row.id = message.messageId ∧
      row.eventId = message.eventId ∧ row.shipmentId = message.shipmentId ∧
      row.correlationId = message.correlationId := by
  simp only [model, bind, Except.bind] at built
  split at built
  · cases built
  rename_i payload decoded
  cases built
  exact ⟨JsonText.eq_sortKeys_of_loads wire written decoded, rfl, rfl, rfl, rfl⟩

theorem ofModel_ok {row : OutboxEventModel} (built : ofModel interpreter row = .ok message) :
    dumps interpreter row.payload = .ok message.body ∧ message.messageId = row.id ∧
      message.eventId = row.eventId ∧ message.shipmentId = row.shipmentId := by
  simp only [ofModel, bind, Except.bind] at built
  split at built
  · cases built
  rename_i body written
  cases built
  exact ⟨written, rfl, rfl, rfl⟩

/-- An event whose envelope can be written is recorded, where the decoder may go as deep as
the encoder. -/
theorem exists_stored {body : String} (now : DateTime)
    (object : event.payload.plain.isDict = true) (source : event.source.Wire)
    (wire : event.payload.plain.Wire)
    (written : dumps interpreter
      (RecordedEventMessage.envelope messageId event event.payload.plain) = .ok body)
    (deeper : interpreter.encodeDepth ≤ interpreter.decodeDepth) :
    ∃ message stored, fromEvent interpreter messageId event correlationId = .ok message ∧
      message.model interpreter now = .ok stored ∧
      stored.payload =
        (RecordedEventMessage.envelope messageId event event.payload.plain).sortKeys := by
  have decoded := JsonText.loads_dumps_ok (envelope_wire source wire) written deeper
  let message : SerializedMessage :=
    { messageId := messageId
      eventId := event.eventId
      shipmentId := event.shipmentId
      body := body
      correlationId := correlationId }
  let stored : OutboxEventModel :=
    { id := messageId
      eventId := event.eventId
      shipmentId := event.shipmentId
      messageType := eventRecordedRoutingKey
      payload := (RecordedEventMessage.envelope messageId event event.payload.plain).sortKeys
      createdAt := now
      nextAttemptAt := now
      attempts := 0
      correlationId := correlationId }
  have build : fromEvent interpreter messageId event correlationId = .ok message := by
    simp only [fromEvent, object, written, message]
    rfl
  have store : message.model interpreter now = .ok stored := by
    simp only [model, message, decoded, stored]
    rfl
  exact ⟨message, stored, build, store, rfl⟩

end Documents

end SerializedMessage

end Freight
