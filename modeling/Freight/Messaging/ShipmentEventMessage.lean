/-
Module: Freight.Messaging.ShipmentEventMessage
Purpose: The inbound message and its decoder.
Trusted boundary: none
Main exports:
  Decoders, ShipmentEventMessage, ShipmentEventMessage.toEvent,
  ShipmentEventMessage.fromJson
-/
import Freight.Domain.Shipment
import Freight.Messaging.Amqp

namespace Freight

/-- `CONTRACT_VERSION`. -/
def contractVersion : String := "v1"

/-- `EVENT_RECEIVED_ROUTING_KEY`. -/
def eventReceivedRoutingKey : String := "shipment.event.received.v1"

/-- `ShipmentEventType(value)` for a string. -/
def ShipmentEventType.ofValue (value : String) : Option ShipmentEventType :=
  [.shipmentCreated, .pickupScheduled, .pickupCompleted, .shipmentDeparted, .locationUpdated,
    .delayDetected, .delivered].find? fun eventType => eventType.value = value

theorem ShipmentEventType.ofValue_value (eventType : ShipmentEventType) :
    ofValue eventType.value = some eventType := by
  cases eventType <;> decide

/-- The readers of the standard library that the decoder calls: `json.loads`, and
`UUID` and `datetime.fromisoformat` of a string, which raise a `ValueError` where
they have no value. -/
structure Decoders where
  loads : Bytes → Except PyError Json
  uuid : String → Option UUID
  fromisoformat : String → Option DateTime

/-- `ShipmentEventMessage`. -/
structure ShipmentEventMessage where
  messageId : UUID
  eventId : UUID
  shipmentId : UUID
  eventType : ShipmentEventType
  source : Json
  occurredAt : DateTime
  receivedAt : DateTime
  payload : Json
  contractVersion : String := Freight.contractVersion
deriving DecidableEq, Repr

namespace ShipmentEventMessage

/-- `to_event`. -/
def toEvent (message : ShipmentEventMessage) : ShipmentEvent where
  eventId := message.eventId
  shipmentId := message.shipmentId
  eventType := message.eventType
  source := message.source
  occurredAt := message.occurredAt
  receivedAt := message.receivedAt
  payload := .json message.payload
  processingStatus := .applied

/-- `data[key]`. -/
def item (data : Json) (key : String) : Except PyError Json :=
  match data with
  | .obj fields =>
      match fields.lookup key with
      | some value => .ok value
      | none => .error (.exception "KeyError" ("'" ++ key ++ "'"))
  | .arr _ => .error (.typeError "list indices must be integers or slices, not str")
  | .str _ => .error (.typeError "string indices must be integers, not 'str'")
  | .null => .error (.typeError "'NoneType' object is not subscriptable")
  | .bool _ => .error (.typeError "'bool' object is not subscriptable")
  | .int _ => .error (.typeError "'int' object is not subscriptable")
  | .float _ => .error (.typeError "'float' object is not subscriptable")

variable (decoders : Decoders)

/-- `UUID(value)`: what is neither a string nor `None` has no method `replace`. -/
def uuidOf (value : Json) : Except PyError UUID :=
  match value with
  | .str text =>
      match decoders.uuid text with
      | some id => .ok id
      | none => .error (.value "badly formed hexadecimal UUID string")
  | .null =>
      .error (.typeError
        "one of the hex, bytes, bytes_le, fields, or int arguments must be given")
  | _ => .error (.exception "AttributeError" "object has no attribute 'replace'")

/-- `ShipmentEventType(value)`. -/
def eventTypeOf (value : Json) : Except PyError ShipmentEventType :=
  let invalid : PyError := .value "not a valid ShipmentEventType"
  match value with
  | .str text =>
      match ShipmentEventType.ofValue text with
      | some eventType => .ok eventType
      | none => .error invalid
  | _ => .error invalid

/-- `datetime.fromisoformat(value)`. -/
def datetimeOf (value : Json) : Except PyError DateTime :=
  match value with
  | .str text =>
      match decoders.fromisoformat text with
      | some value => .ok value
      | none => .error (.value "Invalid isoformat string")
  | _ => .error (.typeError "fromisoformat: argument must be str")

/-- The body of the `try` statement of `from_json`. -/
def decode (body : Bytes) : Except PyError ShipmentEventMessage := do
  let data ← decoders.loads body
  let version ← item data "contract_version"
  if version ≠ .str Freight.contractVersion then
    throw (.value "Unsupported shipment-event message contract version.")
  let payload ← item data "payload"
  if !payload.isDict then
    throw (.value "Shipment-event message payload must be an object.")
  let messageId ← uuidOf decoders (← item data "message_id")
  let eventId ← uuidOf decoders (← item data "event_id")
  let shipmentId ← uuidOf decoders (← item data "shipment_id")
  let eventType ← eventTypeOf (← item data "event_type")
  let source ← item data "source"
  let occurredAt ← datetimeOf decoders (← item data "occurred_at")
  let receivedAt ← datetimeOf decoders (← item data "received_at")
  pure
    { messageId, eventId, shipmentId, eventType, source, occurredAt, receivedAt, payload }

/-- `from_json`: a `KeyError`, a `TypeError` or any `ValueError` becomes one
`ValueError`; anything else gets through. -/
def fromJson (body : Bytes) : Except PyError ShipmentEventMessage :=
  match decode decoders body with
  | .ok message => .ok message
  | .error (.exception "KeyError" _) | .error (.typeError _) | .error (.valueError _ _) =>
      .error (.value "Invalid shipment-event message.")
  | .error error => .error error

variable {decoders} {body : Bytes} {message : ShipmentEventMessage}

/-- An accepted message has an object for a payload. -/
theorem fromJson_payload (decoded : fromJson decoders body = .ok message) :
    ∃ fields, message.payload = .obj fields := by
  have accepted : decode decoders body = .ok message := by
    unfold fromJson at decoded
    split at decoded
    · rename_i equality
      rw [equality, decoded]
    all_goals cases decoded
  simp only [decode, bind, Except.bind, throw, throwThe, MonadExceptOf.throw] at accepted
  split at accepted
  · cases accepted
  split at accepted
  · cases accepted
  split at accepted
  · cases accepted
  split at accepted
  · cases accepted
  rename_i payload _
  split at accepted
  · cases accepted
  rename_i object
  -- The reads that follow leave the payload alone.
  have same : message.payload = payload := by
    repeat
      split at accepted
      · cases accepted
    cases accepted
    rfl
  rw [same]
  cases payload with
  | obj fields => exact ⟨fields, rfl⟩
  | _ => exact absurd rfl object

end ShipmentEventMessage

end Freight
