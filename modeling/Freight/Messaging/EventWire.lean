/-
Module: Freight.Messaging.EventWire
Purpose: The inbound message on its way: built of an event, written as text, and read again
  by the standard library's readers.
Trusted boundary: none
Main exports:
  ShipmentEventMessage.fromEvent, ShipmentEventMessage.toJson, UUID.ofText, UUID.ofText_str,
  Decoders.standard, ShipmentEventMessage.fromJson_toJson
-/
import Freight.Messaging.ShipmentEventMessage
import Freight.Text.Ascii
import Freight.Text.IsoFormat
import Freight.Text.JsonLimits

namespace Freight

open JsonText (dumps loads)

/-! ## Writing -/

namespace ShipmentEventMessage

/-- `from_event`. -/
def fromEvent (messageId : UUID) (event : ShipmentEvent) : Except PyError ShipmentEventMessage :=
  let payload := event.payload.plain
  if payload.isDict then
    .ok
      { messageId := messageId
        eventId := event.eventId
        shipmentId := event.shipmentId
        eventType := event.eventType
        source := event.source
        occurredAt := event.occurredAt
        receivedAt := event.receivedAt
        payload := payload }
  else .error (.value "Shipment-event message payload must be an object.")

/-- The dictionary that `to_json` writes. -/
def document (message : ShipmentEventMessage) : Json :=
  .obj
    [("contract_version", .str message.contractVersion),
      ("message_id", .str message.messageId.str),
      ("event_id", .str message.eventId.str),
      ("shipment_id", .str message.shipmentId.str),
      ("event_type", .str message.eventType.value),
      ("source", message.source),
      ("occurred_at", .str message.occurredAt.isoformat),
      ("received_at", .str message.receivedAt.isoformat),
      ("payload", message.payload)]

/-- `to_json`. -/
def toJson (interpreter : Interpreter) (message : ShipmentEventMessage) : Except PyError String :=
  dumps interpreter message.document

end ShipmentEventMessage

/-! ## Reading -/

/-- `UUID(text)` of 32 hexadecimal digits, with hyphens anywhere. -/
def UUID.ofText (text : String) : Option UUID :=
  let digits := text.toList.filter (· ≠ '-')
  if digits.length = 32 then (hexNumeral digits).map fun int => { int := BitVec.ofNat 128 int }
  else none

/-- The readers of the standard library: what they make of a body in ASCII, of an identifier in
hexadecimal digits, and of a datetime as `isoformat` writes it.  What they make of any other
text is what `others` make of it. -/
def Decoders.standard (interpreter : Interpreter) (others : Decoders) : Decoders where
  loads body :=
    match Text.ofBytes body with
    | some text => JsonText.loads interpreter text
    | none => others.loads body
  uuid text := (UUID.ofText text).or (others.uuid text)
  fromisoformat text := (DateTime.ofIsoformat text).or (others.fromisoformat text)

theorem ne_hyphen_of_mem_hexDigits {width value : Nat} {character : Char}
    (member : character ∈ hexDigits width value) : character ≠ '-' := by
  have digits : ∀ digit < 16, hexDigit digit ≠ '-' := by decide
  induction width generalizing value with
  | zero => cases member
  | succ width inductionHypothesis =>
      rcases List.mem_append.mp member with before | last
      · exact inductionHypothesis before
      · obtain rfl := List.mem_singleton.mp last
        exact digits _ (Nat.mod_lt _ (by decide))

/-- A text that is cut at hyphens is whole again without them. -/
theorem filter_groups {digits : List Char} (plain : ∀ digit ∈ digits, digit ≠ '-') :
    (digits.take 8 ++ '-' :: (digits.drop 8).take 4 ++ '-' :: (digits.drop 12).take 4 ++
      '-' :: (digits.drop 16).take 4 ++ '-' :: digits.drop 20).filter (· ≠ '-') = digits := by
  have kept : ∀ first count, ((digits.drop first).take count).filter (· ≠ '-') =
      (digits.drop first).take count := by
    intro first count
    refine List.filter_eq_self.mpr ?_
    intro digit member
    exact decide_eq_true (plain digit (List.mem_of_mem_drop (List.mem_of_mem_take member)))
  have head : (digits.take 8).filter (· ≠ '-') = digits.take 8 := kept 0 8
  have tail : (digits.drop 20).filter (· ≠ '-') = digits.drop 20 := by
    refine List.filter_eq_self.mpr ?_
    intro digit member
    exact decide_eq_true (plain digit (List.mem_of_mem_drop member))
  have hyphen : ∀ rest : List Char, ('-' :: rest).filter (· ≠ '-') = rest.filter (· ≠ '-') :=
    fun rest => List.filter_cons_of_neg (by decide)
  have joined : ∀ first, (digits.drop first).take 4 ++ digits.drop (first + 4) =
      digits.drop first := by
    intro first
    rw [← List.drop_drop, List.take_append_drop]
  rw [List.filter_append, List.filter_append, List.filter_append, List.filter_append, head,
    hyphen, hyphen, hyphen, hyphen, kept, kept, kept, tail, List.append_assoc,
    List.append_assoc, List.append_assoc, joined 16, joined 12, joined 8,
    List.take_append_drop]

/-- An identifier is read back from its text. -/
theorem UUID.ofText_str (id : UUID) : ofText id.str = some id := by
  obtain ⟨int⟩ := id
  have digits : (UUID.str ⟨int⟩).toList.filter (· ≠ '-') = hexDigits 32 int.toNat := by
    rw [UUID.str, String.toList_ofList]
    exact filter_groups fun digit member => ne_hyphen_of_mem_hexDigits member
  have value : hexNumeral (hexDigits 32 int.toNat) = some int.toNat := by
    have below : int.toNat < 16 ^ 32 := int.isLt
    rw [hexNumeral_hexDigits, Nat.mod_eq_of_lt below]
  rw [ofText, digits, if_pos (length_hexDigits 32 int.toNat), value, Option.map_some,
    BitVec.ofNat_toNat, BitVec.setWidth_eq]

/-! ## There and back -/

namespace ShipmentEventMessage

/-- The message that is read back: its documents with their keys in order, and its datetimes as
they are read. -/
def reread (message : ShipmentEventMessage) : ShipmentEventMessage :=
  { message with
    source := message.source.sortKeys
    occurredAt := message.occurredAt.reread
    receivedAt := message.receivedAt.reread
    payload := message.payload.sortKeys }

section

variable {interpreter : Interpreter} {others : Decoders} {message : ShipmentEventMessage}

/-- A document can be read back when the payload and the source can. -/
theorem document_wire (source : message.source.Wire) (payload : message.payload.Wire) :
    message.document.Wire := by
  have keys : ["contract_version", "message_id", "event_id", "shipment_id", "event_type",
      "source", "occurred_at", "received_at", "payload"].Nodup := by decide
  exact ⟨keys, trivial, trivial, trivial, trivial, trivial, source, trivial, trivial, payload,
    trivial⟩

/-- It is within the limits that leave room for one more object. -/
theorem document_within {allowed : Int → Prop} {depth : Nat}
    (source : message.source.Within allowed depth)
    (payload : message.payload.Within allowed depth) :
    message.document.Within allowed (depth + 1) := by
  have scalar : ∀ text : String, (Json.str text).Within allowed depth := by
    intro text
    cases depth <;> trivial
  exact ⟨scalar _, scalar _, scalar _, scalar _, scalar _, source, scalar _, scalar _, payload,
    trivial⟩

/-- An item of a document, once its keys are sorted. -/
theorem item_sortKeys {document value : Json} {key : String} (wire : document.Wire)
    (present : document.get key = some value) :
    item document.sortKeys key = .ok value.sortKeys := by
  have sorted := Json.get_sortKeys wire key
  rw [present] at sorted
  cases document with
  | obj fields =>
      simp only [Json.sortKeys, Json.get_obj, Option.map_some] at sorted
      simp only [Json.sortKeys, item, sorted]
  | _ => cases present

theorem uuidOf_ofText (id : UUID) :
    uuidOf (Decoders.standard interpreter others) (.str id.str) = .ok id := by
  simp only [uuidOf, Decoders.standard, UUID.ofText_str, Option.some_or]

theorem datetimeOf_isoformat {value : DateTime} (representable : value.Representable) :
    datetimeOf (Decoders.standard interpreter others) (.str value.isoformat) =
      .ok value.reread := by
  simp only [datetimeOf, Decoders.standard, DateTime.ofIsoformat_isoformat representable,
    Option.some_or]

theorem eventTypeOf_value (eventType : ShipmentEventType) :
    eventTypeOf (.str eventType.value) = .ok eventType := by
  simp only [eventTypeOf, ShipmentEventType.ofValue_value]

/-- The text of a message, as bytes. -/
theorem standard_loads {text : String} (written : message.toJson interpreter = .ok text) :
    (Decoders.standard interpreter others).loads (Text.bytes text) =
      loads interpreter text := by
  have ascii : Text.Ascii text.toList := by
    rw [← (JsonText.dumps_ok_iff.mp written).2, String.toList_ofList]
    exact JsonText.ascii_write _
  simp only [Decoders.standard, Text.ofBytes_bytes ascii]

/-- The items that the decoder reads of a document whose keys are sorted. -/
structure Items (message : ShipmentEventMessage) (data : Json) : Prop where
  contractVersion : item data "contract_version" = .ok (.str message.contractVersion)
  messageId : item data "message_id" = .ok (.str message.messageId.str)
  eventId : item data "event_id" = .ok (.str message.eventId.str)
  shipmentId : item data "shipment_id" = .ok (.str message.shipmentId.str)
  eventType : item data "event_type" = .ok (.str message.eventType.value)
  source : item data "source" = .ok message.source.sortKeys
  occurredAt : item data "occurred_at" = .ok (.str message.occurredAt.isoformat)
  receivedAt : item data "received_at" = .ok (.str message.receivedAt.isoformat)
  payload : item data "payload" = .ok message.payload.sortKeys

theorem document_items (wire : message.document.Wire) :
    Items message message.document.sortKeys := by
  have get : ∀ {key : String} {value : Json}, message.document.get key = some value →
      item message.document.sortKeys key = .ok value.sortKeys := item_sortKeys wire
  have text : ∀ {key text : String}, message.document.get key = some (.str text) →
      item message.document.sortKeys key = .ok (.str text) := by
    intro key text present
    have scalar : (Json.str text).sortKeys = .str text := by simp only [Json.sortKeys]
    rw [get present, scalar]
  exact
    { contractVersion := text (by simp [document])
      messageId := text (by simp [document, List.lookup_cons])
      eventId := text (by simp [document, List.lookup_cons])
      shipmentId := text (by simp [document, List.lookup_cons])
      eventType := text (by simp [document, List.lookup_cons])
      source := get (by simp [document, List.lookup_cons])
      occurredAt := text (by simp [document, List.lookup_cons])
      receivedAt := text (by simp [document, List.lookup_cons])
      payload := get (by simp [document, List.lookup_cons]) }

/-- What `from_json` makes of the text of a message. -/
theorem fromJson_toJson {text : String}
    (version : message.contractVersion = Freight.contractVersion)
    (object : message.payload.isDict = true) (source : message.source.Wire)
    (payload : message.payload.Wire) (occurred : message.occurredAt.Representable)
    (received : message.receivedAt.Representable)
    (written : message.toJson interpreter = .ok text)
    (within : message.document.Within interpreter.Takes interpreter.decodeDepth) :
    fromJson (Decoders.standard interpreter others) (Text.bytes text) = .ok message.reread := by
  have wire := document_wire source payload
  have read : (Decoders.standard interpreter others).loads (Text.bytes text) =
      .ok message.document.sortKeys :=
    (standard_loads written).trans (JsonText.loads_of_within wire written within)
  have items := document_items wire
  have sortedObject : message.payload.sortKeys.isDict = true := by
    rw [Json.isDict_sortKeys, object]
  have decoded : decode (Decoders.standard interpreter others) (Text.bytes text) =
      .ok message.reread := by
    simp only [decode, read, bind, Except.bind, items.contractVersion, version, ne_eq,
      not_true_eq_false, if_false, items.payload, sortedObject, items.messageId, items.eventId,
      items.shipmentId, items.eventType, items.source, items.occurredAt, items.receivedAt,
      uuidOf_ofText, eventTypeOf_value, datetimeOf_isoformat occurred,
      datetimeOf_isoformat received]
    obtain ⟨messageId, eventId, shipmentId, eventType, own, occurredAt, receivedAt, data,
      contract⟩ := message
    cases version
    rfl
  simp only [fromJson, decoded]

end

end ShipmentEventMessage

end Freight
