/-
Module: Freight.Proofs.WireTransparency
Purpose: An event that goes over the wire is handled as it would have been directly, and the
  text that carries it does not depend on the order of keys.
Trusted boundary: none
Main exports:
  ShipmentEventHandler.handle_sortKeys, WireTransparent, wire_is_transparent, PayloadReturns,
  wire_is_not_transparent
-/
import Freight.Messaging.EventWire
import Freight.Text.CodePoints

namespace Freight

/-! ## What the handler makes of a sorted payload -/

/-- `LocationUpdatedPayload(**payload)` takes the arguments in any order. -/
theorem LocationUpdatedPayload.ofDict_sortKeys {allowed : Double → Prop} {payload : Json}
    (wellFormed : payload.WellFormed allowed) :
    ofDict payload.sortKeys = (ofDict payload).map fun location =>
      { latitude := location.latitude.sortKeys, longitude := location.longitude.sortKeys } := by
  cases payload with
  | obj fields =>
      have latitude := Json.get_sortKeys wellFormed "latitude"
      have longitude := Json.get_sortKeys wellFormed "longitude"
      simp only [Json.sortKeys, Json.get_obj] at latitude longitude
      have keys : ((Json.sortFields fields).insertionSort byKey).all
          (fun field => field.1 == "latitude" || field.1 == "longitude") =
          fields.all fun field => field.1 == "latitude" || field.1 == "longitude" := by
        rw [(List.perm_insertionSort byKey _).all_eq, Json.sortFields_eq_map, List.all_map]
        rfl
      simp only [Json.sortKeys, ofDict, keys, latitude, longitude]
      split
      · cases fields.lookup "latitude" <;> cases fields.lookup "longitude" <;> rfl
      · rfl
  | _ => simp only [Json.sortKeys]; rfl

/-- Two projections that are the same but for the order of keys inside the coordinates. -/
def Shipment.Reordered (one two : Shipment) : Prop :=
  ∃ latitude longitude, Json.Reordered one.currentLatitude latitude ∧
    Json.Reordered one.currentLongitude longitude ∧
    two = { one with currentLatitude := latitude, currentLongitude := longitude }

theorem Shipment.Reordered.refl (shipment : Shipment) : shipment.Reordered shipment :=
  ⟨_, _, .refl _, .refl _, rfl⟩

namespace ShipmentEventHandler

/-- The location that a payload carries, and the one that it carries once it has been plain
JSON with its keys in order. -/
inductive SameLocation : Except PyError LocationUpdatedPayload →
    Except PyError LocationUpdatedPayload → Prop where
  | error (error : PyError) : SameLocation (.error error) (.error error)
  | ok (location : LocationUpdatedPayload) : SameLocation (.ok location)
      (.ok { latitude := location.latitude.sortKeys, longitude := location.longitude.sortKeys })

theorem locationPayload_sortKeys {allowed : Double → Prop} {payload : Payload}
    (object : payload.plain.isDict = true) (wellFormed : payload.plain.WellFormed allowed) :
    SameLocation (locationPayload payload) (locationPayload (.json payload.plain.sortKeys)) := by
  have sorted := LocationUpdatedPayload.ofDict_sortKeys wellFormed
  have sortedObject : payload.plain.sortKeys.isDict = true := by
    rw [Json.isDict_sortKeys, object]
  cases payload with
  | location location =>
      have plain : LocationUpdatedPayload.ofDict location.asdict = some location := by
        simp [LocationUpdatedPayload.asdict, LocationUpdatedPayload.ofDict, List.lookup_cons]
      simp only [Payload.plain] at sorted sortedObject ⊢
      rw [plain, Option.map_some] at sorted
      simp only [locationPayload, sortedObject, if_true, sorted]
      exact .ok location
  | json value =>
      simp only [Payload.plain] at sorted sortedObject object ⊢
      simp only [locationPayload, sortedObject, object, if_true, sorted]
      cases LocationUpdatedPayload.ofDict value with
      | none => exact .error _
      | some location => exact .ok location

/-- Two events that are handled alike: the payload of the other is plain, with its keys in
order. -/
theorem handle_sortKeys {allowed : Double → Prop} {event rebuilt : ShipmentEvent}
    (shipment : Shipment) (object : event.payload.plain.isDict = true)
    (wellFormed : event.payload.plain.WellFormed allowed)
    (sameShipment : rebuilt.shipmentId = event.shipmentId)
    (sameType : rebuilt.eventType = event.eventType)
    (sameTime : rebuilt.occurredAt = event.occurredAt)
    (sorted : rebuilt.payload = .json event.payload.plain.sortKeys) :
    (handle shipment rebuilt).1 = (handle shipment event).1 ∧
      (handle shipment event).2.Reordered (handle shipment rebuilt).2 := by
  have location := locationPayload_sortKeys object wellFormed
  rw [← sorted] at location
  simp only [handle, sameShipment, sameType, sameTime]
  split
  · exact ⟨rfl, .refl _⟩
  split
  · exact ⟨rfl, .refl _⟩
  split
  · generalize locationPayload event.payload = direct at location ⊢
    generalize locationPayload rebuilt.payload = carried at location ⊢
    cases location with
    | error error => exact ⟨rfl, .refl _⟩
    | ok location =>
        dsimp only
        cases isLate shipment.lastLocationAt event.occurredAt with
        | error error => exact ⟨rfl, .refl _⟩
        | ok late =>
            cases late with
            | true => exact ⟨rfl, .refl _⟩
            | false =>
                exact ⟨rfl, _, _, Json.reordered_sortKeys _, Json.reordered_sortKeys _, rfl⟩
  · exact ⟨rfl, .refl _⟩

end ShipmentEventHandler

/-! ## Transparency -/

/-- Two messages that are the same but for the order of keys in their documents. -/
structure ShipmentEventMessage.Reordered (one two : ShipmentEventMessage) : Prop where
  source : Json.Reordered one.source two.source
  payload : Json.Reordered one.payload two.payload
  rest : two = { one with source := two.source, payload := two.payload }

/-- A value that fits into a message: finite numbers and every key once, integers and nesting
within what the encoder and the decoder take, with room for the message around it. -/
structure Json.Portable (interpreter : Interpreter) (value : Json) : Prop where
  wire : value.Wire
  written : value.Within interpreter.Takes (interpreter.encodeDepth - 1)
  read : value.Within interpreter.Takes (interpreter.decodeDepth - 1)

/-- An event goes over the wire as if it had been handled directly: its message is written, read
back as it was, and handled with the same answer and the same effect; and its text does not
depend on the order of keys. -/
def WireTransparent (interpreter : Interpreter) (others : Decoders) (shipment : Shipment)
    (messageId : UUID) (event : ShipmentEvent) : Prop :=
  ∃ message text decoded,
    ShipmentEventMessage.fromEvent messageId event = .ok message ∧
    message.toJson interpreter = .ok text ∧
    ShipmentEventMessage.fromJson (Decoders.standard interpreter others) (Text.bytes text) =
      .ok decoded ∧
    message.Reordered decoded ∧
    (ShipmentEventHandler.handle shipment decoded.toEvent).1 =
      (ShipmentEventHandler.handle shipment event).1 ∧
    (ShipmentEventHandler.handle shipment event).2.Reordered
      (ShipmentEventHandler.handle shipment decoded.toEvent).2 ∧
    ∀ payload, Json.Reordered message.payload payload →
      { message with payload := payload }.toJson interpreter = message.toJson interpreter

section Messages

variable {interpreter : Interpreter} {message : ShipmentEventMessage}

/-- Documents of reordered messages are reordered. -/
theorem ShipmentEventMessage.document_reordered {payload : Json}
    (reordered : Json.Reordered message.payload payload) :
    Json.Reordered message.document { message with payload := payload }.document :=
  Json.Reordered.field
    [("contract_version", .str message.contractVersion),
      ("message_id", .str message.messageId.str),
      ("event_id", .str message.eventId.str),
      ("shipment_id", .str message.shipmentId.str),
      ("event_type", .str message.eventType.value),
      ("source", message.source),
      ("occurred_at", .str message.occurredAt.isoformat),
      ("received_at", .str message.receivedAt.isoformat)]
    [] "payload" reordered

/-- `to_json` does not depend on the order of the payload's keys. -/
theorem ShipmentEventMessage.toJson_reordered {payload : Json} (source : message.source.Wire)
    (wire : message.payload.Wire) (reordered : Json.Reordered message.payload payload) :
    { message with payload := payload }.toJson interpreter = message.toJson interpreter :=
  (JsonText.dumps_reordered (document_wire source wire) (document_reordered reordered)).symm

/-- An object is in no place that is as deep as allowed. -/
theorem Json.within_room {allowed : Int → Prop} {value : Json} {depth : Nat}
    (object : value.isDict = true) (within : value.Within allowed (depth - 1)) :
    depth - 1 + 1 = depth := by
  cases depth with
  | zero =>
      cases value with
      | obj fields => cases within
      | _ => cases object
  | succ depth => rfl

end Messages

/-- For every event whose payload and source fit into a message and whose datetimes are a whole
second or more, or nothing, away from UTC: the wire is transparent. -/
theorem wire_is_transparent (interpreter : Interpreter) (others : Decoders) (shipment : Shipment)
    (messageId : UUID) (event : ShipmentEvent) (object : event.payload.plain.isDict = true)
    (payload : event.payload.plain.Portable interpreter)
    (source : event.source.Portable interpreter)
    (occurred : event.occurredAt.Representable ∧ event.occurredAt.Legible)
    (received : event.receivedAt.Representable ∧ event.receivedAt.Legible) :
    WireTransparent interpreter others shipment messageId event := by
  let message : ShipmentEventMessage :=
    { messageId := messageId
      eventId := event.eventId
      shipmentId := event.shipmentId
      eventType := event.eventType
      source := event.source
      occurredAt := event.occurredAt
      receivedAt := event.receivedAt
      payload := event.payload.plain }
  have built : ShipmentEventMessage.fromEvent messageId event = .ok message := if_pos object
  have encoded : message.document.Within interpreter.Takes interpreter.encodeDepth := by
    rw [← Json.within_room object payload.written]
    exact ShipmentEventMessage.document_within source.written payload.written
  have decoded : message.document.Within interpreter.Takes interpreter.decodeDepth := by
    rw [← Json.within_room object payload.read]
    exact ShipmentEventMessage.document_within source.read payload.read
  have written : message.toJson interpreter = .ok _ := JsonText.dumps_ok_of_within encoded
  have read : ShipmentEventMessage.fromJson (Decoders.standard interpreter others)
      (Text.bytes (String.ofList (JsonText.write message.document.sortKeys))) =
        .ok message.reread :=
    ShipmentEventMessage.fromJson_toJson rfl object source.wire payload.wire occurred.1
      received.1 written decoded
  have handled : (ShipmentEventHandler.handle shipment message.reread.toEvent).1 =
        (ShipmentEventHandler.handle shipment event).1 ∧
      (ShipmentEventHandler.handle shipment event).2.Reordered
        (ShipmentEventHandler.handle shipment message.reread.toEvent).2 :=
    ShipmentEventHandler.handle_sortKeys shipment object payload.wire rfl rfl
      (DateTime.reread_legible occurred.2) rfl
  refine ⟨message, _, message.reread, built, written, read, ?_, handled.1, handled.2, ?_⟩
  · refine ⟨Json.reordered_sortKeys _, Json.reordered_sortKeys _, ?_⟩
    simp only [ShipmentEventMessage.reread, message, DateTime.reread_legible occurred.2,
      DateTime.reread_legible received.2]
  · intro other reordered
    exact ShipmentEventMessage.toJson_reordered source.wire payload.wire reordered

/-! ## A message that gets through -/

/-- Readers that read nothing but what the standard library is known to read. -/
def noOthers : Decoders where
  loads _ := .error (.value "Expecting value")
  uuid _ := none
  fromisoformat _ := none

/-- A parcel that is clocked a quarter of a second before the report. -/
def wiredParcel : Shipment where
  id := ⟨1⟩
  referenceNumber := "FR-1"
  origin := "Porto"
  destination := "Lyon"
  carrier := "carrier"
  status := .created
  createdAt := .utc 63924379000000000
  updatedAt := .utc 63924379199750000
  lastLifecycleAt := some (.utc 63924379199750000)

/-- A report with a nested payload, three hours west of Greenwich. -/
def wiredReport : ShipmentEvent where
  eventId := ⟨8⟩
  shipmentId := ⟨1⟩
  eventType := .pickupScheduled
  source := .str "carrier"
  occurredAt := { wall := 63924379200123456, utcoffset := some (-10800000000) }
  receivedAt := .utc 63924390000000000
  payload := .json (.obj
    [("legs", .arr [.obj [("to", .str "Lyon"), ("from", .str "Porto")], .null]),
      ("km", .float (.finite false 5629499534213120 (-51)))])

theorem wiredReport_is_transparent :
    WireTransparent Interpreter.usual noOthers wiredParcel ⟨9⟩ wiredReport := by
  have float : (Double.finite false 5629499534213120 (-51)).Finite :=
    .inr ⟨by norm_num, by norm_num, by norm_num, by norm_num⟩
  have wire : wiredReport.payload.plain.Wire :=
    ⟨by decide, ⟨⟨by decide, trivial, trivial, trivial⟩, trivial, trivial⟩, float, trivial⟩
  have within : wiredReport.payload.plain.Within Interpreter.usual.Takes 999 :=
    ⟨⟨⟨trivial, trivial, trivial⟩, trivial, trivial⟩, trivial, trivial⟩
  refine wire_is_transparent Interpreter.usual noOthers wiredParcel ⟨9⟩ wiredReport rfl
    ⟨wire, within, within⟩ ⟨trivial, trivial, trivial⟩ ⟨⟨by decide, by decide, ?_⟩, ?_⟩
    ⟨⟨by decide, by decide, ?_⟩, ?_⟩
  · rintro _ ⟨⟩
    decide
  · rintro _ ⟨⟩
    exact .inr (by decide)
  · rintro _ ⟨⟩
    decide
  · rintro _ ⟨⟩
    exact .inl rfl

/-! ## Messages that do not -/

/-- The report with a payload that has too many digits. -/
def wiredNumber : ShipmentEvent :=
  { wiredReport with payload := .json (.obj [("parts", .int (10 ^ 4300))]) }

/-- So many arrays inside one another. -/
def nest : Nat → Json
  | 0 => .null
  | depth + 1 => .arr [nest depth]

/-- The report with a payload that is nested too deep. -/
def wiredNest : ShipmentEvent :=
  { wiredReport with payload := .json (.obj [("parts", nest 999)]) }

/-- The report with half a second between its clock and UTC. -/
def wiredHalfSecond : ShipmentEvent :=
  { wiredReport with
    occurredAt := { wall := 63924379200000000, utcoffset := some 500000 }
    payload := .json (.obj []) }

theorem not_within_nest {allowed : Int → Prop} (depth : Nat) :
    ¬ (nest (depth + 1)).Within allowed depth := by
  induction depth with
  | zero => exact id
  | succ depth inductionHypothesis =>
      rintro ⟨inner, -⟩
      exact inductionHypothesis inner

/-- The least integer with more digits than the interpreter writes. -/
theorem not_takes_power {interpreter : Interpreter} (limited : 0 < interpreter.maxStrDigits) :
    ¬ interpreter.Takes (10 ^ interpreter.maxStrDigits) := by
  intro taken
  rw [Interpreter.Takes, Int.natAbs_pow] at taken
  rcases Bool.or_eq_true_iff.mp taken with unlimited | short
  · exact absurd (of_decide_eq_true unlimited) (Nat.ne_of_gt limited)
  · have less := (Nat.length_toDigits_le_iff (by decide) limited).mp (of_decide_eq_true short)
    exact Nat.lt_irrefl _ less

/-- A payload that does not fit is not written. -/
theorem not_transparent_of_not_within {event : ShipmentEvent} {shipment : Shipment}
    {others : Decoders} {messageId : UUID}
    (beyond : ¬ event.payload.plain.Within Interpreter.usual.Takes 999) :
    ¬ WireTransparent Interpreter.usual others shipment messageId event := by
  rintro ⟨message, text, -, built, written, -⟩
  refine JsonText.dumps_error_of_not_within ?_ text written
  rintro ⟨-, -, -, -, -, -, -, -, payload, -⟩
  unfold ShipmentEventMessage.fromEvent at built
  dsimp only at built
  split at built
  · cases built
    exact beyond payload
  · cases built

/-- The message about the report half a second off. -/
def halfSecondMessage : ShipmentEventMessage where
  messageId := ⟨9⟩
  eventId := wiredHalfSecond.eventId
  shipmentId := wiredHalfSecond.shipmentId
  eventType := wiredHalfSecond.eventType
  source := wiredHalfSecond.source
  occurredAt := wiredHalfSecond.occurredAt
  receivedAt := wiredHalfSecond.receivedAt
  payload := .obj []

/-- It is read with another time. -/
theorem halfSecondMessage_reread {text : String}
    (written : halfSecondMessage.toJson Interpreter.usual = .ok text) :
    ShipmentEventMessage.fromJson (Decoders.standard Interpreter.usual noOthers)
      (Text.bytes text) = .ok halfSecondMessage.reread := by
  have payload : halfSecondMessage.payload.Wire := ⟨List.nodup_nil, trivial⟩
  have within : halfSecondMessage.document.Within Interpreter.usual.Takes 1000 :=
    ShipmentEventMessage.document_within trivial trivial
  refine ShipmentEventMessage.fromJson_toJson rfl rfl trivial payload ⟨by decide, by decide, ?_⟩
    ⟨by decide, by decide, ?_⟩ written within
  · rintro _ ⟨⟩
    decide
  · rintro _ ⟨⟩
    decide

/-- A payload with any strings comes back: what the text of the message says under `payload` is
the payload that was written, up to the order of keys. -/
def PayloadReturns (message : ShipmentEventMessage) (payload : PyJson) : Prop :=
  ∃ document returned,
    PyJson.loads (PyJson.dumps ((PyJson.ofJson message.document).replace "payload" payload)) =
        some document ∧
      document.get "payload" = some returned ∧ returned.sortKeys = payload.sortKeys

/-- Without surrogates it does, in a message that goes over the wire. -/
theorem PayloadReturns.of_json {interpreter : Interpreter} {message : ShipmentEventMessage}
    (source : message.source.Wire) (payload : message.payload.Wire)
    (within : message.document.Within interpreter.Takes interpreter.encodeDepth)
    (deeper : interpreter.encodeDepth ≤ interpreter.decodeDepth) :
    PayloadReturns message (.ofJson message.payload) := by
  have wire := ShipmentEventMessage.document_wire source payload
  have written := JsonText.dumps_ok_of_within within
  have read := JsonText.loads_dumps_ok wire written deeper
  have whole : (PyJson.ofJson message.document).replace "payload" (.ofJson message.payload) =
      .ofJson message.document := by
    simp [ShipmentEventMessage.document, PyJson.ofJson, PyJson.ofFields, PyJson.replace,
      PyString.ofString_injective.eq_iff]
  have found : message.document.sortKeys.get "payload" = some message.payload.sortKeys :=
    Json.get_sortKeys wire "payload"
  refine ⟨.ofJson message.document.sortKeys, .ofJson message.payload.sortKeys, ?_, ?_, ?_⟩
  · rw [whole, PyJson.dumps_ofJson written]
    exact PyJson.loads_ofJson read
  · rw [PyJson.get_ofJson, found]
    rfl
  · rw [PyJson.sortKeys_ofJson, PyJson.sortKeys_ofJson, Json.sortKeys_sortKeys payload]

/-- A key that is a pair of surrogates is read back as another key. -/
theorem not_returns_paired :
    ¬ PayloadReturns halfSecondMessage (.obj [PyJson.paired (.int 1)]) := by
  rintro ⟨document, returned, read, found, same⟩
  have shown : ((PyJson.read (PyJson.write ((PyJson.ofJson halfSecondMessage.document).replace
      "payload" (.obj [PyJson.paired (.int 1)])).sortKeys)).bind fun document =>
        (document.get "payload").map fun returned => returned.sortKeys.keys) =
      some [[0x1f600]] := by
    decide +kernel
  rw [← PyJson.loads_dumps, read, Option.bind_some, found, Option.map_some, same] at shown
  revert shown
  decide

/-- An integer of 4301 digits and a payload in which containers stand a thousand deep are not
written, and a report half a second off UTC comes back half a second late: directly it is late
for the clock of the parcel, and from the wire it is not.  A key of two surrogates comes back
as one code point. -/
theorem wire_is_not_transparent :
    ¬ WireTransparent Interpreter.usual noOthers wiredParcel ⟨9⟩ wiredNumber ∧
      ¬ WireTransparent Interpreter.usual noOthers wiredParcel ⟨9⟩ wiredNest ∧
      ¬ WireTransparent Interpreter.usual noOthers wiredParcel ⟨9⟩ wiredHalfSecond ∧
      (ShipmentEventHandler.handle wiredParcel wiredHalfSecond).1 = .ok .storedOutOfOrder ∧
      (ShipmentEventHandler.handle wiredParcel halfSecondMessage.reread.toEvent).1 =
        .ok .applied ∧
      ¬ PayloadReturns halfSecondMessage (.obj [PyJson.paired (.int 1)]) := by
  refine ⟨not_transparent_of_not_within ?_, not_transparent_of_not_within ?_, ?_, by decide,
    by decide, not_returns_paired⟩
  · rintro ⟨taken, -⟩
    exact not_takes_power (by decide) taken
  · rintro ⟨inside, -⟩
    exact not_within_nest 998 inside
  · rintro ⟨message, text, decoded, built, written, read, same, -⟩
    cases built
    rw [halfSecondMessage_reread written] at read
    cases read
    have clocks := congrArg ShipmentEventMessage.occurredAt same.rest
    revert clocks
    decide

end Freight
