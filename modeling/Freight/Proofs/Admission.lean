/-
Module: Freight.Proofs.Admission
Purpose: Which events of the ingestion worker the API would have recorded in the same
  way: those with a source that is not empty and, for a location, two numbers.
Trusted boundary: none
Main exports:
  ShipmentEventMessage.fields, ShipmentEventMessage.Admissible, RecordedByApi,
  handleEvent_recorded, receiveEvent_records, worker_admits_as_api_iff,
  unlocated_admitted_by_worker_only
-/
import Freight.Application.EventSchema
import Freight.Store.Verdicts
import Freight.Messaging.ShipmentEventMessage
import Freight.Proofs.Episodes
import Freight.Proofs.ExactlyOnce

namespace Freight

open Interaction (ProcessId)

/-! ## The two entry points -/

/-- What a message reports, as the fields of a body of `POST /events`. -/
def ShipmentEventMessage.fields (message : ShipmentEventMessage) : ShipmentEventFields where
  eventId := message.eventId
  shipmentId := message.shipmentId
  eventType := message.eventType
  source := message.source
  occurredAt := message.occurredAt
  payload := message.payload

/-- What the schema checks and the decoder does not, but for the length that the
column of the source has as well. -/
def ShipmentEventMessage.Admissible (message : ShipmentEventMessage) : Prop :=
  (∃ text, message.source = .str text ∧ text ≠ "") ∧
    (message.eventType = .locationUpdated → message.payload.Numeric)

/-- A source that is a string has at most the 100 characters of its column. -/
def ShipmentEventModel.FitsColumns (row : ShipmentEventModel) : Prop :=
  ∀ text, row.source = .str text → text.length ≤ 100

/-- The schema accepts what a message reports, and `POST /events`, on the given tables,
answers with success, records what the worker has recorded, received at a moment of its
own, and leaves the same projection. -/
def RecordedByApi (server : Server) (process : ProcessId) (database : Database)
    (message : ShipmentEventMessage) (row : ShipmentEventModel)
    (projection : Option ShipmentModel) : Prop :=
  ∃ request, ShipmentEventRequest.validate message.fields = .ok request ∧
    ∀ correlationId, (receiveEvent correlationId request).ends (server.perform process)
      (fun outcome _ reached => ∃ shipment receivedAt,
        outcome = .ok shipment ∧
          reached.database.event message.eventId =
            some { row with receivedAt := receivedAt } ∧
          reached.database.shipment message.shipmentId = projection)
      {} { base := database }

section Receptions

variable {server : Server} {database : Database} {process : ProcessId}
  {correlationId : Option String} {event : ShipmentEvent}

/-- A start on given tables, before any request. -/
theorem Idle.initial (references : database.References)
    (spare : ∃ id, database.shipment id = none ∧ database.outbox id = none) :
    Idle process { base := database } where
  references := references
  unissued := by
    intro id unused
    simp only [World.issued, Bool.or_eq_false_iff] at unused
    change database.outbox id = none
    simpa using unused.1.2
  fresh := rfl
  locks := rfl
  spare := by
    obtain ⟨id, shipment, outbox⟩ := spare
    exact ⟨id, by simp [World.issued, shipment, outbox]⟩

/-- The tables after a process has recorded an event alone. -/
theorem Verdict.recorded_tables {postgres : Postgres} {row : ShipmentModel}
    {status : ShipmentEventProcessingStatus} {after : Shipment} {world : World}
    {connection : Connection} {messageId : UUID} {enqueuedAt : DateTime}
    (recorded : ReceiveShipmentEvent.verdict postgres database event =
      .recorded row status after)
    (writes : connection.writes =
      (Verdict.reception { base := database } correlationId event row status after messageId
        enqueuedAt).writes postgres)
    (closed : Closed { base := database } process
      [{ toConnection := connection, process := process }] world) :
    let reception := Verdict.reception { base := database } correlationId event row status
      after messageId enqueuedAt
    world.database.event event.eventId = some (reception.eventRow postgres) ∧
      world.database.shipment event.shipmentId = some (reception.projected postgres) := by
  intro reception
  obtain ⟨found, unrecorded, handled⟩ := ReceiveShipmentEvent.verdict_recorded recorded
  have house : row.id = event.shipmentId := Database.shipment_id found
  have written : world.database = database.writeAll (reception.writes postgres) := by
    rw [closed.database]
    exact congrArg database.writeAll writes
  rw [written]
  constructor
  · have row : (reception.eventRow postgres).eventId = event.eventId := rfl
    rw [Database.event_snoc (reception.tables postgres database).2, unrecorded, row]
    simp
  · rw [← house]
    exact reception.shipment_projected postgres (house ▸ found)

end Receptions

/-! ## The agreement -/

section Agreement

variable {server : Server} {database : Database} {process : ProcessId}
  {message : ShipmentEventMessage} {row : ShipmentEventModel}

/-- A body that the schema accepts reports the event of the message. -/
theorem ShipmentEventRequest.event_of_validate {request : ShipmentEventRequest}
    (accepted : validate message.fields = .ok request) (receivedAt : DateTime) :
    request.event receivedAt = { message.toEvent with receivedAt := receivedAt } := by
  obtain ⟨eventId, shipmentId, eventType, source, occurredAt, payload, -⟩ :=
    validate_iff.mp accepted
  simp only [event, ShipmentEventMessage.toEvent, eventId, shipmentId, eventType, source,
    occurredAt, payload]
  rfl

/-- A worker that has recorded a new event alone has done so under a verdict. -/
theorem handleEvent_recorded (faultless : server.Faultless)
    (references : database.References)
    (spare : ∃ id, database.shipment id = none ∧ database.outbox id = none)
    {correlationId : Option String} {event : ShipmentEvent} {choices : List Choice}
    {after : World} {outcome : Except PyError Unit × Session}
    (ran : (handleEvent correlationId event {}).run (server.perform process) choices
      { base := database } = some (outcome, after))
    (fresh : database.event event.eventId = none)
    (recorded : after.database.event event.eventId = some row) :
    ∃ found status shipment messageId enqueuedAt,
      ReceiveShipmentEvent.verdict server.postgres database event =
          .recorded found status shipment ∧
        let reception := Verdict.reception { base := database } correlationId event found
          status shipment messageId enqueuedAt
        outcome.1 = .ok () ∧ row = reception.eventRow server.postgres ∧
          after.database.shipment event.shipmentId =
            some (reception.projected server.postgres) := by
  have ended := Interaction.Program.ends.of_run
    (@ends_handleEvent server process _ correlationId event faultless
      (Idle.initial references spare)) ran
  cases verdict : ReceiveShipmentEvent.verdict server.postgres database event with
  | rejected error =>
      have same : (World.database { base := database }) = database := rfl
      rw [same, verdict] at ended
      rw [ended.2.database, replay_nil, same, fresh] at recorded
      cases recorded
  | known found =>
      have same : (World.database { base := database }) = database := rfl
      rw [same, verdict] at ended
      obtain ⟨-, connection, writes, closed⟩ := ended
      have unchanged : after.database = database := by
        rw [closed.database]
        exact congrArg database.writeAll writes
      rw [unchanged, fresh] at recorded
      cases recorded
  | recorded found status shipment =>
      have same : (World.database { base := database }) = database := rfl
      rw [same, verdict] at ended
      obtain ⟨returned, connection, messageId, enqueuedAt, writes, closed⟩ := ended
      obtain ⟨events, shipments⟩ := Verdict.recorded_tables verdict writes closed
      rw [events] at recorded
      cases recorded
      exact ⟨found, status, shipment, messageId, enqueuedAt, rfl, returned, rfl, shipments⟩

/-- `POST /events` records alone what the verdict on the reported event says. -/
theorem receiveEvent_records (faultless : server.Faultless)
    (references : database.References)
    (spare : ∃ id, database.shipment id = none ∧ database.outbox id = none)
    {event : ShipmentEvent} {found : ShipmentModel} {status : ShipmentEventProcessingStatus}
    {shipment : Shipment} {request : ShipmentEventRequest}
    (verdict : ReceiveShipmentEvent.verdict server.postgres database event =
      .recorded found status shipment)
    (reports : ∀ receivedAt,
      request.event receivedAt = { event with receivedAt := receivedAt })
    (correlationId : Option String) (reception : Reception)
    (reported : reception.event = event) (read : reception.row = found)
    (handled : reception.status = status) (left : reception.after = shipment)
    (loaded : reception.loaded = found) :
    (receiveEvent correlationId request).ends (server.perform process)
      (fun outcome _ reached => ∃ receivedAt,
        outcome = .ok shipment ∧
          reached.database.event event.eventId =
            some { reception.eventRow server.postgres with receivedAt := receivedAt } ∧
          reached.database.shipment event.shipmentId =
            some (reception.projected server.postgres))
      {} { base := database } := by
  subst reported handled left
  rw [← read] at verdict
  have unmoved : reception.Unmoved := loaded.trans read.symm
  refine Interaction.Computation.ends_mono
    (ends_receiveEvent faultless (Idle.initial references spare)) ?_
  rintro outcome session reached ⟨receivedAt, -, ended⟩
  have same : ReceiveShipmentEvent.verdict server.postgres
      (World.database { base := database }) (request.event receivedAt) =
        .recorded reception.row reception.status reception.after := by
    rw [reports]
    exact verdict
  rw [same] at ended
  obtain ⟨returned, connection, messageId, enqueuedAt, writes, closed⟩ := ended
  obtain ⟨events, shipments⟩ := Verdict.recorded_tables same writes closed
  rw [reports] at events shipments
  rw [Reception.projected, unmoved.patch]
  exact ⟨_, returned, events, shipments⟩

/-- What the worker records as a new event, the API records in the same way if and only
if its source is a string that is not empty and, for a location, its coordinates are
numbers. -/
theorem worker_admits_as_api_iff (faultless : server.Faultless) (decoders : Decoders)
    (body : Bytes) (decoded : ShipmentEventMessage.fromJson decoders body = .ok message)
    (references : database.References)
    (spare : ∃ id, database.shipment id = none ∧ database.outbox id = none)
    (correlationId : Option String) (choices : List Choice) {after : World}
    {outcome : Except PyError Unit × Session}
    (ran : (handleEvent correlationId message.toEvent {}).run (server.perform process) choices
      { base := database } = some (outcome, after))
    (fresh : database.event message.eventId = none)
    (recorded : after.database.event message.eventId = some row) (fits : row.FitsColumns) :
    RecordedByApi server process database message row
        (after.database.shipment message.shipmentId) ↔
      message.Admissible := by
  obtain ⟨found, status, shipment, messageId, enqueuedAt, verdict, -, same, projection⟩ :=
    handleEvent_recorded faultless references spare ran fresh recorded
  constructor
  · rintro ⟨request, accepted, -⟩
    obtain ⟨-, -, -, source, -, -, nonempty, -, numeric⟩ :=
      ShipmentEventRequest.validate_iff.mp accepted
    refine ⟨⟨request.source, source.symm, ?_⟩, numeric⟩
    intro empty
    simp [empty] at nonempty
  · rintro ⟨⟨text, source, nonempty⟩, numeric⟩
    obtain ⟨entries, payload⟩ := ShipmentEventMessage.fromJson_payload decoded
    have short : text.length ≤ 100 := by
      refine fits text ?_
      rw [same]
      exact (congrArg server.postgres.varchar source).trans (server.postgres.varchar_str text)
    have long : 1 ≤ text.length :=
      Nat.one_le_iff_ne_zero.mpr (by simpa [String.length_eq_zero_iff] using nonempty)
    let request : ShipmentEventRequest :=
      { eventId := message.eventId
        shipmentId := message.shipmentId
        eventType := message.eventType
        source := text
        occurredAt := message.occurredAt
        payload := entries }
    have accepted : ShipmentEventRequest.validate message.fields = .ok request :=
      ShipmentEventRequest.validate_iff.mpr
        ⟨rfl, rfl, rfl, source.symm, rfl, payload.symm, long, short, numeric⟩
    refine ⟨request, accepted, fun other => ?_⟩
    refine Interaction.Computation.ends_mono
      (receiveEvent_records faultless references spare verdict
        (ShipmentEventRequest.event_of_validate accepted) other
        (Verdict.reception { base := database } correlationId message.toEvent found status
          shipment messageId enqueuedAt) rfl rfl rfl rfl rfl) ?_
    rintro outcome session reached ⟨receivedAt, answered, events, shipments⟩
    refine ⟨shipment, receivedAt, answered, ?_, ?_⟩
    · rw [same]
      exact events
    · exact shipments.trans projection.symm

end Agreement

/-! ## A location without coordinates -/

/-- Readers of the messages about the location of the parcel. -/
def locationDecoders (latitude longitude : Json) : Decoders where
  loads _ :=
    .ok (.obj
      [("contract_version", .str "v1"), ("message_id", .str "message"),
       ("event_id", .str "event"), ("shipment_id", .str "parcel"),
       ("event_type", .str "LOCATION_UPDATED"), ("source", .str "carrier"),
       ("occurred_at", .str ""), ("received_at", .str ""),
       ("payload", .obj [("latitude", latitude), ("longitude", longitude)])])
  uuid text := some (if text = "parcel" then parcel else ⟨7#128⟩)
  fromisoformat _ := some (.utc 20)

/-- The message that they read. -/
def locationMessage (latitude longitude : Json) : ShipmentEventMessage where
  messageId := ⟨7#128⟩
  eventId := ⟨7#128⟩
  shipmentId := parcel
  eventType := .locationUpdated
  source := .str "carrier"
  occurredAt := .utc 20
  receivedAt := .utc 20
  payload := .obj [("latitude", latitude), ("longitude", longitude)]

/-- The event that they report, as it is recorded. -/
def locationRow (latitude longitude : Json) : ShipmentEventModel :=
  EventMapper.toModel (locationMessage latitude longitude).toEvent

/-- The statements of a worker that records the event. -/
def recordingChoices : List Choice :=
  [.proceed, .proceed, .proceed, .proceed, .proceed, .uuid ⟨100#128⟩, .proceed, .time (.utc 32)] ++
    List.replicate 5 .proceed

theorem onItsWay_references : onItsWay.References := by simp [Database.References, onItsWay]

theorem onItsWay_spare : ∃ id, onItsWay.shipment id = none ∧ onItsWay.outbox id = none :=
  ⟨⟨0#128⟩, by decide, rfl⟩

theorem locationRow_fits (latitude longitude : Json) :
    (locationRow latitude longitude).FitsColumns := by
  intro text same
  cases same
  decide

/-- The API records the location with numbers as the worker does. -/
theorem numbers_admitted :
    ∃ after outcome,
      (handleEvent none (locationMessage (.int 41) (.int 8)).toEvent {}).run
          (Server.utc.perform 0) recordingChoices { base := onItsWay } =
        some (outcome, after) ∧
      RecordedByApi Server.utc 0 onItsWay (locationMessage (.int 41) (.int 8))
        (locationRow (.int 41) (.int 8)) (after.database.shipment parcel) := by
  have shown : ((handleEvent none (locationMessage (.int 41) (.int 8)).toEvent {}).run
      (Server.utc.perform 0) recordingChoices { base := onItsWay }).map
        (fun run => run.2.database.event ⟨7#128⟩) =
      some (some (locationRow (.int 41) (.int 8))) := by decide +kernel
  obtain ⟨⟨outcome, after⟩, ran, recorded⟩ := Option.map_eq_some_iff.mp shown
  refine ⟨after, outcome, ran, ?_⟩
  exact (worker_admits_as_api_iff (fun _ => rfl) (locationDecoders (.int 41) (.int 8)) [] rfl
    onItsWay_references onItsWay_spare none recordingChoices ran rfl recorded
    (locationRow_fits _ _)).mpr ⟨⟨"carrier", rfl, by decide⟩, fun _ => by decide⟩

/-- The worker records a location without coordinates, which the schema refuses. -/
theorem unlocated_admitted_by_worker_only :
    ¬ ∀ (decoders : Decoders) (body : Bytes) (message : ShipmentEventMessage),
        ShipmentEventMessage.fromJson decoders body = .ok message →
        ∀ (database : Database), database.References →
        (∃ id, database.shipment id = none ∧ database.outbox id = none) →
        ∀ (choices : List Choice) (after : World) (outcome : Except PyError Unit × Session),
        (handleEvent none message.toEvent {}).run (Server.utc.perform 0) choices
          { base := database } = some (outcome, after) →
        database.event message.eventId = none →
        ∀ row, after.database.event message.eventId = some row → row.FitsColumns →
        RecordedByApi Server.utc 0 database message row
          (after.database.shipment message.shipmentId) := by
  intro claim
  have shown : ((handleEvent none (locationMessage .null .null).toEvent {}).run
      (Server.utc.perform 0) recordingChoices { base := onItsWay }).map
        (fun run => run.2.database.event ⟨7#128⟩) =
      some (some (locationRow .null .null)) := by decide +kernel
  obtain ⟨⟨outcome, after⟩, ran, recorded⟩ := Option.map_eq_some_iff.mp shown
  obtain ⟨request, accepted, -⟩ := claim (locationDecoders .null .null) []
    (locationMessage .null .null) rfl onItsWay onItsWay_references onItsWay_spare
    recordingChoices after outcome ran rfl _ recorded (locationRow_fits _ _)
  obtain ⟨-, -, -, -, -, -, -, -, numeric⟩ := ShipmentEventRequest.validate_iff.mp accepted
  exact absurd (numeric rfl) (by decide)

end Freight
