/-
Module: Freight.Proofs.Classification
Purpose: The status that `POST /events` answers alone, as a function of the request and the
  tables, and the one kind of request for which it answers another.
Trusted boundary: none
Main exports:
  classification, statusCode, FurtherKeys, verdict_location, verdict_lifecycle,
  classification_exact_iff
-/
import Freight.Proofs.BusinessErrors
import Freight.Proofs.StoreWellFormed

namespace Freight

open Interaction (ProcessId)

/-! ## The classification -/

/-- The status of a request on given tables: 422 for a creation, otherwise 404 for a
shipment that is not there, otherwise 409 for a new event of the lifecycle that is not late
and for which there is no transition, and 200 in all other cases. -/
def classification (database : Database) (request : ShipmentEventRequest) : Nat :=
  if request.eventType = .shipmentCreated then 422
  else
    match database.shipment request.shipmentId with
    | none => 404
    | some row =>
        if (database.event request.eventId).isNone ∧ request.eventType ≠ .locationUpdated ∧
            ShipmentEventHandler.isLate row.lastLifecycleAt request.occurredAt = .ok false ∧
            ShipmentStateMachine.transitions row.status request.eventType = none then 409
        else 200

/-- The status of an answer: 200 unless the route raises, and 500 for what is not an
`HTTPException`. -/
def statusCode {α : Type} : Except PyError α → Nat
  | .ok _ => 200
  | .error (.httpException code _) => code
  | .error _ => 500

/-- A new location of a shipment that is there, with further keys in its payload. -/
def FurtherKeys (database : Database) (request : ShipmentEventRequest) : Prop :=
  request.eventType = .locationUpdated ∧ (database.shipment request.shipmentId).isSome ∧
    (database.event request.eventId).isNone ∧
    ∃ field ∈ request.payload, field.1 ≠ "latitude" ∧ field.1 ≠ "longitude"

instance (database : Database) (request : ShipmentEventRequest) :
    Decidable (FurtherKeys database request) :=
  inferInstanceAs (Decidable (_ ∧ _))

/-- The status that the route gives to a verdict. -/
def Verdict.statusCode : Verdict → Nat
  | .rejected error => Freight.statusCode (.error (refusal error) : Except PyError Shipment)
  | .known _ | .recorded _ _ _ => 200

theorem Verdict.Ended.statusCode {verdict : Verdict} {server : Server} {start world : World}
    {process : ProcessId} {correlationId : Option String} {event : ShipmentEvent}
    {outcome : Except PyError Shipment}
    (ended : verdict.Ended server start process correlationId event refusal id outcome world) :
    Freight.statusCode outcome = verdict.statusCode := by
  cases verdict with
  | rejected error =>
      rw [ended.1]
      rfl
  | known row =>
      rw [ended.1]
      rfl
  | recorded row status after =>
      rw [ended.1]
      rfl

section Verdicts

variable {postgres : Postgres} {database : Database} {request : ShipmentEventRequest}
  {row : ShipmentModel} {receivedAt : DateTime}

/-- A location with the two numbers that the schema requires can be read unless it has
further keys. -/
theorem locationPayload_numeric (numeric : (Json.obj request.payload).Numeric) :
    (∃ payload, ShipmentEventHandler.locationPayload (.json (.obj request.payload)) =
        .ok payload) ↔
      ¬ ∃ field ∈ request.payload, field.1 ≠ "latitude" ∧ field.1 ≠ "longitude" := by
  obtain ⟨latitude, longitude⟩ := numeric
  have all : (request.payload.all fun field =>
      field.1 == "latitude" || field.1 == "longitude") = true ↔
      ¬ ∃ field ∈ request.payload, field.1 ≠ "latitude" ∧ field.1 ≠ "longitude" := by
    simp only [List.all_eq_true, Bool.or_eq_true, beq_iff_eq, not_exists, not_and, ne_eq,
      not_not]
    exact forall₂_congr fun field _ => or_iff_not_imp_left
  rw [Json.get_obj] at latitude longitude
  rw [← all]
  cases first : request.payload.lookup "latitude" with
  | none => simp [first, Json.isNumeric] at latitude
  | some latitudeValue =>
      cases second : request.payload.lookup "longitude" with
      | none => simp [second, Json.isNumeric] at longitude
      | some longitudeValue =>
          by_cases known : (request.payload.all fun field =>
              field.1 == "latitude" || field.1 == "longitude") = true <;>
            simp [ShipmentEventHandler.locationPayload, Json.isDict,
              LocationUpdatedPayload.ofDict, known, first, second]

/-- A comparison of times with a timezone succeeds. -/
theorem isLate_zoned {clock : Option DateTime} (zoned : ∀ value ∈ clock, value.aware = true)
    {occurredAt : DateTime} (aware : occurredAt.aware = true) :
    ∃ late, ShipmentEventHandler.isLate clock occurredAt = .ok late := by
  cases compared : ShipmentEventHandler.isLate clock occurredAt with
  | ok late => exact ⟨late, rfl⟩
  | error error =>
      have naive := ((ShipmentEventHandler.isLate_error_iff zoned).mp ⟨error, compared⟩).2
      rw [aware] at naive
      cases naive

/-- What the handler refuses of a new event is what the verdict rejects. -/
theorem verdict_of_refused {event : ShipmentEvent} {error : PyError} {after : Shipment}
    (received : event.eventType ≠ .shipmentCreated)
    (found : database.shipment event.shipmentId = some row)
    (unrecorded : database.event event.eventId = none)
    (handled : ShipmentEventHandler.handle (ShipmentMapper.toDomain row) event =
      (.error error, after)) :
    ReceiveShipmentEvent.verdict postgres database event = .rejected error := by
  simp [ReceiveShipmentEvent.verdict, received, found, unrecorded, handled]

/-- A new location is refused for further keys only. -/
theorem verdict_location (found : database.shipment request.shipmentId = some row)
    (unrecorded : database.event request.eventId = none) (zoned : row.Zoned)
    (aware : request.occurredAt.aware = true) (located : request.eventType = .locationUpdated)
    (numeric : (Json.obj request.payload).Numeric) :
    (ReceiveShipmentEvent.verdict postgres database (request.event receivedAt)).statusCode =
      if ∃ field ∈ request.payload, field.1 ≠ "latitude" ∧ field.1 ≠ "longitude" then 404
      else 200 := by
  have received : request.eventType ≠ .shipmentCreated := by
    intro created
    cases located.symm.trans created
  have house : request.shipmentId = (ShipmentMapper.toDomain row).id :=
    (Database.shipment_id found).symm
  have source : postgres.varchar (request.event receivedAt).source ≠ .null := by
    simp [ShipmentEventRequest.event, postgres.varchar_str]
  have decoded := locationPayload_numeric numeric
  obtain ⟨late, compared⟩ := isLate_zoned zoned.location aware
  cases read : ShipmentEventHandler.locationPayload (.json (.obj request.payload)) with
  | error error =>
      have further := not_not.mp (mt decoded.mpr (by simp [read]))
      obtain ⟨text, rfl⟩ := ShipmentEventHandler.locationPayload_error read
      have handled : ShipmentEventHandler.handle (ShipmentMapper.toDomain row)
          (request.event receivedAt) = (.error (.value text), ShipmentMapper.toDomain row) := by
        simp [ShipmentEventHandler.handle, house, ShipmentEventRequest.event, located, read]
      rw [verdict_of_refused received found unrecorded handled, if_pos further]
      rfl
  | ok payload =>
      obtain ⟨status, after, handled⟩ : ∃ status after,
          ShipmentEventHandler.handle (ShipmentMapper.toDomain row)
            (request.event receivedAt) = (.ok status, after) := by
        cases late <;>
          simp [ShipmentEventHandler.handle, house, ShipmentEventRequest.event, located, read,
            compared]
      rw [ReceiveShipmentEvent.verdict_of_handled received found unrecorded handled rfl source,
        if_neg (decoded.mp ⟨payload, read⟩)]
      rfl

/-- A new event of the lifecycle is refused where it is not late and there is no
transition for it. -/
theorem verdict_lifecycle (received : request.eventType ≠ .shipmentCreated)
    (found : database.shipment request.shipmentId = some row)
    (unrecorded : database.event request.eventId = none) (zoned : row.Zoned)
    (aware : request.occurredAt.aware = true)
    (lifecycle : request.eventType ≠ .locationUpdated) :
    (ReceiveShipmentEvent.verdict postgres database (request.event receivedAt)).statusCode =
      if ShipmentEventHandler.isLate row.lastLifecycleAt request.occurredAt = .ok false ∧
          ShipmentStateMachine.transitions row.status request.eventType = none then 409
      else 200 := by
  have house : request.shipmentId = (ShipmentMapper.toDomain row).id :=
    (Database.shipment_id found).symm
  have source : postgres.varchar (request.event receivedAt).source ≠ .null := by
    simp [ShipmentEventRequest.event, postgres.varchar_str]
  have recorded {status after} (handled : ShipmentEventHandler.handle
      (ShipmentMapper.toDomain row) (request.event receivedAt) = (.ok status, after)) :
      (ReceiveShipmentEvent.verdict postgres database
        (request.event receivedAt)).statusCode = 200 := by
    rw [ReceiveShipmentEvent.verdict_of_handled received found unrecorded handled rfl source]
    rfl
  obtain ⟨late, compared⟩ := isLate_zoned zoned.lifecycle aware
  have shown : ShipmentEventHandler.isLate row.lastLifecycleAt request.occurredAt = .ok late :=
    compared
  cases late with
  | true =>
      have handled : ShipmentEventHandler.handle (ShipmentMapper.toDomain row)
          (request.event receivedAt) =
            (.ok .storedOutOfOrder, ShipmentMapper.toDomain row) := by
        simp [ShipmentEventHandler.handle, house, received, ShipmentEventRequest.event,
          lifecycle, compared]
      rw [recorded handled, if_neg (by simp [shown])]
  | false =>
      have same : (ShipmentMapper.toDomain row).status = row.status := rfl
      cases moved : ShipmentStateMachine.transitions row.status request.eventType with
      | none =>
          have handled : ShipmentEventHandler.handle (ShipmentMapper.toDomain row)
              (request.event receivedAt) =
                (.error (.invalidStateTransition row.status.value request.eventType.value),
                  ShipmentMapper.toDomain row) := by
            simp [ShipmentEventHandler.handle, house, received, ShipmentEventRequest.event,
              lifecycle, compared, Shipment.changeStatus, ShipmentStateMachine.transition,
              same, moved]
          rw [verdict_of_refused received found unrecorded handled, if_pos ⟨shown, rfl⟩]
          rfl
      | some next =>
          obtain ⟨after, handled⟩ : ∃ after, ShipmentEventHandler.handle
              (ShipmentMapper.toDomain row) (request.event receivedAt) =
                (.ok .applied, after) := by
            simp [ShipmentEventHandler.handle, house, received, ShipmentEventRequest.event,
              lifecycle, compared, Shipment.changeStatus, ShipmentStateMachine.transition,
              same, moved]
          rw [recorded handled, if_neg (by simp)]

/-- The status that a verdict on a request gets. -/
theorem verdict_statusCode
    (zoned : ∀ row, database.shipment request.shipmentId = some row → row.Zoned)
    (aware : request.occurredAt.aware = true)
    (numeric : request.eventType = .locationUpdated → (Json.obj request.payload).Numeric) :
    (ReceiveShipmentEvent.verdict postgres database (request.event receivedAt)).statusCode =
      if FurtherKeys database request then 404 else classification database request := by
  by_cases created : request.eventType = .shipmentCreated
  · simp [ReceiveShipmentEvent.verdict, ShipmentEventRequest.event, created, FurtherKeys,
      classification, Verdict.statusCode, refusal, statusCode]
  cases found : database.shipment request.shipmentId with
  | none =>
      simp [ReceiveShipmentEvent.verdict, ShipmentEventRequest.event, created, FurtherKeys,
        classification, found, Verdict.statusCode, refusal, statusCode, PyError.value]
  | some row =>
      cases recorded : database.event request.eventId with
      | some record =>
          simp [ReceiveShipmentEvent.verdict, ShipmentEventRequest.event, created, FurtherKeys,
            classification, found, recorded, Verdict.statusCode]
      | none =>
          by_cases located : request.eventType = .locationUpdated
          · have further : FurtherKeys database request ↔
                ∃ field ∈ request.payload, field.1 ≠ "latitude" ∧ field.1 ≠ "longitude" := by
              simp [FurtherKeys, located, found, recorded]
            have ordinary : classification database request = 200 := by
              simp [classification, located, found]
            rw [verdict_location found recorded (zoned row found) aware located
              (numeric located), ordinary]
            exact (if_congr further rfl rfl).symm
          · have ordinary : ¬ FurtherKeys database request := fun further =>
              located further.1
            rw [verdict_lifecycle created found recorded (zoned row found) aware located,
              if_neg ordinary]
            simp [classification, created, located, found, recorded]

end Verdicts

/-! ## The answer -/

/-- In every reachable state without open locks, a request that the schema accepts, with a
timezone, that is alone and meets no fault gets the status of the classification, if and
only if it is not a new location with further keys. -/
theorem classification_exact_iff (server : Server) (requests : ProcessId → Request)
    (state : PlatformState) (reached : (platform server requests).Reachable {} state)
    (quiescent : state.world.locks = []) (process : ProcessId)
    (unstarted : state.world.connection process = {})
    (spare : ∃ id, state.world.issued id = false) (fields : ShipmentEventFields)
    (request : ShipmentEventRequest)
    (accepted : ShipmentEventRequest.validate fields = .ok request)
    (aware : request.occurredAt.aware = true) (correlationId : Option String) :
    (receiveEvent correlationId request).ends (server.calm.perform process)
        (fun outcome _ _ =>
          statusCode outcome = classification state.world.database request)
        {} state.world ↔
      ¬ FurtherKeys state.world.database request := by
  have keyed : (Database.outboxKeys {}).Nodup := List.nodup_nil
  have kept := platform_invariant keyed reached
  have zoned : ∀ row, state.world.database.shipment request.shipmentId = some row →
      row.Zoned := by
    intro row found
    rw [World.database, kept.start] at found
    exact kept.history.zoned (by simp) row (Table.mem_of_lookup found)
  have numeric : request.eventType = .locationUpdated →
      (Json.obj request.payload).Numeric := by
    obtain ⟨-, -, sameType, -, -, samePayload, -, -, numeric⟩ :=
      ShipmentEventRequest.validate_iff.mp accepted
    rw [sameType, samePayload]
    exact numeric
  have references : Database.References {} := by
    intro row member
    cases member
  have idle : Idle process state.world :=
    .of_invariant kept references unstarted quiescent spare
  have ended : (receiveEvent correlationId request).ends (server.calm.perform process)
      (fun outcome _ _ => statusCode outcome =
        if FurtherKeys state.world.database request then 404
        else classification state.world.database request) {} state.world := by
    refine Interaction.Computation.ends_mono (ends_receiveEvent server.calm_faultless idle) ?_
    intro outcome _ _ ended
    obtain ⟨receivedAt, -, ended⟩ := ended
    rw [ended.statusCode]
    exact verdict_statusCode zoned aware numeric
  constructor
  · intro answered further
    obtain ⟨choices, value, after, ran⟩ := ended.exists_run
    have expected := answered.of_run ran
    have got := ended.of_run ran
    rw [if_pos further] at got
    obtain ⟨located, found, fresh, -⟩ := further
    obtain ⟨row, found⟩ := Option.isSome_iff_exists.mp found
    have ordinary : classification state.world.database request = 200 := by
      simp [classification, located, found]
    rw [ordinary] at expected
    cases expected.symm.trans got
  · intro ordinary
    refine Interaction.Computation.ends_mono ended ?_
    intro outcome _ _ answered
    rwa [if_neg ordinary] at answered

/-! ## A location with its accuracy -/

theorem createTurns_runs :
    (((platform Server.utc journey).run (createTurns 0)
      ((platform Server.utc journey).initial {})).map fun state =>
        (state.world.locks.isEmpty, decide (state.world.connection 1 = {}),
          state.world.issued ⟨0#128⟩,
          (state.world.database.shipment parcel).map ShipmentModel.status,
          (state.world.database.event ⟨7#128⟩).isNone)) =
      some (true, true, false, some .created, true) := by
  decide +kernel

/-- The fields of the first report. -/
def reportFields : ShipmentEventFields where
  eventId := ⟨7#128⟩
  shipmentId := parcel
  eventType := .pickupScheduled
  source := .str "carrier"
  occurredAt := .utc 20
  payload := .obj []

/-- After the creation, the report of a pickup gets the status of the classification. -/
theorem report_classified :
    ∃ state : PlatformState, (platform Server.utc journey).Reachable {} state ∧
      (state.world.database.shipment parcel).map ShipmentModel.status = some .created ∧
      (receiveEvent none (report 7 .pickupScheduled 20)).ends (Server.utc.calm.perform 1)
        (fun outcome _ _ => statusCode outcome =
          classification state.world.database (report 7 .pickupScheduled 20))
        {} state.world := by
  obtain ⟨state, ran, shown⟩ := Option.map_eq_some_iff.mp createTurns_runs
  have reached : (platform Server.utc journey).Reachable {} state := ⟨createTurns 0, ran⟩
  obtain ⟨unlocked, rest⟩ := Prod.mk.inj shown
  obtain ⟨unstarted, rest⟩ := Prod.mk.inj rest
  obtain ⟨spare, rest⟩ := Prod.mk.inj rest
  have accepted : ShipmentEventRequest.validate reportFields =
      .ok (report 7 .pickupScheduled 20) := by
    decide
  refine ⟨state, reached, (Prod.mk.inj rest).1, ?_⟩
  refine (classification_exact_iff Server.utc journey state reached
    (List.isEmpty_iff.mp unlocked) 1 (of_decide_eq_true unstarted) ⟨_, spare⟩ reportFields
    (report 7 .pickupScheduled 20) accepted rfl none).mpr ?_
  intro further
  cases further.1

/-- The fields of a location with the accuracy of the measurement. -/
def accurateFields : ShipmentEventFields where
  eventId := ⟨7#128⟩
  shipmentId := parcel
  eventType := .locationUpdated
  source := .str "carrier"
  occurredAt := .utc 20
  payload := .obj [("latitude", .int 41), ("longitude", .int (-9)), ("accuracy", .int 5)]

/-- The request they make. -/
def accurateLocation : ShipmentEventRequest where
  eventId := ⟨7#128⟩
  shipmentId := parcel
  eventType := .locationUpdated
  source := "carrier"
  occurredAt := .utc 20
  payload := [("latitude", .int 41), ("longitude", .int (-9)), ("accuracy", .int 5)]

/-- A creation, a report of a location with its accuracy, and relays. -/
def accurateJourney : ProcessId → Request
  | 0 => journey 0
  | 1 => .receiveEvent none accurateLocation
  | _ => .publishOne 1000

theorem accurateLocation_runs :
    (((platform Server.utc accurateJourney).run (createTurns 0)
      ((platform Server.utc accurateJourney).initial {})).map fun state =>
        (state.world.locks.isEmpty, decide (state.world.connection 1 = {}),
          state.world.issued ⟨0#128⟩,
          classification state.world.database accurateLocation,
          ((receiveEvent none accurateLocation {}).run (Server.utc.calm.perform 1)
            [.time (.utc 30), .proceed, .proceed, .proceed, .proceed, .proceed]
            state.world).map fun final => statusCode final.1.1)) =
      some (true, true, false, 200, some 404) := by
  decide +kernel

/-- A location with its accuracy is refused, as if there were no such shipment. -/
theorem accurate_location_refused :
    ¬ ∀ (server : Server) (requests : ProcessId → Request) (state : PlatformState),
        (platform server requests).Reachable {} state → state.world.locks = [] →
        ∀ process, state.world.connection process = {} →
        (∃ id, state.world.issued id = false) →
        ∀ (fields : ShipmentEventFields) (request : ShipmentEventRequest),
          ShipmentEventRequest.validate fields = .ok request →
          request.occurredAt.aware = true → ∀ correlationId : Option String,
          (receiveEvent correlationId request).ends (server.calm.perform process)
            (fun outcome _ _ =>
              statusCode outcome = classification state.world.database request)
            {} state.world := by
  intro claim
  obtain ⟨state, ran, shown⟩ := Option.map_eq_some_iff.mp accurateLocation_runs
  have reached : (platform Server.utc accurateJourney).Reachable {} state :=
    ⟨createTurns 0, ran⟩
  obtain ⟨unlocked, rest⟩ := Prod.mk.inj shown
  obtain ⟨unstarted, rest⟩ := Prod.mk.inj rest
  obtain ⟨spare, rest⟩ := Prod.mk.inj rest
  obtain ⟨expected, answered⟩ := Prod.mk.inj rest
  have accepted : ShipmentEventRequest.validate accurateFields = .ok accurateLocation := by
    decide
  have ended := claim Server.utc accurateJourney state reached (List.isEmpty_iff.mp unlocked) 1
    (of_decide_eq_true unstarted) ⟨_, spare⟩ accurateFields accurateLocation accepted rfl none
  obtain ⟨⟨⟨outcome, session⟩, after⟩, finished, code⟩ := Option.map_eq_some_iff.mp answered
  have same : statusCode outcome = _ := ended.of_run finished
  rw [expected] at same
  cases same.symm.trans code

end Freight
