/-
Module: Freight.Domain.Shipment
Purpose: The shipment domain: events, the lifecycle state machine, the shipment
  projection and the handler that applies one event to it.
Trusted boundary: none
Main exports:
  ShipmentEventType, ShipmentEvent, ShipmentStatus,
  ShipmentStateMachine.transition, Shipment, Shipment.create,
  ShipmentEventHandler.handle, ShipmentEventHandler.handle_cases,
  ShipmentEventHandler.Rejection, ShipmentEventHandler.handle_rejection,
  ShipmentEventHandler.handle_error
-/
import Freight.Domain.Json
import Freight.Domain.Values

namespace Freight

/-! ## Events -/

inductive ShipmentEventType where
  | shipmentCreated
  | pickupScheduled
  | pickupCompleted
  | shipmentDeparted
  | locationUpdated
  | delayDetected
  | delivered
deriving DecidableEq, Repr

/-- `event_type.value`. -/
def ShipmentEventType.value : ShipmentEventType → String
  | .shipmentCreated => "SHIPMENT_CREATED"
  | .pickupScheduled => "PICKUP_SCHEDULED"
  | .pickupCompleted => "PICKUP_COMPLETED"
  | .shipmentDeparted => "SHIPMENT_DEPARTED"
  | .locationUpdated => "LOCATION_UPDATED"
  | .delayDetected => "DELAY_DETECTED"
  | .delivered => "DELIVERED"

/-- How an accepted event affected the shipment's current projection. -/
inductive ShipmentEventProcessingStatus where
  | applied
  | storedOutOfOrder
deriving DecidableEq, Repr

/-- `processing_status.value`. -/
def ShipmentEventProcessingStatus.value : ShipmentEventProcessingStatus → String
  | .applied => "APPLIED"
  | .storedOutOfOrder => "STORED_OUT_OF_ORDER"

/-- The payload of a `LOCATION_UPDATED` event.  The annotations say `float`, but
nothing converts or checks the values a dictionary brings in. -/
structure LocationUpdatedPayload where
  latitude : Json
  longitude : Json
deriving DecidableEq, Repr

/-- `LocationUpdatedPayload(**payload)`: every parameter exactly once and no
other keyword, or a `TypeError`. -/
def LocationUpdatedPayload.ofDict (payload : Json) : Option LocationUpdatedPayload :=
  match payload with
  | .obj fields =>
      if fields.all fun field => field.1 == "latitude" || field.1 == "longitude" then
        match fields.lookup "latitude", fields.lookup "longitude" with
        | some latitude, some longitude => some { latitude, longitude }
        | _, _ => none
      else none
  | _ => none

/-- `asdict(payload)`. -/
def LocationUpdatedPayload.asdict (payload : LocationUpdatedPayload) : Json :=
  .obj [("latitude", payload.latitude), ("longitude", payload.longitude)]

/-- The `payload: object` of an event: decoded JSON, or the dataclass. -/
inductive Payload where
  | json (value : Json)
  | location (value : LocationUpdatedPayload)
deriving DecidableEq, Repr

/-- `asdict(payload) if is_dataclass(payload) else payload`. -/
def Payload.plain : Payload → Json
  | .json value => value
  | .location value => value.asdict

/-- `ShipmentEvent`.  The source is annotated `str`, but the message decoder
passes on whatever JSON value it finds. -/
structure ShipmentEvent where
  eventId : UUID
  shipmentId : UUID
  eventType : ShipmentEventType
  source : Json
  occurredAt : DateTime
  receivedAt : DateTime
  payload : Payload
  processingStatus : ShipmentEventProcessingStatus := .applied
deriving DecidableEq, Repr

/-! ## Lifecycle -/

inductive ShipmentStatus where
  | created
  | scheduled
  | pickedUp
  | inTransit
  | delayed
  | delivered
deriving DecidableEq, Repr

/-- `status.value`. -/
def ShipmentStatus.value : ShipmentStatus → String
  | .created => "CREATED"
  | .scheduled => "SCHEDULED"
  | .pickedUp => "PICKED_UP"
  | .inTransit => "IN_TRANSIT"
  | .delayed => "DELAYED"
  | .delivered => "DELIVERED"

namespace ShipmentStateMachine

/-- `_TRANSITIONS`. -/
def transitions : ShipmentStatus → ShipmentEventType → Option ShipmentStatus
  | .created, .pickupScheduled => some .scheduled
  | .scheduled, .pickupCompleted => some .pickedUp
  | .pickedUp, .shipmentDeparted => some .inTransit
  | .inTransit, .delayDetected => some .delayed
  | .inTransit, .delivered => some .delivered
  | .delayed, .shipmentDeparted => some .inTransit
  | .delayed, .delivered => some .delivered
  | _, _ => none

/-- `ShipmentStateMachine.transition`. -/
def transition (currentState : ShipmentStatus) (eventType : ShipmentEventType) :
    Except PyError ShipmentStatus :=
  match transitions currentState eventType with
  | some nextState => .ok nextState
  | none => .error (.invalidStateTransition currentState.value eventType.value)

theorem transition_ok_iff {currentState nextState : ShipmentStatus}
    {eventType : ShipmentEventType} :
    transition currentState eventType = .ok nextState ↔
      transitions currentState eventType = some nextState := by
  unfold transition
  cases transitions currentState eventType <;> simp

/-- `from` and `to` are joined by an edge of the state machine. -/
def Edge (before after : ShipmentStatus) : Prop :=
  ∃ eventType, transitions before eventType = some after

/-- A delivered shipment has no outgoing edge. -/
theorem not_edge_delivered (after : ShipmentStatus) : ¬ Edge .delivered after := by
  rintro ⟨eventType, equality⟩
  cases eventType <;> cases equality

/-- No edge leads back to the state it leaves. -/
theorem Edge.ne {before after : ShipmentStatus} (edge : Edge before after) :
    before ≠ after := by
  rintro rfl
  obtain ⟨eventType, equality⟩ := edge
  cases before <;> cases eventType <;> cases equality

end ShipmentStateMachine

/-! ## The projection -/

structure Shipment where
  id : UUID
  referenceNumber : String
  origin : String
  destination : String
  carrier : String
  status : ShipmentStatus
  createdAt : DateTime
  updatedAt : DateTime
  currentLatitude : Json := .null
  currentLongitude : Json := .null
  lastLocationAt : Option DateTime := none
  lastLifecycleAt : Option DateTime := none
deriving DecidableEq, Repr

namespace Shipment

/-- `Shipment.create`. -/
def create (id : UUID) (referenceNumber origin destination carrier : String)
    (createdAt : DateTime) : Shipment where
  id := id
  referenceNumber := referenceNumber
  origin := origin
  destination := destination
  carrier := carrier
  status := .created
  createdAt := createdAt
  updatedAt := createdAt

/-- `change_status`: the object as it is left behind, also when it raises. -/
def changeStatus (shipment : Shipment) (eventType : ShipmentEventType)
    (occurredAt : DateTime) : Except PyError Unit × Shipment :=
  match ShipmentStateMachine.transition shipment.status eventType with
  | .error error => (.error error, shipment)
  | .ok status =>
      (.ok (),
        { shipment with
          status := status
          updatedAt := occurredAt
          lastLifecycleAt := some occurredAt })

/-- `update_location`. -/
def updateLocation (shipment : Shipment) (payload : LocationUpdatedPayload)
    (occurredAt : DateTime) : Shipment :=
  { shipment with
    currentLatitude := payload.latitude
    currentLongitude := payload.longitude
    lastLocationAt := some occurredAt
    updatedAt := occurredAt }

end Shipment

/-! ## The handler -/

namespace ShipmentEventHandler

/-- `clock is not None and occurred_at < clock`. -/
def isLate (clock : Option DateTime) (occurredAt : DateTime) : Except PyError Bool :=
  match clock with
  | none => .ok false
  | some clock => occurredAt.lt clock

/-- The location a `LOCATION_UPDATED` event carries, once its payload has been
normalised and checked. -/
def locationPayload (payload : Payload) : Except PyError LocationUpdatedPayload :=
  match payload with
  | .location location => .ok location
  | .json value =>
      if value.isDict then
        match LocationUpdatedPayload.ofDict value with
        | some location => .ok location
        | none =>
            .error (.value "LOCATION_UPDATED events require latitude and longitude.")
      else
        .error (.value "LOCATION_UPDATED events require a LocationUpdatedPayload.")

/-- `ShipmentEventHandler.handle`: the status or exception, and the shipment as
it is left behind. -/
def handle (shipment : Shipment) (event : ShipmentEvent) :
    Except PyError ShipmentEventProcessingStatus × Shipment :=
  if event.shipmentId ≠ shipment.id then
    (.error (.value "Event shipment_id does not match the target shipment id."), shipment)
  else if event.eventType = .shipmentCreated then
    (.error (.invalidShipmentEvent event.eventType.value), shipment)
  else if event.eventType = .locationUpdated then
    match locationPayload event.payload with
    | .error error => (.error error, shipment)
    | .ok payload =>
        match isLate shipment.lastLocationAt event.occurredAt with
        | .error error => (.error error, shipment)
        | .ok true => (.ok .storedOutOfOrder, shipment)
        | .ok false => (.ok .applied, shipment.updateLocation payload event.occurredAt)
  else
    match isLate shipment.lastLifecycleAt event.occurredAt with
    | .error error => (.error error, shipment)
    | .ok true => (.ok .storedOutOfOrder, shipment)
    | .ok false =>
        match shipment.changeStatus event.eventType event.occurredAt with
        | (.error error, shipment) => (.error error, shipment)
        | (.ok _, shipment) => (.ok .applied, shipment)

/-- Everything a successful call can do: keep a late event out of the
projection, move the location, or take one edge of the state machine. -/
theorem handle_cases {shipment after : Shipment} {event : ShipmentEvent}
    {status : ShipmentEventProcessingStatus}
    (handled : handle shipment event = (.ok status, after)) :
    event.shipmentId = shipment.id ∧ event.eventType ≠ .shipmentCreated ∧
      ((event.eventType = .locationUpdated ∧
          ∃ payload, locationPayload event.payload = .ok payload ∧
            ((status = .storedOutOfOrder ∧ after = shipment ∧
                isLate shipment.lastLocationAt event.occurredAt = .ok true) ∨
              (status = .applied ∧
                after = shipment.updateLocation payload event.occurredAt ∧
                isLate shipment.lastLocationAt event.occurredAt = .ok false))) ∨
        (event.eventType ≠ .locationUpdated ∧
          ((status = .storedOutOfOrder ∧ after = shipment ∧
              isLate shipment.lastLifecycleAt event.occurredAt = .ok true) ∨
            (status = .applied ∧
              isLate shipment.lastLifecycleAt event.occurredAt = .ok false ∧
              ∃ next,
                ShipmentStateMachine.transitions shipment.status event.eventType =
                  some next ∧
                after =
                  { shipment with
                    status := next
                    updatedAt := event.occurredAt
                    lastLifecycleAt := some event.occurredAt })))) := by
  unfold handle at handled
  split at handled
  · cases handled
  rename_i sameShipment
  split at handled
  · cases handled
  rename_i notCreated
  refine ⟨not_not.mp sameShipment, notCreated, ?_⟩
  split at handled
  · rename_i located
    left
    refine ⟨located, ?_⟩
    split at handled
    · cases handled
    rename_i payload decoded
    refine ⟨payload, decoded, ?_⟩
    split at handled
    · cases handled
    · rename_i late
      cases handled
      exact .inl ⟨rfl, rfl, late⟩
    · rename_i late
      cases handled
      exact .inr ⟨rfl, rfl, late⟩
  · rename_i lifecycle
    right
    refine ⟨lifecycle, ?_⟩
    split at handled
    · cases handled
    · rename_i late
      cases handled
      exact .inl ⟨rfl, rfl, late⟩
    · rename_i late
      right
      simp only [Shipment.changeStatus] at handled
      cases moved : ShipmentStateMachine.transition shipment.status event.eventType with
      | error error =>
          simp [moved] at handled
      | ok next =>
          simp only [moved, Prod.mk.injEq, Except.ok.injEq] at handled
          obtain ⟨rfl, rfl⟩ := handled
          exact ⟨rfl, late, next, ShipmentStateMachine.transition_ok_iff.mp moved, rfl⟩

/-- A successful call keeps the identity of the shipment. -/
theorem handle_id {shipment after : Shipment} {event : ShipmentEvent}
    {status : ShipmentEventProcessingStatus}
    (handled : handle shipment event = (.ok status, after)) : after.id = shipment.id := by
  obtain ⟨-, -, ⟨-, payload, -, ⟨-, rfl, -⟩ | ⟨-, rfl, -⟩⟩ |
    ⟨-, ⟨-, rfl, -⟩ | ⟨-, -, next, -, rfl⟩⟩⟩ := handle_cases handled <;> rfl

theorem isLate_error {clock : Option DateTime} {occurredAt : DateTime} {error : PyError}
    (raised : isLate clock occurredAt = .error error) : ∃ text, error = .typeError text := by
  cases clock with
  | none => cases raised
  | some clock =>
      simp only [isLate, DateTime.lt] at raised
      split at raised <;> cases raised
      exact ⟨_, rfl⟩

/-- What the domain rejects an event with: a value error, a comparison of a naive time
with an aware one, a creation, or a transition that the state machine does not define. -/
inductive Rejection (shipment : Shipment) (event : ShipmentEvent) : PyError → Prop where
  | value (text : String) : Rejection shipment event (.value text)
  | naive (text : String) : Rejection shipment event (.typeError text)
  | creation : Rejection shipment event (.invalidShipmentEvent event.eventType.value)
  | transition (current : isLate shipment.lastLifecycleAt event.occurredAt = .ok false)
      (undefined : ShipmentStateMachine.transitions shipment.status event.eventType = none) :
      Rejection shipment event
        (.invalidStateTransition shipment.status.value event.eventType.value)

theorem locationPayload_error {payload : Payload} {error : PyError}
    (raised : locationPayload payload = .error error) : ∃ text, error = .value text := by
  unfold locationPayload at raised
  split at raised
  · cases raised
  split at raised
  · split at raised
    · cases raised
    · cases raised
      exact ⟨_, rfl⟩
  · cases raised
    exact ⟨_, rfl⟩

/-- A call that raises leaves the shipment as it was, and what it raises is a
rejection. -/
theorem handle_rejection {shipment after : Shipment} {event : ShipmentEvent} {error : PyError}
    (handled : handle shipment event = (.error error, after)) :
    after = shipment ∧ Rejection shipment event error := by
  unfold handle at handled
  split at handled
  · cases handled
    exact ⟨rfl, .value _⟩
  split at handled
  · cases handled
    exact ⟨rfl, .creation⟩
  split at handled
  · split at handled
    · rename_i rejected
      cases handled
      obtain ⟨text, rfl⟩ := locationPayload_error rejected
      exact ⟨rfl, .value text⟩
    · split at handled
      · rename_i late
        cases handled
        obtain ⟨text, rfl⟩ := isLate_error late
        exact ⟨rfl, .naive text⟩
      · cases handled
      · cases handled
  · split at handled
    · rename_i late
      cases handled
      obtain ⟨text, rfl⟩ := isLate_error late
      exact ⟨rfl, .naive text⟩
    · cases handled
    · rename_i current
      simp only [Shipment.changeStatus, ShipmentStateMachine.transition] at handled
      cases moved : ShipmentStateMachine.transitions shipment.status event.eventType with
      | none =>
          simp only [moved] at handled
          cases handled
          exact ⟨rfl, .transition current moved⟩
      | some next =>
          simp only [moved] at handled
          cases handled

/-- No rejection is an integrity error. -/
theorem handle_error {shipment after : Shipment} {event : ShipmentEvent} {error : PyError}
    (handled : handle shipment event = (.error error, after)) :
    after = shipment ∧ ∀ constraintName text, error ≠ .integrityError constraintName text := by
  obtain ⟨same, rejection⟩ := handle_rejection handled
  refine ⟨same, ?_⟩
  cases rejection <;> exact fun _ _ equality => by cases equality

end ShipmentEventHandler

end Freight
