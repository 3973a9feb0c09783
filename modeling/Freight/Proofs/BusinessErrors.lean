/-
Module: Freight.Proofs.BusinessErrors
Purpose: What the handler fails with on a stored shipment: an error that the API answers and
  the worker dead-letters, unless it compares a time without a timezone with a clock.
Trusted boundary: none
Main exports:
  Shipment.Zoned, BusinessError, BusinessError.answered, AcceptedEvent, ComparesNaive,
  ShipmentEventHandler.handle_naive, ShipmentEventHandler.handle_business,
  handler_fails_as_business_iff, History.zoned
-/
import Freight.Application.EventSchema
import Freight.Messaging.Consumer
import Freight.Store.Entries
import Freight.Store.Verdicts

namespace Freight

open Interaction (ProcessId)

/-! ## Failures -/

/-- Both clocks carry a timezone. -/
structure Shipment.Zoned (shipment : Shipment) : Prop where
  location : ∀ clock ∈ shipment.lastLocationAt, clock.aware = true
  lifecycle : ∀ clock ∈ shipment.lastLifecycleAt, clock.aware = true

/-- A `ValueError`, an `InvalidShipmentEvent` or an `InvalidStateTransition`. -/
inductive BusinessError : PyError → Prop where
  | value (name text : String) : BusinessError (.valueError name text)
  | creation (eventType : String) : BusinessError (.invalidShipmentEvent eventType)
  | transition (currentState eventType : String) :
      BusinessError (.invalidStateTransition currentState eventType)

/-- The route answers a business error with a status of its own, and the worker does not
retry it. -/
theorem BusinessError.answered {error : PyError} (business : BusinessError error) :
    (∃ statusCode detail, refusal error = .httpException statusCode detail ∧
      statusCode < 500) ∧ classify error = .deadLetter := by
  cases business with
  | value name text => exact ⟨⟨404, _, rfl, by decide⟩, rfl⟩
  | creation eventType => exact ⟨⟨422, _, rfl, by decide⟩, rfl⟩
  | transition currentState eventType => exact ⟨⟨409, _, rfl, by decide⟩, rfl⟩

/-- An event from a request that the schema accepts, or from a body that the decoder
accepts. -/
inductive AcceptedEvent (decoders : Decoders) : ShipmentEvent → Prop where
  | request (fields : ShipmentEventFields) (request : ShipmentEventRequest)
      (receivedAt : DateTime) (accepted : ShipmentEventRequest.validate fields = .ok request)
      (utc : receivedAt.utcoffset = some 0) : AcceptedEvent decoders (request.event receivedAt)
  | message (body : Bytes) (message : ShipmentEventMessage)
      (accepted : ShipmentEventMessage.fromJson decoders body = .ok message) :
      AcceptedEvent decoders message.toEvent

/-- The handler gets as far as comparing a time without a timezone with a clock that is
set. -/
def ComparesNaive (shipment : Shipment) (event : ShipmentEvent) : Prop :=
  event.occurredAt.aware = false ∧ event.shipmentId = shipment.id ∧
    event.eventType ≠ .shipmentCreated ∧
    if event.eventType = .locationUpdated then
      (∃ payload, ShipmentEventHandler.locationPayload event.payload = .ok payload) ∧
        shipment.lastLocationAt ≠ none
    else shipment.lastLifecycleAt ≠ none

namespace ShipmentEventHandler

variable {shipment after : Shipment} {event : ShipmentEvent} {error : PyError}
  {clock : Option DateTime} {occurredAt : DateTime}

/-- A comparison with a clock that carries a timezone fails for want of one. -/
theorem isLate_error_iff (zoned : ∀ value ∈ clock, value.aware = true) :
    (∃ error, isLate clock occurredAt = .error error) ↔
      clock ≠ none ∧ occurredAt.aware = false := by
  cases clock with
  | none => simp [isLate]
  | some clock =>
      obtain ⟨clockWall, clockOffset⟩ := clock
      obtain ⟨wall, offset⟩ := occurredAt
      cases clockOffset with
      | none => exact absurd (zoned _ rfl) (by simp [DateTime.aware])
      | some clockOffset => cases offset <;> simp [isLate, DateTime.lt, DateTime.aware]

/-- Such a comparison is a `TypeError`. -/
theorem handle_naive (zoned : shipment.Zoned) (naive : ComparesNaive shipment event) :
    ∃ text, handle shipment event = (.error (.typeError text), shipment) := by
  obtain ⟨unaware, house, received, reached⟩ := naive
  by_cases located : event.eventType = .locationUpdated
  · rw [if_pos located] at reached
    obtain ⟨⟨payload, decoded⟩, clocked⟩ := reached
    obtain ⟨error, raised⟩ := (isLate_error_iff zoned.location).mpr ⟨clocked, unaware⟩
    obtain ⟨text, rfl⟩ := isLate_error raised
    exact ⟨text, by simp [handle, house, located, decoded, raised]⟩
  · rw [if_neg located] at reached
    obtain ⟨error, raised⟩ := (isLate_error_iff zoned.lifecycle).mpr ⟨reached, unaware⟩
    obtain ⟨text, rfl⟩ := isLate_error raised
    exact ⟨text, by simp [handle, house, located, received, raised]⟩

/-- Whatever else the handler raises is a business error. -/
theorem handle_business (zoned : shipment.Zoned) (comparable : ¬ ComparesNaive shipment event)
    (handled : handle shipment event = (.error error, after)) : BusinessError error := by
  unfold handle at handled
  split at handled
  · cases handled
    exact .value _ _
  rename_i house
  have house := not_not.mp house
  split at handled
  · cases handled
    exact .creation _
  rename_i received
  split at handled
  · rename_i located
    split at handled
    · rename_i rejected
      cases handled
      obtain ⟨text, rfl⟩ := locationPayload_error rejected
      exact .value _ _
    rename_i payload decoded
    split at handled
    · rename_i raised
      obtain ⟨clocked, unaware⟩ := (isLate_error_iff zoned.location).mp ⟨_, raised⟩
      refine absurd ⟨unaware, house, received, ?_⟩ comparable
      rw [if_pos located]
      exact ⟨⟨payload, decoded⟩, clocked⟩
    · cases handled
    · cases handled
  · rename_i unlocated
    split at handled
    · rename_i raised
      obtain ⟨clocked, unaware⟩ := (isLate_error_iff zoned.lifecycle).mp ⟨_, raised⟩
      refine absurd ⟨unaware, house, received, ?_⟩ comparable
      rw [if_neg unlocated]
      exact clocked
    · cases handled
    · simp only [Shipment.changeStatus, ShipmentStateMachine.transition] at handled
      cases moved : ShipmentStateMachine.transitions shipment.status event.eventType with
      | none =>
          simp only [moved] at handled
          cases handled
          exact .transition _ _
      | some next =>
          simp only [moved] at handled
          cases handled

end ShipmentEventHandler

/-- Whatever the handler raises is a business error, with an answer of its own and no retry,
if and only if it does not come to compare a time without a timezone with a clock. -/
theorem handler_fails_as_business_iff (shipment : Shipment) (zoned : shipment.Zoned)
    (event : ShipmentEvent) :
    (∀ error after, ShipmentEventHandler.handle shipment event = (.error error, after) →
        BusinessError error ∧
        (∃ statusCode detail, refusal error = .httpException statusCode detail ∧
          statusCode < 500) ∧
        classify error = .deadLetter) ↔
      ¬ ComparesNaive shipment event := by
  constructor
  · intro claim naive
    obtain ⟨text, handled⟩ := ShipmentEventHandler.handle_naive zoned naive
    obtain ⟨business, -⟩ := claim _ _ handled
    cases business
  · intro comparable error after handled
    have business := ShipmentEventHandler.handle_business zoned comparable handled
    exact ⟨business, business.answered⟩

/-! ## Stored shipments -/

section Stored

variable {server : Server} {base : Database} {quiet : Prop} {requests : ProcessId → Request}
  {wal : List Transaction} {request : Request} {transaction : Transaction}

/-- The clocks of a row carry a timezone. -/
def ShipmentModel.Zoned (row : ShipmentModel) : Prop := (ShipmentMapper.toDomain row).Zoned

theorem Postgres.timestamptz_zoned (postgres : Postgres) (clock : Option DateTime) :
    ∀ value ∈ clock.map postgres.timestamptz, value.aware = true := by
  intro value member
  obtain ⟨time, -, rfl⟩ := Option.map_eq_some_iff.mp member
  rfl

/-- An `UPDATE` leaves clocks with a timezone. -/
theorem ShipmentModel.Zoned.applyTo {row : ShipmentModel} (zoned : row.Zoned)
    (postgres : Postgres) (patch : ShipmentPatch) :
    ((postgres.shipmentPatch patch).applyTo row).Zoned := by
  constructor
  · intro clock member
    cases column : patch.lastLocationAt with
    | none =>
        refine zoned.location clock ?_
        simpa [ShipmentMapper.toDomain, ShipmentPatch.applyTo, Postgres.shipmentPatch,
          column] using member
    | some written =>
        refine postgres.timestamptz_zoned written clock ?_
        simpa [ShipmentMapper.toDomain, ShipmentPatch.applyTo, Postgres.shipmentPatch,
          column] using member
  · intro clock member
    cases column : patch.lastLifecycleAt with
    | none =>
        refine zoned.lifecycle clock ?_
        simpa [ShipmentMapper.toDomain, ShipmentPatch.applyTo, Postgres.shipmentPatch,
          column] using member
    | some written =>
        refine postgres.timestamptz_zoned written clock ?_
        simpa [ShipmentMapper.toDomain, ShipmentPatch.applyTo, Postgres.shipmentPatch,
          column] using member

/-- Step lemma: every entry of the log keeps the clocks of all shipments zoned. -/
theorem Effect.zoned (effect : Effect server base quiet wal request transaction)
    (kept : ∀ row ∈ (replay base wal).shipments, row.Zoned) :
    ∀ row ∈ ((replay base wal).writeAll transaction.writes).shipments, row.Zoned := by
  cases effect with
  | nothing writes =>
      rw [writes]
      exact kept
  | created creation createdAt receivedAt freshShipment freshEvent freshOutbox writes =>
      rw [writes]
      intro row member
      rcases List.mem_append.mp member with before | added
      · exact kept row before
      · cases List.mem_singleton.mp added
        exact ⟨fun _ set => (by cases set), fun _ set => (by cases set)⟩
  | received reception reports lsn current found saved loaded identity handled payload
      reads freshEvent freshOutbox writes =>
      rw [writes, Reception.writes, Database.writeAll_append, reception.writeAll_projection]
      intro row member
      obtain ⟨before, present, rfl⟩ := List.mem_map.mp member
      have zoned := kept before present
      by_cases same : before.id = reception.row.id
      · simp only [same, if_true]
        exact zoned.applyTo server.postgres reception.patch
      · simp only [same, if_false]
        exact zoned
  | attempted attempt locked pending confirmed writes =>
      rw [writes]
      exact kept

/-- Run lemma: so does every history. -/
theorem History.zoned (history : History server base quiet requests wal)
    (start : ∀ row ∈ base.shipments, row.Zoned) :
    ∀ row ∈ (replay base wal).shipments, row.Zoned := by
  induction history with
  | start => exact start
  | @commit wal transaction earlier effect first inductionHypothesis =>
      rw [replay_snoc]
      exact effect.zoned inductionHypothesis

end Stored

/-! ## A time without a timezone -/

/-- The fields of a report of a delivery, at a time without a timezone. -/
def naiveFields : ShipmentEventFields where
  eventId := ⟨7⟩
  shipmentId := ⟨1⟩
  eventType := .delivered
  source := .str "carrier"
  occurredAt := { wall := 20, utcoffset := none }
  payload := .obj []

/-- A parcel on its way since 10, by a clock with a timezone. -/
def clockedParcel : Shipment :=
  { Shipment.create ⟨1⟩ "reference" "origin" "destination" "carrier" (.utc 0) with
    status := .inTransit
    updatedAt := .utc 10
    lastLifecycleAt := some (.utc 10) }

theorem clockedParcel_zoned : clockedParcel.Zoned := by
  constructor
  · intro clock set
    cases set
  · intro clock set
    cases set
    rfl

/-- A scheduling of the pickup, at a time with a timezone. -/
def zonedReport : ShipmentEvent where
  eventId := ⟨7⟩
  shipmentId := ⟨1⟩
  eventType := .pickupScheduled
  source := .str "carrier"
  occurredAt := .utc 20
  receivedAt := .utc 30
  payload := .json (.obj [])

/-- It is refused for the transition. -/
theorem zoned_report_fails_as_business :
    ∃ error after, ShipmentEventHandler.handle clockedParcel zonedReport = (.error error, after) ∧
      BusinessError error ∧ classify error = .deadLetter := by
  have comparable : ¬ ComparesNaive clockedParcel zonedReport := by
    intro naive
    cases naive.1
  have handled : ShipmentEventHandler.handle clockedParcel zonedReport =
      (.error (.invalidStateTransition "IN_TRANSIT" "PICKUP_SCHEDULED"), clockedParcel) := by
    decide
  obtain ⟨business, -, classified⟩ :=
    (handler_fails_as_business_iff clockedParcel clockedParcel_zoned zonedReport).mpr comparable
      _ _ handled
  exact ⟨_, _, handled, business, classified⟩

/-- The schema accepts the report, and the handler raises a `TypeError`. -/
theorem naive_report_fails_otherwise :
    ¬ ∀ (decoders : Decoders) (event : ShipmentEvent), AcceptedEvent decoders event →
        ∀ shipment : Shipment, shipment.Zoned → ∀ error after,
          ShipmentEventHandler.handle shipment event = (.error error, after) →
          BusinessError error := by
  intro claim
  have accepted : ShipmentEventRequest.validate naiveFields =
      .ok
        { eventId := ⟨7⟩
          shipmentId := ⟨1⟩
          eventType := .delivered
          source := "carrier"
          occurredAt := { wall := 20, utcoffset := none }
          payload := [] } := by
    decide
  let decoders : Decoders :=
    { loads := fun _ => .ok .null, uuid := fun _ => none, fromisoformat := fun _ => none }
  have business := claim decoders _ (.request naiveFields _ (.utc 30) accepted rfl)
    clockedParcel clockedParcel_zoned _ _ rfl
  cases business

end Freight
