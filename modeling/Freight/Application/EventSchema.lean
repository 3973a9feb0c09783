/-
Module: Freight.Application.EventSchema
Purpose: `ShipmentEventRequest`, the schema of the body of `POST /events`: the fields
  that are checked one by one, and the check of the payload as a whole.
Trusted boundary: none
Main exports:
  ShipmentEventFields, ShipmentEventRequest.validate, Json.Numeric,
  ShipmentEventRequest.validate_iff
-/
import Freight.Application.EntryPoints

namespace Freight

/-- The fields of a body, of which the identifiers, the event type and the datetime
have their types already. -/
structure ShipmentEventFields where
  eventId : UUID
  shipmentId : UUID
  eventType : ShipmentEventType
  source : Json
  occurredAt : DateTime
  payload : Json
deriving DecidableEq, Repr

/-- `isinstance(value, int | float)` but not `isinstance(value, bool)`. -/
def Json.isNumeric : Option Json → Bool
  | some (.int _) | some (.float _) => true
  | _ => false

/-- `payload.get("latitude")` and `payload.get("longitude")` are numbers. -/
def Json.Numeric (payload : Json) : Prop :=
  Json.isNumeric (payload.get "latitude") = true ∧
    Json.isNumeric (payload.get "longitude") = true

instance (payload : Json) : Decidable payload.Numeric :=
  inferInstanceAs (Decidable (_ ∧ _))

namespace ShipmentEventRequest

/-- `ValidationError`, which is a `ValueError`. -/
def validationError (text : String) : PyError := .valueError "ValidationError" text

/-- `source: str = Field(min_length=1, max_length=100)`. -/
def sourceField (source : Json) : Except PyError String :=
  match source with
  | .str text =>
      if text.length < 1 then
        .error (validationError "String should have at least 1 character")
      else if 100 < text.length then
        .error (validationError "String should have at most 100 characters")
      else .ok text
  | _ => .error (validationError "Input should be a valid string")

/-- `payload: dict`. -/
def payloadField (payload : Json) : Except PyError (List (String × Json)) :=
  match payload with
  | .obj fields => .ok fields
  | _ => .error (validationError "Input should be a valid dictionary")

/-- `validate_payload`. -/
def validatePayload (request : ShipmentEventRequest) :
    Except PyError ShipmentEventRequest :=
  let payload : Json := .obj request.payload
  if request.eventType = .locationUpdated then
    if !Json.isNumeric (payload.get "latitude") then
      .error (validationError "LOCATION_UPDATED payload requires numeric latitude.")
    else if !Json.isNumeric (payload.get "longitude") then
      .error (validationError "LOCATION_UPDATED payload requires numeric longitude.")
    else .ok request
  else .ok request

/-- `ShipmentEventRequest(**fields)`. -/
def validate (fields : ShipmentEventFields) : Except PyError ShipmentEventRequest := do
  let source ← sourceField fields.source
  let payload ← payloadField fields.payload
  validatePayload
    { eventId := fields.eventId
      shipmentId := fields.shipmentId
      eventType := fields.eventType
      source := source
      occurredAt := fields.occurredAt
      payload := payload }

theorem sourceField_iff {source : Json} {text : String} :
    sourceField source = .ok text ↔
      source = .str text ∧ 1 ≤ text.length ∧ text.length ≤ 100 := by
  cases source with
  | str value =>
      simp only [sourceField, Json.str.injEq]
      split
      · rename_i empty
        constructor
        · intro accepted
          cases accepted
        · rintro ⟨rfl, nonempty, -⟩
          omega
      split
      · rename_i long
        constructor
        · intro accepted
          cases accepted
        · rintro ⟨rfl, -, short⟩
          omega
      · constructor
        · intro accepted
          cases accepted
          exact ⟨rfl, by omega, by omega⟩
        · rintro ⟨rfl, -, -⟩
          rfl
  | _ => simp [sourceField]

theorem validatePayload_iff {request accepted : ShipmentEventRequest} :
    validatePayload request = .ok accepted ↔
      accepted = request ∧
        (request.eventType = .locationUpdated → (Json.obj request.payload).Numeric) := by
  simp only [validatePayload, Json.Numeric]
  by_cases located : request.eventType = .locationUpdated
  · cases latitude : Json.isNumeric ((Json.obj request.payload).get "latitude") with
    | false => simp [located]
    | true =>
        cases longitude : Json.isNumeric ((Json.obj request.payload).get "longitude") with
        | false => simp [located]
        | true => simpa [located] using eq_comm
  · simpa [located] using eq_comm

/-- What the schema accepts, and what it makes of it. -/
theorem validate_iff {fields : ShipmentEventFields} {request : ShipmentEventRequest} :
    validate fields = .ok request ↔
      request.eventId = fields.eventId ∧ request.shipmentId = fields.shipmentId ∧
        request.eventType = fields.eventType ∧ .str request.source = fields.source ∧
        request.occurredAt = fields.occurredAt ∧ .obj request.payload = fields.payload ∧
        1 ≤ request.source.length ∧ request.source.length ≤ 100 ∧
        (fields.eventType = .locationUpdated → fields.payload.Numeric) := by
  obtain ⟨eventId, shipmentId, eventType, source, occurredAt, payload⟩ := fields
  obtain ⟨eventId', shipmentId', eventType', source', occurredAt', payload'⟩ := request
  constructor
  · intro accepted
    simp only [validate, bind, Except.bind] at accepted
    split at accepted
    · cases accepted
    rename_i text checked
    split at accepted
    · cases accepted
    rename_i entries object
    obtain ⟨equality, numeric⟩ := validatePayload_iff.mp accepted
    obtain ⟨rfl, nonempty, short⟩ := sourceField_iff.mp checked
    cases payload <;> cases object
    cases equality
    exact ⟨rfl, rfl, rfl, rfl, rfl, rfl, nonempty, short, numeric⟩
  · rintro ⟨rfl, rfl, rfl, rfl, rfl, rfl, nonempty, short, numeric⟩
    have checked : sourceField (.str source') = .ok source' :=
      sourceField_iff.mpr ⟨rfl, nonempty, short⟩
    simp only [validate, checked, payloadField, bind, Except.bind]
    exact validatePayload_iff.mpr ⟨rfl, numeric⟩

end ShipmentEventRequest

end Freight
