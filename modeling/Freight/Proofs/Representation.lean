/-
Module: Freight.Proofs.Representation
Purpose: Which projections tie their columns together as meant: all of them, but for
  those to which the last applied location has brought a null coordinate.
Trusted boundary: none
Main exports:
  ShipmentModel.Representation, LastLocationComplete, Folded.updatedAt_cases,
  Folded.status_created_iff, representation_iff, unlocated_not_represented
-/
import Freight.Proofs.Admission
import Freight.Proofs.EventFold

namespace Freight

open Interaction (ProcessId)

/-! ## The invariant -/

/-- The location columns are set together, a shipment leaves CREATED with its first
lifecycle event, and the last update is the creation or on one of the two clocks. -/
structure ShipmentModel.Representation (row : ShipmentModel) : Prop where
  location : row.lastLocationAt.isSome ↔
    row.currentLatitude ≠ .null ∧ row.currentLongitude ≠ .null
  lifecycle : row.status = .created ↔ row.lastLifecycleAt = none
  updatedAt : row.updatedAt = row.createdAt ∨ row.lastLifecycleAt = some row.updatedAt ∨
    row.lastLocationAt = some row.updatedAt

/-- The location that was applied last, if any, has both coordinates. -/
def LastLocationComplete (events : List ShipmentEvent) : Prop :=
  ∀ event ∈ (locationEvents events).getLast?, ∀ payload,
    LocationUpdatedPayload.ofDict event.payload.plain = some payload →
      payload.latitude ≠ .null ∧ payload.longitude ≠ .null

/-! ## Folds -/

/-- No edge of the state machine leads back to CREATED. -/
theorem ShipmentStateMachine.transitions_ne_created {status next : ShipmentStatus}
    {eventType : ShipmentEventType} (edge : transitions status eventType = some next) :
    next ≠ .created := by
  rintro rfl
  cases status <;> cases eventType <;> cases edge

section Folds

variable {created : DateTime} {events : List ShipmentEvent} {shipment : Shipment}

/-- A shipment is CREATED as long as no lifecycle event has been applied. -/
theorem Folded.status_created_iff (folded : Folded created events shipment) :
    shipment.status = .created ↔ shipment.lastLifecycleAt = none := by
  rw [folded.lastLifecycleAt, Option.map_eq_none_iff, List.getLast?_eq_none_iff]
  have status := folded.status
  constructor
  · intro unmoved
    rcases List.eq_nil_or_concat (lifecycleEvents events) with none | ⟨earlier, last, all⟩
    · exact none
    · rw [all, List.map_concat, List.concat_eq_append, List.foldlM_append] at status
      obtain ⟨before, -, edge⟩ := Option.bind_eq_some_iff.mp status
      exact absurd unmoved
        (ShipmentStateMachine.transitions_ne_created (by simpa using edge))
  · intro none
    rw [none] at status
    exact (Option.some.inj status).symm

/-- The last event is the last one of its kind. -/
theorem Folded.updatedAt_cases (folded : Folded created events shipment) :
    shipment.updatedAt = shipment.createdAt ∨
      shipment.lastLifecycleAt = some shipment.updatedAt ∨
      shipment.lastLocationAt = some shipment.updatedAt := by
  rw [folded.updatedAt, folded.createdAt, folded.lastLifecycleAt, folded.lastLocationAt]
  rcases List.eq_nil_or_concat events with none | ⟨earlier, last, all⟩
  · subst none
    exact .inl rfl
  · subst all
    rw [List.concat_eq_append]
    by_cases located : last.eventType = .locationUpdated
    · simp [locationEvents, located]
    · simp [lifecycleEvents, located]

/-- The location columns are set together if and only if the last location is
complete. -/
theorem Folded.location_iff (folded : Folded created events shipment) :
    (shipment.lastLocationAt.isSome ↔
        shipment.currentLatitude ≠ .null ∧ shipment.currentLongitude ≠ .null) ↔
      LastLocationComplete events := by
  rw [folded.lastLocationAt, Option.isSome_map]
  cases final : (locationEvents events).getLast? with
  | none =>
      have nowhere := folded.unlocated (List.getLast?_eq_none_iff.mp final)
      simp [LastLocationComplete, final, nowhere]
  | some event =>
      have decoded := folded.located event final
      simp [LastLocationComplete, final, decoded]

end Folds

/-! ## Columns -/

/-- A value that is the same as another is null when the other is. -/
theorem Json.Same.null_iff {left right : Json} (same : left.Same right) :
    left = .null ↔ right = .null := by
  rcases same with equal | equal
  · rw [equal]
  · cases left <;> cases right <;> simp_all [Json.eq, Json.number]

/-- A row satisfies the invariant if and only if the last location that was applied to
it is complete. -/
theorem Projects.represented_iff {postgres : Postgres} {row : ShipmentModel}
    {events : List ShipmentEvent} {shipment : Shipment}
    (nulls : ∀ value, postgres.float8 value = .null ↔ value = .null)
    (folded : Folded row.createdAt events shipment)
    (projects : Projects postgres row shipment) :
    row.Representation ↔ LastLocationComplete events := by
  have latitude : row.currentLatitude = .null ↔ shipment.currentLatitude = .null :=
    projects.currentLatitude.null_iff.trans (nulls _)
  have longitude : row.currentLongitude = .null ↔ shipment.currentLongitude = .null :=
    projects.currentLongitude.null_iff.trans (nulls _)
  rw [← folded.location_iff, ← projects.lastLocationAt, Ne, Ne, ← latitude, ← longitude]
  constructor
  · exact fun represented => represented.location
  · intro location
    have updatedAt := folded.updatedAt_cases
    rw [← projects.updatedAt, folded.createdAt, ← projects.lastLifecycleAt,
      ← projects.lastLocationAt] at updatedAt
    exact
      { location := location
        lifecycle := by
          rw [projects.status, projects.lastLifecycleAt]
          exact folded.status_created_iff
        updatedAt := updatedAt }

/-- From empty tables, under any requests of which no two receptions of a shipment
overlap: the committed projection of the shipment satisfies the invariant if and only if
the location that was applied to it last, if any, has both coordinates. -/
theorem representation_iff (server : Server)
    (nulls : ∀ value, server.postgres.float8 value = .null ↔ value = .null)
    (requests : ProcessId → Request) (state : PlatformState)
    (reached : (platform server requests).Reachable {} state) (id : UUID)
    (apart : NonOverlapping state.world.wal id) (row : ShipmentModel)
    (found : state.world.database.shipment id = some row) :
    row.Representation ↔ LastLocationComplete (appliedEvents state.world.database id) := by
  have keyed : ({} : Database).outboxKeys.Nodup := List.nodup_nil
  have kept : Invariant server {} False requests state.world :=
    platform_invariant keyed reached
  rw [World.database, kept.start] at found ⊢
  obtain ⟨shipment, replayed, projects⟩ := (kept.history.replayed apart).folded row found
  exact projects.represented_iff nulls (applyEvents_folded replayed)

/-! ## A location without coordinates -/

/-- What a request reports has been accepted by the schema or by the decoder. -/
def Request.Accepted (decoders : Decoders) : Request → Prop
  | .receiveEvent _ request => ∃ fields, ShipmentEventRequest.validate fields = .ok request
  | .handleEvent _ event =>
      ∃ body message, ShipmentEventMessage.fromJson decoders body = .ok message ∧
        event = message.toEvent
  | _ => True

/-- A creation and a message about the location. -/
def createdAndLocated (latitude longitude : Json) : ProcessId → Request
  | 0 => journey 0
  | 1 => .handleEvent none (locationMessage latitude longitude).toEvent
  | _ => .publishOne 1000

theorem createdAndLocated_accepted (latitude longitude : Json) : ∀ process,
    (createdAndLocated latitude longitude process).Accepted
      (locationDecoders latitude longitude)
  | 0 => trivial
  | 1 => ⟨[], _, rfl, rfl⟩
  | _ + 2 => trivial

def createdAndLocatedSchedule : List (Interaction.System.Action Choice) :=
  createTurns 0 ++ turns 1 recordingChoices

/-- The row of the shipment after the message. -/
def locatedRow (latitude longitude : Json) : ShipmentModel where
  id := parcel
  referenceNumber := "FRT-1"
  origin := "Porto"
  destination := "Lyon"
  carrier := "carrier"
  status := .created
  createdAt := .utc 5
  updatedAt := .utc 20
  currentLatitude := latitude
  currentLongitude := longitude
  lastLocationAt := some (.utc 20)
  lastLifecycleAt := none

/-- A location with both coordinates. -/
theorem numbers_represented :
    ∃ (state : PlatformState) (row : ShipmentModel),
      (platform Server.utc (createdAndLocated (.int 41) (.int 8))).Reachable {} state ∧
      state.world.database.shipment parcel = some row ∧ row.Representation ∧
      LastLocationComplete (appliedEvents state.world.database parcel) := by
  have shown : (((platform Server.utc (createdAndLocated (.int 41) (.int 8))).run
      createdAndLocatedSchedule
      ((platform Server.utc (createdAndLocated (.int 41) (.int 8))).initial {})).map fun state =>
        (decide (NonOverlapping state.world.wal parcel),
          state.world.database.shipment parcel)) =
      some (true, some (locatedRow (.int 41) (.int 8))) := by
    decide +kernel
  obtain ⟨state, ran, shown⟩ := Option.map_eq_some_iff.mp shown
  obtain ⟨apart, found⟩ := Prod.mk.inj shown
  have reached : (platform Server.utc (createdAndLocated (.int 41) (.int 8))).Reachable {}
      state := ⟨createdAndLocatedSchedule, ran⟩
  have represented : (locatedRow (.int 41) (.int 8)).Representation :=
    ⟨by decide, by decide, by decide⟩
  exact ⟨state, _, reached, found, represented,
    (representation_iff Server.utc (fun _ => Iff.rfl) _ state reached parcel
      (of_decide_eq_true apart) _ found).mp represented⟩

/-- A location without coordinates sets the clock of the location and neither
coordinate. -/
theorem unlocated_not_represented :
    ¬ ∀ (decoders : Decoders) (requests : ProcessId → Request),
        (∀ process, (requests process).Accepted decoders) →
        ∀ state : PlatformState, (platform Server.utc requests).Reachable {} state →
        ∀ id, NonOverlapping state.world.wal id →
        ∀ row, state.world.database.shipment id = some row → row.Representation := by
  intro claim
  have shown : (((platform Server.utc (createdAndLocated .null .null)).run
      createdAndLocatedSchedule
      ((platform Server.utc (createdAndLocated .null .null)).initial {})).map fun state =>
        (decide (NonOverlapping state.world.wal parcel),
          state.world.database.shipment parcel)) =
      some (true, some (locatedRow .null .null)) := by
    decide +kernel
  obtain ⟨state, ran, shown⟩ := Option.map_eq_some_iff.mp shown
  obtain ⟨apart, found⟩ := Prod.mk.inj shown
  have represented := claim (locationDecoders .null .null) (createdAndLocated .null .null)
    (createdAndLocated_accepted _ _) state ⟨createdAndLocatedSchedule, ran⟩ parcel
    (of_decide_eq_true apart) _ found
  exact absurd represented.location (by decide)

end Freight
