/-
Module: Freight.Proofs.RecordedOrder
Purpose: Whether the history of a shipment, read in the order of its occurrence and
  replayed through the handler, rebuilds the projection: it does exactly when no two
  applied lifecycle events occurred at one moment and the applied locations of the latest
  moment agree on coordinates that their columns keep.
Trusted boundary: none
Main exports:
  SQLAlchemyShipmentEventRepository.ListByShipment, ShipmentEventHandler.replay, Rebuilds,
  Ahead.replay, applyEvents_isSome_iff, Unambiguous, recordedOrder_replays_iff
-/
import Freight.Domain.Numbers
import Freight.Proofs.LifecycleLanguage
import Freight.Relational.OrderBy

namespace Freight

open Interaction (ProcessId)
open ShipmentStateMachine (run)

/-! ## The listing and the replay -/

/-- The rows of a shipment by `occurred_at`, in any order in which the database may
return rows of one moment. -/
abbrev Listed (postgres : Postgres) (database : Database) (shipmentId : UUID)
    (models : List ShipmentEventModel) : Prop :=
  Table.OrderedBy (fun row => row.instant postgres) (database.history shipmentId) models

/-- `list_by_shipment`. -/
def SQLAlchemyShipmentEventRepository.ListByShipment (postgres : Postgres)
    (database : Database) (shipmentId : UUID) (events : List ShipmentEvent) : Prop :=
  ∃ models, Listed postgres database shipmentId models ∧
    events = models.map EventMapper.toDomain

namespace ShipmentEventHandler

/-- What a replay takes from a history. -/
def replayed (event : ShipmentEvent) : Bool :=
  event.eventType ≠ .shipmentCreated ∧ event.processingStatus ≠ .storedOutOfOrder

/-- One call of the handler, for the shipment that it leaves. -/
def replayEvent (shipment : Shipment) (event : ShipmentEvent) : Except PyError Shipment :=
  match handle shipment event with
  | (.ok _, after) => .ok after
  | (.error error, _) => .error error

/-- A history through the handler, one event after the other, up to the first that
raises. -/
def replay (shipment : Shipment) (events : List ShipmentEvent) : Except PyError Shipment :=
  (events.filter replayed).foldlM replayEvent shipment

end ShipmentEventHandler

/-- A shipment has the status, the clocks and the location that a row persists, up to
what Python's `==` tells apart. -/
structure Rebuilds (row : ShipmentModel) (shipment : Shipment) : Prop where
  status : row.status = shipment.status
  lastLifecycleAt : row.lastLifecycleAt = shipment.lastLifecycleAt
  currentLatitude : row.currentLatitude.Same shipment.currentLatitude
  currentLongitude : row.currentLongitude.Same shipment.currentLongitude
  lastLocationAt : row.lastLocationAt = shipment.lastLocationAt

/-! ## A replay in the order of occurrence -/

theorem ShipmentEventHandler.locationPayload_toOption (payload : Payload) :
    (locationPayload payload).toOption = LocationUpdatedPayload.ofDict payload.plain := by
  cases payload with
  | location location =>
      have decoded : locationPayload (.location location) = .ok location := rfl
      rw [ofDict_plain decoded, decoded]
      rfl
  | json value =>
      cases value with
      | obj fields =>
          simp only [locationPayload, Json.isDict, if_true, Payload.plain]
          cases LocationUpdatedPayload.ofDict (.obj fields) <;> rfl
      | _ => rfl

/-- An event that is late for no clock is replayed as it was applied, if at all. -/
theorem ShipmentEventHandler.replayEvent_current {shipment : Shipment} {event : ShipmentEvent}
    (own : event.shipmentId = shipment.id) (received : event.eventType ≠ .shipmentCreated)
    (current : ∀ timeline,
      isLate (shipment.clock timeline) event.occurredAt = .ok false) :
    (replayEvent shipment event).toOption = applyEvent shipment event := by
  have location := current .location
  have lifecycle := current .lifecycle
  simp only [Shipment.clock] at location lifecycle
  by_cases located : event.eventType = .locationUpdated
  · have decoded := locationPayload_toOption event.payload
    cases payload : locationPayload event.payload with
    | error error =>
        rw [payload] at decoded
        simp [replayEvent, handle, own, located, payload, applyEvent, ← decoded,
          Except.toOption]
    | ok value =>
        rw [payload] at decoded
        simp [replayEvent, handle, own, located, payload, location, applyEvent, ← decoded,
          Except.toOption]
  · cases moved : ShipmentStateMachine.transition shipment.status event.eventType with
    | error error =>
        simp [replayEvent, handle, own, received, located, lifecycle, applyEvent,
          Shipment.changeStatus, moved, Except.toOption]
    | ok next =>
        simp [replayEvent, handle, own, received, located, lifecycle, applyEvent,
          Shipment.changeStatus, moved, Except.toOption]

section Replays

variable {postgres : Postgres} {shipment after : Shipment} {event : ShipmentEvent}
  {events rest : List ShipmentEvent}

/-- Stored events that are ahead of a shipment: its own, none of them its creation, in
the order of their occurrence, and none before one of its clocks. -/
structure Ahead (postgres : Postgres) (shipment : Shipment) (events : List ShipmentEvent) :
    Prop where
  own : ∀ event ∈ events, event.shipmentId = shipment.id
  received : ∀ event ∈ events, event.eventType ≠ .shipmentCreated
  stored : ∀ event ∈ events, postgres.timestamptz event.occurredAt = event.occurredAt
  ordered : events.Pairwise fun first second =>
    first.occurredAt.instant postgres.localize ≤ second.occurredAt.instant postgres.localize
  current : ∀ event ∈ events, ∀ timeline,
    ShipmentEventHandler.isLate (shipment.clock timeline) event.occurredAt = .ok false

/-- Comparing stored times compares instants. -/
theorem lt_stored {first second : DateTime} (firstStored : postgres.timestamptz first = first)
    (secondStored : postgres.timestamptz second = second) :
    first.lt second =
      .ok (decide (first.instant postgres.localize < second.instant postgres.localize)) := by
  rw [← secondStored, Postgres.timestamptz, DateTime.instant_utc]
  refine DateTime.lt_utc first ?_ _ _
  rw [← firstStored]
  rfl

/-- Step lemma: after the first event the others are still ahead. -/
theorem Ahead.step (ahead : Ahead postgres shipment (event :: rest))
    (replayed : ShipmentEventHandler.replayEvent shipment event = .ok after) :
    Ahead postgres after rest := by
  obtain ⟨own, received, stored, ordered, current⟩ := ahead
  obtain ⟨earliest, ordered⟩ := List.pairwise_cons.mp ordered
  obtain ⟨status, handled⟩ : ∃ status,
      ShipmentEventHandler.handle shipment event = (.ok status, after) := by
    unfold ShipmentEventHandler.replayEvent at replayed
    split at replayed
    · rename_i status left handled
      cases replayed
      exact ⟨status, handled⟩
    · cases replayed
  obtain ⟨set, -, others, moved⟩ := ShipmentEventHandler.handle_clock handled
  refine ⟨?_, ?_, ?_, ordered, ?_⟩
  · intro later member
    rw [ShipmentEventHandler.handle_id handled]
    exact own later (List.mem_cons_of_mem event member)
  · intro later member
    exact received later (List.mem_cons_of_mem event member)
  · intro later member
    exact stored later (List.mem_cons_of_mem event member)
  · intro later member timeline
    have before := current later (List.mem_cons_of_mem event member) timeline
    by_cases same : timeline = set
    · subst same
      rcases moved with ⟨-, unchanged, -⟩ | ⟨-, clock, -⟩
      · rw [unchanged]
        exact before
      · rw [clock, ShipmentEventHandler.isLate,
          lt_stored (stored later (List.mem_cons_of_mem event member))
            (stored event List.mem_cons_self)]
        simpa using earliest later member
    · rw [others timeline same]
      exact before

/-- Run lemma: events that are ahead of a shipment are replayed as they were applied. -/
theorem Ahead.replay (ahead : Ahead postgres shipment events) :
    (events.foldlM ShipmentEventHandler.replayEvent shipment).toOption =
      events.foldlM applyEvent shipment := by
  induction events generalizing shipment with
  | nil => rfl
  | cons event rest inductionHypothesis =>
      have first := ShipmentEventHandler.replayEvent_current
        (ahead.own event List.mem_cons_self) (ahead.received event List.mem_cons_self)
        (ahead.current event List.mem_cons_self)
      rw [List.foldlM_cons, List.foldlM_cons, ← first]
      cases replayed : ShipmentEventHandler.replayEvent shipment event with
      | error error => rfl
      | ok after => exact inductionHypothesis (ahead.step replayed)

/-- A fold succeeds when the state machine takes its lifecycle events and every location
has a payload that can be read: neither depends on how the two are mixed. -/
theorem applyEvents_isSome_iff :
    (events.foldlM applyEvent shipment).isSome ↔
      (run shipment.status ((lifecycleEvents events).map ShipmentEvent.eventType)).isSome ∧
        ∀ event ∈ locationEvents events,
          (LocationUpdatedPayload.ofDict event.payload.plain).isSome := by
  induction events generalizing shipment with
  | nil => simp [lifecycleEvents, locationEvents, run]
  | cons event rest inductionHypothesis =>
      rw [List.foldlM_cons]
      by_cases located : event.eventType = .locationUpdated
      · have lifecycle : lifecycleEvents (event :: rest) = lifecycleEvents rest := by
          simp [lifecycleEvents, located]
        have locations : locationEvents (event :: rest) = event :: locationEvents rest := by
          simp [locationEvents, located]
        rw [lifecycle, locations, List.forall_mem_cons]
        cases decoded : LocationUpdatedPayload.ofDict event.payload.plain with
        | none => simp [applyEvent, located, decoded]
        | some payload =>
            have moved : applyEvent shipment event =
                some (shipment.updateLocation payload event.occurredAt) := by
              simp [applyEvent, located, decoded]
            have kept : (shipment.updateLocation payload event.occurredAt).status =
                shipment.status := rfl
            rw [moved, Option.bind_eq_bind, Option.bind_some, inductionHypothesis, kept]
            simp
      · have lifecycle : lifecycleEvents (event :: rest) = event :: lifecycleEvents rest := by
          simp [lifecycleEvents, located]
        have locations : locationEvents (event :: rest) = locationEvents rest := by
          simp [locationEvents, located]
        rw [lifecycle, locations, List.map_cons, run, List.foldlM_cons]
        cases edge : ShipmentStateMachine.transitions shipment.status event.eventType with
        | none =>
            simp [applyEvent, located, Shipment.changeStatus, ShipmentStateMachine.transition,
              edge]
        | some next =>
            have moved : applyEvent shipment event =
                some { shipment with
                  status := next
                  updatedAt := event.occurredAt
                  lastLifecycleAt := some event.occurredAt } := by
              simp [applyEvent, located, Shipment.changeStatus,
                ShipmentStateMachine.transition, edge]
            rw [moved, Option.bind_eq_bind, Option.bind_some, inductionHypothesis]
            simp [run]

end Replays

/-- No two events that follow each other in a lifecycle can be exchanged. -/
theorem ShipmentStateMachine.run_swap {status final other : ShipmentStatus}
    {before after : List ShipmentEventType} {first second : ShipmentEventType}
    (taken : run status (before ++ first :: second :: after) = some final) :
    run status (before ++ second :: first :: after) ≠ some other := by
  intro swapped
  rw [run_append] at taken swapped
  obtain ⟨middle, reached, taken⟩ := Option.bind_eq_some_iff.mp taken
  rw [reached, Option.bind_some] at swapped
  have exchange : ∀ (status : ShipmentStatus) (first second : ShipmentEventType),
      ((transitions status first).bind fun next => transitions next second).isSome →
        ((transitions status second).bind fun next => transitions next first) = none := by
    intro status first second
    cases status <;> cases first <;> cases second <;> decide
  have pair : ∀ {first second : ShipmentEventType} {final : ShipmentStatus},
      run middle (first :: second :: after) = some final →
        ((transitions middle first).bind fun next => transitions next second).isSome := by
    intro first second final ran
    obtain ⟨next, edge, ran⟩ := Option.bind_eq_some_iff.mp ran
    obtain ⟨last, following, -⟩ := Option.bind_eq_some_iff.mp ran
    simp [edge, following]
  have none := exchange middle first second (pair taken)
  simpa [none] using pair swapped

/-! ## The history as it was recorded -/

/-- Whether an event was applied on a timeline. -/
def ShipmentEventModel.appliedOn (timeline : Timeline) (row : ShipmentEventModel) : Bool :=
  row.processingStatus = .applied ∧ row.eventType.timeline = some timeline

theorem Database.applied_eq (database : Database) (id : UUID) (timeline : Timeline) :
    database.applied id timeline =
      (database.history id).filter (ShipmentEventModel.appliedOn timeline) := by
  rw [Database.applied, Database.timeline, List.filter_filter]
  refine List.filter_congr fun row _ => ?_
  simp [ShipmentEventModel.appliedOn]

theorem ShipmentEventProcessingStatus.ne_storedOutOfOrder
    {status : ShipmentEventProcessingStatus} : status ≠ .storedOutOfOrder ↔ status = .applied := by
  cases status <;> decide

/-- What a replay takes from rows. -/
def replayedEvents (models : List ShipmentEventModel) : List ShipmentEvent :=
  (models.map EventMapper.toDomain).filter ShipmentEventHandler.replayed

theorem lifecycleEvents_replayed (models : List ShipmentEventModel) :
    lifecycleEvents (replayedEvents models) =
      (models.filter (ShipmentEventModel.appliedOn .lifecycle)).map EventMapper.toDomain := by
  rw [lifecycleEvents, replayedEvents, List.filter_map, List.filter_map, List.filter_filter]
  congr 1
  refine List.filter_congr fun row _ => Bool.eq_iff_iff.mpr ?_
  simp only [Function.comp, ShipmentEventHandler.replayed, ShipmentEventModel.appliedOn,
    EventMapper.toDomain, Bool.and_eq_true, decide_eq_true_eq,
    ShipmentEventProcessingStatus.ne_storedOutOfOrder,
    ShipmentEventType.timeline_eq_lifecycle]
  constructor
  · intro taken
    exact ⟨taken.2.2, taken.2.1, of_decide_eq_true taken.1⟩
  · intro applied
    exact ⟨decide_eq_true applied.2.2, applied.2.1, applied.1⟩

theorem locationEvents_replayed (models : List ShipmentEventModel) :
    locationEvents (replayedEvents models) =
      (models.filter (ShipmentEventModel.appliedOn .location)).map EventMapper.toDomain := by
  rw [locationEvents, replayedEvents, List.filter_map, List.filter_map, List.filter_filter]
  congr 1
  refine List.filter_congr fun row _ => Bool.eq_iff_iff.mpr ?_
  simp only [Function.comp, ShipmentEventHandler.replayed, ShipmentEventModel.appliedOn,
    EventMapper.toDomain, Bool.and_eq_true, decide_eq_true_eq,
    ShipmentEventProcessingStatus.ne_storedOutOfOrder,
    ShipmentEventType.timeline_eq_location]
  constructor
  · intro taken
    exact ⟨taken.2.2, of_decide_eq_true taken.1⟩
  · intro applied
    refine ⟨decide_eq_true applied.2, ?_, applied.1⟩
    rw [applied.2]
    decide

/-- What a replay takes from the history as it was recorded is what was applied. -/
theorem appliedEvents_eq (database : Database) (id : UUID) :
    appliedEvents database id = replayedEvents (database.history id) := by
  rw [appliedEvents, replayedEvents, Database.history, List.filter_map, List.filter_filter]
  congr 1
  refine List.filter_congr fun row _ => Bool.eq_iff_iff.mpr ?_
  simp only [Function.comp, ShipmentEventHandler.replayed, EventMapper.toDomain,
    Bool.and_eq_true, decide_eq_true_eq, ShipmentEventProcessingStatus.ne_storedOutOfOrder]
  tauto

/-- What a fold over rows has left in a shipment, in terms of the two timelines. -/
structure Told (models : List ShipmentEventModel) (shipment : Shipment) : Prop where
  status : run .created ((models.filter (ShipmentEventModel.appliedOn .lifecycle)).map
    ShipmentEventModel.eventType) = some shipment.status
  lastLifecycleAt : shipment.lastLifecycleAt =
    (models.filter (ShipmentEventModel.appliedOn .lifecycle)).getLast?.map
      ShipmentEventModel.occurredAt
  lastLocationAt : shipment.lastLocationAt =
    (models.filter (ShipmentEventModel.appliedOn .location)).getLast?.map
      ShipmentEventModel.occurredAt
  unlocated : models.filter (ShipmentEventModel.appliedOn .location) = [] →
    shipment.currentLatitude = .null ∧ shipment.currentLongitude = .null
  located : ∀ last ∈ (models.filter (ShipmentEventModel.appliedOn .location)).getLast?,
    LocationUpdatedPayload.ofDict last.payload =
      some { latitude := shipment.currentLatitude, longitude := shipment.currentLongitude }

theorem Told.of_fold {row : ShipmentModel} {models : List ShipmentEventModel}
    {shipment : Shipment}
    (fold : (replayedEvents models).foldlM applyEvent row.created = some shipment) :
    Told models shipment := by
  have folded := applyEvents_folded fold
  have lifecycle := lifecycleEvents_replayed models
  have location := locationEvents_replayed models
  refine ⟨?_, ?_, ?_, ?_, ?_⟩
  · have status := folded.status
    rw [lifecycle, List.map_map] at status
    exact status
  · rw [folded.lastLifecycleAt, lifecycle, List.getLast?_map, Option.map_map]
    rfl
  · rw [folded.lastLocationAt, location, List.getLast?_map, Option.map_map]
    rfl
  · intro none
    refine folded.unlocated ?_
    rw [location, none]
    rfl
  · intro last final
    refine folded.located (EventMapper.toDomain last) ?_
    rw [location, List.getLast?_map, final]
    rfl

/-- The fold over rows succeeds when its timelines allow it. -/
theorem fold_isSome_iff {row : ShipmentModel} {models : List ShipmentEventModel} :
    ((replayedEvents models).foldlM applyEvent row.created).isSome ↔
      (run .created ((models.filter (ShipmentEventModel.appliedOn .lifecycle)).map
          ShipmentEventModel.eventType)).isSome ∧
        ∀ model ∈ models.filter (ShipmentEventModel.appliedOn .location),
          (LocationUpdatedPayload.ofDict model.payload).isSome := by
  rw [applyEvents_isSome_iff, lifecycleEvents_replayed, locationEvents_replayed,
    List.map_map, List.forall_mem_map]
  rfl

/-- What the sequential history of a shipment has left: its row is the fold of its
applied events, which were applied on each timeline in the order of their occurrence,
and the times of all its events are stored. -/
structure Chronicle (postgres : Postgres) (database : Database) (id : UUID)
    (row : ShipmentModel) : Prop where
  found : database.shipment id = some row
  replayed : Replayed postgres database id
  ordered : ∀ timeline, (database.applied id timeline).Pairwise fun first second =>
    first.instant postgres ≤ second.instant postgres
  stored : ∀ event ∈ database.history id,
    postgres.timestamptz event.occurredAt = event.occurredAt

/-- Run lemma: recorded times are stored. -/
theorem History.times_stored {server : Server} {quiet : Prop}
    {requests : ProcessId → Request} {wal : List Transaction} {id : UUID}
    (history : History server {} quiet requests wal) (apart : NonOverlapping wal id)
    (count : Nat) :
    ∀ event ∈ (replay {} (wal.take count)).history id,
      server.postgres.timestamptz event.occurredAt = event.occurredAt := by
  refine history.sequential_induction apart (motive := fun database =>
    ∀ event ∈ database.history id,
      server.postgres.timestamptz event.occurredAt = event.occurredAt) ?_ ?_ count
  · intro event member
    cases member
  · intro process before after kept episode event member
    cases episode with
    | silent shipment events =>
        rw [events] at member
        exact kept event member
    | created creation own fresh shipment events =>
        rw [events] at member
        rcases List.mem_append.mp member with earlier | last
        · exact kept event earlier
        · rw [List.mem_singleton.mp last]
          exact Postgres.timestamptz_timestamptz _
    | received reception reports own found unmoved handled unrecorded shipment events =>
        rw [events] at member
        rcases List.mem_append.mp member with earlier | last
        · exact kept event earlier
        · rw [List.mem_singleton.mp last]
          exact Postgres.timestamptz_timestamptz _

/-- A legal log from empty tables without overlapping receptions leaves a recorded
history. -/
theorem History.recorded {server : Server} {quiet : Prop} {requests : ProcessId → Request}
    {wal : List Transaction} {id : UUID} {row : ShipmentModel}
    (history : History server {} quiet requests wal) (apart : NonOverlapping wal id)
    (found : (replay {} wal).shipment id = some row) :
    Chronicle server.postgres (replay {} wal) id row := by
  have watermarked := history.watermarked apart wal.length
  have stored := history.times_stored apart wal.length
  rw [List.take_length] at watermarked stored
  exact
    { found := found
      replayed := history.replayed apart
      ordered := fun timeline => (watermarked.classified timeline).applied_ordered
      stored := stored }

/-! ## When the listing rebuilds the projection -/

open SQLAlchemyShipmentEventRepository (ListByShipment)

/-- The history of a shipment tells one order of what was applied: no two lifecycle
events occurred at one moment, and the locations that share the latest moment carry the
same coordinates, which their columns hand back as they are. -/
structure Unambiguous (postgres : Postgres) (database : Database) (id : UUID) : Prop where
  lifecycle : (database.applied id .lifecycle).Pairwise fun first second =>
    first.instant postgres ≠ second.instant postgres
  location : ∀ first ∈ database.applied id .location,
    ∀ second ∈ database.applied id .location,
      (∀ other ∈ database.applied id .location,
        other.instant postgres ≤ first.instant postgres) →
      first.instant postgres = second.instant postgres →
      ∀ payload ∈ LocationUpdatedPayload.ofDict first.payload,
      ∀ other ∈ LocationUpdatedPayload.ofDict second.payload,
        (postgres.float8 payload.latitude).Same other.latitude ∧
          (postgres.float8 payload.longitude).Same other.longitude

section Rebuilding

variable {postgres : Postgres} {database : Database} {id : UUID} {row : ShipmentModel}
  {models : List ShipmentEventModel} {shipment : Shipment}

/-- A listing is ahead of the shipment as it was created. -/
theorem Chronicle.ahead (recorded : Chronicle postgres database id row)
    (listed : Listed postgres database id models) :
    Ahead postgres row.created (replayedEvents models) := by
  have house : row.id = id := Database.shipment_id recorded.found
  have origin : ∀ event ∈ replayedEvents models,
      ShipmentEventHandler.replayed event = true ∧
        ∃ model ∈ database.history id, EventMapper.toDomain model = event := by
    intro event member
    obtain ⟨present, taken⟩ := List.mem_filter.mp member
    obtain ⟨model, inside, same⟩ := List.mem_map.mp present
    exact ⟨taken, model, listed.perm.subset inside, same⟩
  refine ⟨?_, ?_, ?_, ?_, ?_⟩
  · intro event member
    obtain ⟨-, model, present, rfl⟩ := origin event member
    have own : model.shipmentId = id := of_decide_eq_true (List.mem_filter.mp present).2
    exact own.trans house.symm
  · intro event member
    exact (of_decide_eq_true (origin event member).1).1
  · intro event member
    obtain ⟨-, model, present, rfl⟩ := origin event member
    exact recorded.stored model present
  · have ordered : (models.map EventMapper.toDomain).Pairwise fun first second =>
        first.occurredAt.instant postgres.localize ≤
          second.occurredAt.instant postgres.localize :=
      List.pairwise_map.mpr listed.ascending
    exact ordered.filter _
  · intro event _ timeline
    cases timeline <;> rfl

/-- A listing is replayed as the fold of what it holds. -/
theorem Chronicle.replay_iff (recorded : Chronicle postgres database id row)
    (listed : Listed postgres database id models) :
    ShipmentEventHandler.replay row.created (models.map EventMapper.toDomain) =
        .ok shipment ↔
      (replayedEvents models).foldlM applyEvent row.created = some shipment := by
  rw [← (recorded.ahead listed).replay, ShipmentEventHandler.replay, ← replayedEvents]
  cases (replayedEvents models).foldlM ShipmentEventHandler.replayEvent row.created with
  | error error => simp [Except.toOption]
  | ok after => simp [Except.toOption]

/-- The fold behind the row. -/
theorem Chronicle.fold (recorded : Chronicle postgres database id row) :
    ∃ projected,
      (replayedEvents (database.history id)).foldlM applyEvent row.created = some projected ∧
      Projects postgres row projected := by
  obtain ⟨projected, fold, projects⟩ := recorded.replayed.folded row recorded.found
  rw [appliedEvents_eq] at fold
  exact ⟨projected, fold, projects⟩

/-- What was applied on a timeline, in the order of a listing. -/
theorem Listed.applied (listed : Listed postgres database id models) (timeline : Timeline) :
    Table.OrderedBy (fun row => row.instant postgres) (database.applied id timeline)
      (models.filter (ShipmentEventModel.appliedOn timeline)) := by
  rw [Database.applied_eq]
  exact listed.filter _

/-- Any order of what was applied on a timeline shows in some listing. -/
theorem exists_listed {timeline : Timeline} {chosen : List ShipmentEventModel}
    (ordered : Table.OrderedBy (fun row => row.instant postgres)
      (database.applied id timeline) chosen) :
    ∃ models, Listed postgres database id models ∧
      models.filter (ShipmentEventModel.appliedOn timeline) = chosen := by
  rw [Database.applied_eq] at ordered
  exact Table.exists_orderedBy_filter ordered

/-- The locations of a listing end at the moment at which the recorded ones end, and in
an unambiguous history at the same coordinates. -/
theorem Chronicle.location (recorded : Chronicle postgres database id row)
    (absent : postgres.float8 .null = .null) (unambiguous : Unambiguous postgres database id)
    (listed : Listed postgres database id models) {projected : Shipment}
    (told : Told (database.history id) projected) (retold : Told models shipment) :
    projected.lastLocationAt = shipment.lastLocationAt ∧
      (postgres.float8 projected.currentLatitude).Same shipment.currentLatitude ∧
      (postgres.float8 projected.currentLongitude).Same shipment.currentLongitude := by
  have locations := listed.applied .location
  have asRecorded : Table.OrderedBy (fun row => row.instant postgres)
      (database.applied id .location) (database.applied id .location) :=
    ⟨.refl _, recorded.ordered .location⟩
  have toldAt := told.lastLocationAt
  have toldNowhere := told.unlocated
  have toldThere := told.located
  rw [← Database.applied_eq] at toldAt toldNowhere toldThere
  cases ends : (models.filter (ShipmentEventModel.appliedOn .location)).getLast? with
  | none =>
      have none := List.getLast?_eq_none_iff.mp ends
      have nowhere : database.applied id .location = [] := by
        have perm := locations.perm
        rw [none] at perm
        exact List.nil_perm.mp perm
      obtain ⟨latitude, longitude⟩ := toldNowhere nowhere
      obtain ⟨relatitude, relongitude⟩ := retold.unlocated none
      rw [latitude, longitude, relatitude, relongitude, absent, toldAt, retold.lastLocationAt,
        nowhere, none]
      exact ⟨rfl, .refl _, .refl _⟩
  | some last =>
      have member : last ∈ database.applied id .location :=
        locations.perm.subset (List.mem_of_getLast? ends)
      cases recordedEnds : (database.applied id .location).getLast? with
      | none =>
          rw [List.getLast?_eq_none_iff.mp recordedEnds] at member
          cases member
      | some recordedLast =>
          have recordedMember := List.mem_of_getLast? recordedEnds
          have moment : recordedLast.instant postgres = last.instant postgres :=
            asRecorded.last_unique recordedEnds locations ends
          have stored : ∀ model ∈ database.applied id .location,
              model.occurredAt = .utc (model.instant postgres) := by
            intro model present
            rw [Database.applied_eq] at present
            exact (recorded.stored model (List.mem_filter.mp present).1).symm
          have payload := toldThere recordedLast recordedEnds
          have repayload := retold.located last ends
          obtain ⟨latitude, longitude⟩ := unambiguous.location recordedLast recordedMember last
            member (fun other => asRecorded.le_last recordedEnds) moment _ payload _ repayload
          refine ⟨?_, latitude, longitude⟩
          rw [toldAt, retold.lastLocationAt, recordedEnds, ends, Option.map_some,
            Option.map_some, stored recordedLast recordedMember, stored last member, moment]

/-- A listing of an unambiguous history rebuilds the row. -/
theorem Chronicle.rebuilds (recorded : Chronicle postgres database id row)
    (absent : postgres.float8 .null = .null) (unambiguous : Unambiguous postgres database id)
    (listed : Listed postgres database id models) :
    ∃ shipment,
      ShipmentEventHandler.replay row.created (models.map EventMapper.toDomain) =
        .ok shipment ∧ Rebuilds row shipment := by
  obtain ⟨projected, fold, projects⟩ := recorded.fold
  obtain ⟨taken, readable⟩ := fold_isSome_iff.mp (Option.isSome_iff_exists.mpr ⟨_, fold⟩)
  -- the lifecycle has one order only
  have strict : (database.applied id .lifecycle).Pairwise fun first second =>
      first.instant postgres < second.instant postgres :=
    (recorded.ordered .lifecycle).imp₂ (fun _ _ below apart => lt_of_le_of_ne below apart)
      unambiguous.lifecycle
  have lifecycle : models.filter (ShipmentEventModel.appliedOn .lifecycle) =
      (database.history id).filter (ShipmentEventModel.appliedOn .lifecycle) := by
    rw [← Database.applied_eq]
    exact (listed.applied .lifecycle).eq_of_strict strict
  obtain ⟨shipment, refold⟩ : ∃ shipment,
      (replayedEvents models).foldlM applyEvent row.created = some shipment := by
    refine Option.isSome_iff_exists.mp (fold_isSome_iff.mpr ⟨?_, ?_⟩)
    · rw [lifecycle]
      exact taken
    · intro model member
      refine readable model ?_
      rw [← Database.applied_eq]
      exact (listed.applied .location).perm.subset member
  have told : Told (database.history id) projected := .of_fold fold
  have retold : Told models shipment := .of_fold refold
  have status : some projected.status = some shipment.status := by
    rw [← told.status, ← retold.status, lifecycle]
  have lastLifecycleAt : projected.lastLifecycleAt = shipment.lastLifecycleAt := by
    rw [told.lastLifecycleAt, retold.lastLifecycleAt, lifecycle]
  obtain ⟨lastLocationAt, latitude, longitude⟩ :=
    recorded.location absent unambiguous listed told retold
  refine ⟨shipment, (recorded.replay_iff listed).mpr refold, ?_⟩
  exact
    { status := projects.status.trans (Option.some.inj status)
      lastLifecycleAt := projects.lastLifecycleAt.trans lastLifecycleAt
      currentLatitude := projects.currentLatitude.trans latitude
      currentLongitude := projects.currentLongitude.trans longitude
      lastLocationAt := projects.lastLocationAt.trans lastLocationAt }

/-- A history all of whose listings rebuild the row is unambiguous: a listing may exchange
lifecycle events of one moment, and end with any location of the latest moment. -/
theorem Chronicle.unambiguous (recorded : Chronicle postgres database id row)
    (rebuilds : ∀ models, Listed postgres database id models → ∃ shipment,
      ShipmentEventHandler.replay row.created (models.map EventMapper.toDomain) =
        .ok shipment ∧ Rebuilds row shipment) :
    Unambiguous postgres database id := by
  constructor
  · by_contra ambiguous
    obtain ⟨projected, fold, -⟩ := recorded.fold
    have taken := (Told.of_fold fold).status
    rw [← Database.applied_eq] at taken
    -- two neighbours of one moment change places
    obtain ⟨before, first, second, after, shape, tied⟩ :=
      Table.exists_tie (recorded.ordered .lifecycle) fun strict =>
        ambiguous (strict.imp ne_of_lt)
    have ordered := recorded.ordered .lifecycle
    rw [shape] at ordered
    have swapped := Table.orderedBy_swap ordered tied
    rw [← shape] at swapped
    obtain ⟨models, listed, selection⟩ := exists_listed swapped
    obtain ⟨shipment, replayed, -⟩ := rebuilds models listed
    have retaken := (Told.of_fold ((recorded.replay_iff listed).mp replayed)).status
    rw [selection, List.map_append, List.map_cons, List.map_cons] at retaken
    rw [shape, List.map_append, List.map_cons, List.map_cons] at taken
    exact ShipmentStateMachine.run_swap taken retaken
  · intro first firstMember second secondMember greatest tied payload decoded other
      otherDecoded
    have carries : ∀ model ∈ database.applied id .location,
        (∀ other ∈ database.applied id .location,
          other.instant postgres ≤ model.instant postgres) →
        ∀ payload ∈ LocationUpdatedPayload.ofDict model.payload,
          row.currentLatitude.Same payload.latitude ∧
            row.currentLongitude.Same payload.longitude := by
      intro model member last payload decoded
      obtain ⟨chosen, ordered, ends⟩ := Table.exists_orderedBy_last member last
      obtain ⟨models, listed, selection⟩ := exists_listed ordered
      obtain ⟨shipment, replayed, rebuilt⟩ := rebuilds models listed
      have told := (Told.of_fold ((recorded.replay_iff listed).mp replayed)).located
      rw [selection] at told
      have same := decoded.symm.trans (told model ends)
      cases same
      exact ⟨rebuilt.currentLatitude, rebuilt.currentLongitude⟩
    obtain ⟨latitude, longitude⟩ := carries first firstMember greatest payload decoded
    obtain ⟨otherLatitude, otherLongitude⟩ :=
      carries second secondMember (tied ▸ greatest) other otherDecoded
    -- the row holds what its columns hand back
    have columns := ShipmentModel.stored_iff.mp (recorded.replayed.stored row recorded.found)
    have keptLatitude := postgres.float8_same latitude.symm
    have keptLongitude := postgres.float8_same longitude.symm
    rw [columns.currentLatitude] at keptLatitude
    rw [columns.currentLongitude] at keptLongitude
    exact ⟨keptLatitude.trans otherLatitude, keptLongitude.trans otherLongitude⟩

end Rebuilding

/-- From empty tables, under any requests of which no two receptions of a shipment overlap,
where a column keeps a null: every order in which `list_by_shipment` may return its events,
replayed without the creation and the events stored out of order over the shipment as it was
created, raises no error and ends with the persisted status, clocks and location, if and only
if the history is unambiguous. -/
theorem recordedOrder_replays_iff (server : Server)
    (absent : server.postgres.float8 .null = .null) (requests : ProcessId → Request)
    (state : PlatformState) (reached : (platform server requests).Reachable {} state)
    (id : UUID) (apart : NonOverlapping state.world.wal id) (row : ShipmentModel)
    (found : state.world.database.shipment id = some row) :
    (∀ events, ListByShipment server.postgres state.world.database id events →
        ∃ shipment, ShipmentEventHandler.replay row.created events = .ok shipment ∧
          Rebuilds row shipment) ↔
      Unambiguous server.postgres state.world.database id := by
  have keyed : ({} : Database).outboxKeys.Nodup := List.nodup_nil
  have kept : Invariant server {} False requests state.world :=
    platform_invariant keyed reached
  have database : state.world.database = replay {} state.world.wal := by
    rw [World.database, kept.start]
  have recorded : Chronicle server.postgres state.world.database id row := by
    rw [database] at found ⊢
    exact kept.history.recorded apart found
  constructor
  · intro rebuilds
    exact recorded.unambiguous fun models listed => rebuilds _ ⟨models, listed, rfl⟩
  · intro unambiguous events returned
    obtain ⟨models, listed, rfl⟩ := returned
    exact recorded.rebuilds absent unambiguous listed

/-! ## A pickup that was scheduled and completed at one moment -/

/-- A creation, and the scheduling and completion of the pickup. -/
def tiedPickup : ProcessId → Request
  | 0 => journey 0
  | 1 => .receiveEvent none (report 7 .pickupScheduled 20)
  | 2 => .receiveEvent none (report 9 .pickupCompleted 20)
  | _ => .publishOne 1000

def tiedPickupSchedule : List (Interaction.System.Action Choice) :=
  createTurns 0 ++ lookUp 1 ++ recordRest 1 100 ++ lookUp 2 ++ recordRest 2 101

/-- The rows of the history with the last two exchanged. -/
def exchanged (models : List ShipmentEventModel) : List ShipmentEventModel :=
  [models[0]?, models[2]?, models[1]?].reduceOption

theorem tiedPickupSchedule_runs :
    (((platform Server.utc tiedPickup).run tiedPickupSchedule
      ((platform Server.utc tiedPickup).initial {})).map fun state =>
        let models := exchanged (state.world.database.history parcel)
        (decide (NonOverlapping state.world.wal parcel ∧
            Listed .utc state.world.database parcel models),
          (state.world.database.shipment parcel).map fun row =>
            (row.status, ShipmentEventHandler.replay row.created
              (models.map EventMapper.toDomain)))) =
      some (true, some (.pickedUp,
        .error (.invalidStateTransition "CREATED" "PICKUP_COMPLETED"))) := by
  decide +kernel

/-- The shipment has been picked up, and the history that the API may return has it picked
up before the pickup was scheduled. -/
theorem tiedPickup_notReplayed :
    ∃ (state : PlatformState) (row : ShipmentModel) (events : List ShipmentEvent),
      (platform Server.utc tiedPickup).Reachable {} state ∧
      NonOverlapping state.world.wal parcel ∧
      state.world.database.shipment parcel = some row ∧ row.status = .pickedUp ∧
      ListByShipment .utc state.world.database parcel events ∧
      ShipmentEventHandler.replay row.created events =
        .error (.invalidStateTransition "CREATED" "PICKUP_COMPLETED") := by
  obtain ⟨state, ran, shown⟩ := Option.map_eq_some_iff.mp tiedPickupSchedule_runs
  obtain ⟨apart, rest⟩ := Prod.mk.inj shown
  obtain ⟨nonOverlapping, listed⟩ := of_decide_eq_true apart
  obtain ⟨row, found, replayed⟩ := Option.map_eq_some_iff.mp rest
  obtain ⟨status, raised⟩ := Prod.mk.inj replayed
  exact ⟨state, row, _, ⟨tiedPickupSchedule, ran⟩, nonOverlapping, found, status,
    ⟨_, listed, rfl⟩, raised⟩

/-- The history of the journey has one event on each timeline. -/
theorem journeySchedule_applied :
    (((platform Server.utc journey).run journeySchedule
      ((platform Server.utc journey).initial {})).map fun state =>
        (decide (NonOverlapping state.world.wal parcel),
          (state.world.database.shipment parcel).map ShipmentModel.status,
          (state.world.database.applied parcel .lifecycle).length,
          (state.world.database.applied parcel .location).length)) =
      some (true, some .scheduled, 1, 1) := by
  decide +kernel

/-- Every listing of the journey rebuilds its projection. -/
theorem journey_recordedOrder :
    ∃ (state : PlatformState) (row : ShipmentModel),
      (platform Server.utc journey).Reachable {} state ∧
      state.world.database.shipment parcel = some row ∧ row.status = .scheduled ∧
      ∀ events, ListByShipment .utc state.world.database parcel events →
        ∃ shipment, ShipmentEventHandler.replay row.created events = .ok shipment ∧
          Rebuilds row shipment := by
  obtain ⟨state, ran, shown⟩ := Option.map_eq_some_iff.mp journeySchedule_applied
  obtain ⟨apart, rest⟩ := Prod.mk.inj shown
  obtain ⟨present, lengths⟩ := Prod.mk.inj rest
  obtain ⟨oneLifecycle, oneLocation⟩ := Prod.mk.inj lengths
  obtain ⟨row, found, status⟩ := Option.map_eq_some_iff.mp present
  obtain ⟨event, lifecycle⟩ := List.length_eq_one_iff.mp oneLifecycle
  obtain ⟨place, location⟩ := List.length_eq_one_iff.mp oneLocation
  have reached : (platform Server.utc journey).Reachable {} state := ⟨journeySchedule, ran⟩
  refine ⟨state, row, reached, found, status, ?_⟩
  refine (recordedOrder_replays_iff Server.utc rfl journey state reached parcel
    (of_decide_eq_true apart) row found).mpr ⟨?_, ?_⟩
  · rw [lifecycle]
    exact List.pairwise_singleton _ _
  · rw [location]
    intro first firstMember second secondMember _ _ payload decoded other otherDecoded
    rw [List.mem_singleton.mp firstMember] at decoded
    rw [List.mem_singleton.mp secondMember] at otherDecoded
    cases decoded.symm.trans otherDecoded
    exact ⟨.refl _, .refl _⟩

end Freight
