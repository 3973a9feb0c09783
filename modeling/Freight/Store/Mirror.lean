/-
Module: Freight.Store.Mirror
Purpose: When the rows of a server and the objects of a session stand for what plain stores
  hold, and that the steps of the use cases and the unit of work keep it so.
Trusted boundary: none
Main exports:
  Shipment.Equal, ShipmentEventHandler.handle_equal, Shipment.Proper, Written.equal, Mirrors,
  Mirrors.object, Mirrors.insertShipment, Mirrors.record, Mirrors.assign, Mirrors.flush
-/
import Freight.Application.Ports
import Freight.Store.Columns
import Freight.Store.Lone
import Mathlib.Data.Option.Defs

namespace Freight

/-! ## Equal shipments -/

/-- Shipments that Python finds equal in all twelve fields. -/
structure Shipment.Equal (one two : Shipment) : Prop where
  id : one.id = two.id
  referenceNumber : one.referenceNumber = two.referenceNumber
  origin : one.origin = two.origin
  destination : one.destination = two.destination
  carrier : one.carrier = two.carrier
  status : one.status = two.status
  createdAt : one.createdAt.eq two.createdAt = true
  updatedAt : one.updatedAt.eq two.updatedAt = true
  currentLatitude : one.currentLatitude.Same two.currentLatitude
  currentLongitude : one.currentLongitude.Same two.currentLongitude
  lastLocationAt : optionalDateTimeEq one.lastLocationAt two.lastLocationAt = true
  lastLifecycleAt : optionalDateTimeEq one.lastLifecycleAt two.lastLifecycleAt = true

theorem Shipment.Equal.refl (shipment : Shipment) : shipment.Equal shipment where
  id := rfl
  referenceNumber := rfl
  origin := rfl
  destination := rfl
  carrier := rfl
  status := rfl
  createdAt := DateTime.eq_refl _
  updatedAt := DateTime.eq_refl _
  currentLatitude := Json.Same.refl _
  currentLongitude := Json.Same.refl _
  lastLocationAt := optionalDateTimeEq_refl _
  lastLifecycleAt := optionalDateTimeEq_refl _

/-- Equal clocks are compared alike. -/
theorem DateTime.lt_of_eq {one two : DateTime} (same : one.eq two = true) (value : DateTime) :
    value.lt one = value.lt two := by
  obtain ⟨oneWall, oneOffset⟩ := one
  obtain ⟨twoWall, twoOffset⟩ := two
  obtain ⟨wall, offset⟩ := value
  cases oneOffset with
  | none =>
      cases twoOffset with
      | none =>
          have equal : oneWall = twoWall := by simpa [DateTime.eq] using same
          rw [equal]
      | some twoOffset => cases same
  | some oneOffset =>
      cases twoOffset with
      | none => cases same
      | some twoOffset =>
          have equal : oneWall - oneOffset = twoWall - twoOffset := by
            simpa [DateTime.eq] using same
          cases offset with
          | none => rfl
          | some offset => simp only [DateTime.lt, equal]

namespace ShipmentEventHandler

theorem isLate_of_eq {one two : Option DateTime} (same : optionalDateTimeEq one two = true)
    (occurredAt : DateTime) : isLate one occurredAt = isLate two occurredAt := by
  cases one with
  | none =>
      cases two with
      | none => rfl
      | some two => cases same
  | some one =>
      cases two with
      | none => cases same
      | some two => exact DateTime.lt_of_eq same occurredAt

/-- The handler does the same with equal shipments. -/
theorem handle_equal {one two : Shipment} (equal : one.Equal two) (event : ShipmentEvent) :
    (handle one event).1 = (handle two event).1 ∧
      (handle one event).2.Equal (handle two event).2 := by
  unfold handle
  rw [equal.id]
  split
  · exact ⟨rfl, equal⟩
  split
  · exact ⟨rfl, equal⟩
  split
  · cases decoded : locationPayload event.payload with
    | error error => exact ⟨rfl, equal⟩
    | ok payload =>
        rw [isLate_of_eq equal.lastLocationAt]
        cases late : isLate two.lastLocationAt event.occurredAt with
        | error error => exact ⟨rfl, equal⟩
        | ok behind =>
            cases behind with
            | true => exact ⟨rfl, equal⟩
            | false =>
                refine ⟨rfl, ?_⟩
                exact
                  { equal with
                    updatedAt := DateTime.eq_refl _
                    currentLatitude := Json.Same.refl _
                    currentLongitude := Json.Same.refl _
                    lastLocationAt := DateTime.eq_refl _ }
  · rw [isLate_of_eq equal.lastLifecycleAt]
    cases late : isLate two.lastLifecycleAt event.occurredAt with
    | error error => exact ⟨rfl, equal⟩
    | ok behind =>
        cases behind with
        | true => exact ⟨rfl, equal⟩
        | false =>
            simp only [Shipment.changeStatus, equal.status]
            cases ShipmentStateMachine.transition two.status event.eventType with
            | error error => exact ⟨rfl, equal⟩
            | ok status =>
                refine ⟨rfl, ?_⟩
                exact
                  { equal with
                    status := rfl
                    updatedAt := DateTime.eq_refl _
                    lastLifecycleAt := DateTime.eq_refl _ }

end ShipmentEventHandler

/-! ## What the columns hand back -/

/-- A value that a `Float` column hands back equal. -/
def Postgres.Exact (postgres : Postgres) (value : Json) : Prop :=
  (postgres.float8 value).Same value

/-- Timestamps with a timezone, and coordinates that are handed back equal. -/
structure Shipment.Proper (postgres : Postgres) (shipment : Shipment) : Prop where
  createdAt : shipment.createdAt.aware = true
  updatedAt : shipment.updatedAt.aware = true
  currentLatitude : postgres.Exact shipment.currentLatitude
  currentLongitude : postgres.Exact shipment.currentLongitude
  lastLocationAt : ∀ clock ∈ shipment.lastLocationAt, clock.aware = true
  lastLifecycleAt : ∀ clock ∈ shipment.lastLifecycleAt, clock.aware = true

/-- A string as the source, timestamps with a timezone, an object as the payload, and as a
location only coordinates of some kind. -/
structure ShipmentEvent.Proper (coordinate : Json → Prop) (event : ShipmentEvent) : Prop where
  typed : event.WellTyped
  object : event.payload.plain.isDict = true
  located : event.eventType = .locationUpdated → ∀ location,
    ShipmentEventHandler.locationPayload event.payload = .ok location →
      coordinate location.latitude ∧ coordinate location.longitude

section Columns

variable {postgres : Postgres}

theorem ShipmentEvent.Proper.handle {shipment after : Shipment} {event : ShipmentEvent}
    {status : ShipmentEventProcessingStatus} (proper : event.Proper postgres.Exact)
    (kept : shipment.Proper postgres)
    (handled : ShipmentEventHandler.handle shipment event = (.ok status, after)) :
    after.Proper postgres ∧ after.referenceNumber = shipment.referenceNumber := by
  obtain ⟨-, -, ⟨located, payload, decoded, ⟨-, rfl, -⟩ | ⟨-, rfl, -⟩⟩ |
    ⟨-, ⟨-, rfl, -⟩ | ⟨-, -, next, -, rfl⟩⟩⟩ := ShipmentEventHandler.handle_cases handled
  · exact ⟨kept, rfl⟩
  · obtain ⟨latitude, longitude⟩ := proper.located located payload decoded
    refine ⟨?_, rfl⟩
    exact
      { kept with
        updatedAt := proper.typed.occurredAt
        currentLatitude := latitude
        currentLongitude := longitude
        lastLocationAt := by
          intro clock current
          cases current
          exact proper.typed.occurredAt }
  · exact ⟨kept, rfl⟩
  · refine ⟨?_, rfl⟩
    exact
      { kept with
        updatedAt := proper.typed.occurredAt
        lastLifecycleAt := by
          intro clock current
          cases current
          exact proper.typed.occurredAt }

/-- A timestamp with a timezone is handed back equal. -/
theorem Postgres.timestamptz_eq {value aware : DateTime} (same : value.eq aware = true)
    (zoned : aware.aware = true) : (postgres.timestamptz value).eq aware = true := by
  obtain ⟨wall, offset⟩ := value
  obtain ⟨otherWall, otherOffset⟩ := aware
  cases otherOffset with
  | none => cases zoned
  | some otherOffset =>
      cases offset with
      | none => cases same
      | some offset =>
          simpa [DateTime.eq, Postgres.timestamptz, DateTime.utc, DateTime.instant] using same

theorem Postgres.clock_eq {value aware : Option DateTime}
    (same : optionalDateTimeEq value aware = true)
    (zoned : ∀ clock ∈ aware, clock.aware = true) :
    optionalDateTimeEq (value.map postgres.timestamptz) aware = true := by
  cases value with
  | none => exact same
  | some value =>
      cases aware with
      | none => cases same
      | some aware => exact Postgres.timestamptz_eq same (zoned aware rfl)

/-- A coordinate that is handed back equal. -/
theorem Postgres.coordinate_same {row value exact : Json}
    (written : row.Same (postgres.float8 value)) (same : value.Same exact)
    (kept : postgres.Exact exact) : row.Same exact := by
  have converted : (postgres.float8 value).Same (postgres.float8 exact) := by
    rcases same with rfl | equal
    · exact Json.Same.refl _
    · exact postgres.float8_eq value exact equal
  exact (written.trans converted).trans kept

/-- A row that holds the attributes of a proper shipment is read back as an equal one. -/
theorem Written.equal {row model : ShipmentModel} {shipment : Shipment}
    (written : Written postgres row model)
    (equal : (ShipmentMapper.toDomain model).Equal shipment)
    (proper : shipment.Proper postgres) : (ShipmentMapper.toDomain row).Equal shipment where
  id := written.id.trans equal.id
  referenceNumber := written.referenceNumber.trans equal.referenceNumber
  origin := written.origin.trans equal.origin
  destination := written.destination.trans equal.destination
  carrier := written.carrier.trans equal.carrier
  status := written.status.trans equal.status
  createdAt := by
    change row.createdAt.eq _ = true
    rw [written.createdAt]
    exact Postgres.timestamptz_eq equal.createdAt proper.createdAt
  updatedAt := by
    change row.updatedAt.eq _ = true
    rw [written.updatedAt]
    exact Postgres.timestamptz_eq equal.updatedAt proper.updatedAt
  currentLatitude :=
    Postgres.coordinate_same written.currentLatitude equal.currentLatitude
      proper.currentLatitude
  currentLongitude :=
    Postgres.coordinate_same written.currentLongitude equal.currentLongitude
      proper.currentLongitude
  lastLocationAt := by
    change optionalDateTimeEq row.lastLocationAt _ = true
    rw [written.lastLocationAt]
    exact Postgres.clock_eq equal.lastLocationAt proper.lastLocationAt
  lastLifecycleAt := by
    change optionalDateTimeEq row.lastLifecycleAt _ = true
    rw [written.lastLifecycleAt]
    exact Postgres.clock_eq equal.lastLifecycleAt proper.lastLifecycleAt

/-- An inserted row holds the attributes of the object. -/
theorem written_shipmentRow (model : ShipmentModel) :
    Written postgres (postgres.shipmentRow model) model where
  id := rfl
  referenceNumber := rfl
  origin := rfl
  destination := rfl
  carrier := rfl
  status := rfl
  createdAt := rfl
  updatedAt := rfl
  currentLatitude := Json.Same.refl _
  currentLongitude := Json.Same.refl _
  lastLocationAt := rfl
  lastLifecycleAt := rfl

/-- An event row that stands for an event. -/
structure ShipmentEventModel.Records (row : ShipmentEventModel) (event : ShipmentEvent) :
    Prop where
  eventId : row.eventId = event.eventId
  shipmentId : row.shipmentId = event.shipmentId
  eventType : row.eventType = event.eventType
  source : row.source = event.source
  occurredAt : row.occurredAt.eq event.occurredAt = true
  receivedAt : row.receivedAt.eq event.receivedAt = true
  payload : row.payload = event.payload.plain
  processingStatus : row.processingStatus = event.processingStatus

/-- An inserted row stands for the event. -/
theorem ShipmentEvent.WellTyped.records {event : ShipmentEvent} (typed : event.WellTyped) :
    (postgres.eventRow (EventMapper.toModel event)).Records event where
  eventId := rfl
  shipmentId := rfl
  eventType := rfl
  source := by
    obtain ⟨text, isText⟩ := typed.source
    change postgres.varchar event.source = event.source
    rw [isText, postgres.varchar_str]
  occurredAt := Postgres.timestamptz_eq (DateTime.eq_refl _) typed.occurredAt
  receivedAt := Postgres.timestamptz_eq (DateTime.eq_refl _) typed.receivedAt
  payload := rfl
  processingStatus := rfl

end Columns

/-! ## The relation -/

/-- The key of the identity map. -/
abbrev Tracked.key (tracked : Tracked ShipmentModel) : UUID := tracked.loaded.id

/-- A shipment as a session sees it: the attributes of the object that is loaded, or else
the row. -/
def attributes (objects : List (Tracked ShipmentModel)) (database : Database) (id : UUID) :
    Option ShipmentModel :=
  ((Table.lookup Tracked.key objects id).map Tracked.current).or (database.shipment id)

theorem attributes_cons (tracked : Tracked ShipmentModel)
    (objects : List (Tracked ShipmentModel)) (database : Database) (id : UUID) :
    attributes (tracked :: objects) database id =
      if tracked.key = id then some tracked.current else attributes objects database id := by
  rw [attributes, Table.lookup_cons]
  by_cases same : tracked.key = id
  · rw [if_pos same, if_pos same]
    rfl
  · rw [if_neg same, if_neg same, attributes]

/-- A shipment that is inserted is seen under its own identifier only. -/
theorem attributes_insertShipment {row : ShipmentModel} {id : UUID} (apart : row.id ≠ id)
    (objects : List (Tracked ShipmentModel)) (database : Database) :
    attributes objects (database.write (.insertShipment row)) id =
      attributes objects database id := by
  rw [attributes, Database.shipment_insertShipment, if_neg apart, Option.or_none, attributes]

/-- Loaded objects and pending outbox rows, with the tables under them, stand for plain
stores; no spare reference number is in use. -/
structure Mirrors (postgres : Postgres) (objects : List (Tracked ShipmentModel))
    (pending : List OutboxEventModel) (database : Database) (issued : UUID → Bool)
    (spare : List String) (memory : InMemory) : Prop where
  shipments : ∀ id, Option.Rel Shipment.Equal
    ((attributes objects database id).map ShipmentMapper.toDomain) (memory.shipments id)
  proper : ∀ id shipment, memory.shipments id = some shipment → shipment.Proper postgres
  current : ∀ tracked ∈ objects, tracked.current.id = tracked.key ∧
    tracked.current.referenceNumber ∉ spare
  loaded : ∀ tracked ∈ objects, ∃ row, database.shipment tracked.key = some row ∧
    Written postgres row tracked.loaded
  keys : (objects.map Tracked.key).Nodup
  stored : ∀ id row, database.shipment id = some row → row.Stored postgres
  references : ∀ row ∈ database.shipments, row.referenceNumber ∉ spare
  events : List.Forall₂ ShipmentEventModel.Records database.shipmentEvents memory.events
  accepts : database.Accepts pending
  issuedShipments : ∀ id, (database.shipment id).isSome → issued id = true
  issuedEvents : ∀ id, (database.event id).isSome → issued id = true
  issuedMessages : ∀ row ∈ database.outboxEvents ++ pending, issued row.id = true

namespace Mirrors

variable {postgres : Postgres} {objects : List (Tracked ShipmentModel)}
  {pending : List OutboxEventModel} {database : Database} {issued : UUID → Bool}
  {spare : List String} {memory : InMemory}

theorem untracked (mirrors : Mirrors postgres objects pending database issued spare memory)
    {id : UUID} (fresh : database.shipment id = none) :
    Table.lookup Tracked.key objects id = none := by
  rw [Table.lookup_eq_none_iff]
  intro member
  obtain ⟨tracked, present, rfl⟩ := List.mem_map.mp member
  obtain ⟨row, found, -⟩ := mirrors.loaded tracked present
  rw [fresh] at found
  cases found

/-- An identifier that has not been handed out is in no table. -/
theorem fresh (mirrors : Mirrors postgres objects pending database issued spare memory)
    {id : UUID} (unused : issued id = false) :
    database.shipment id = none ∧ database.event id = none ∧
      ∀ row ∈ database.outboxEvents ++ pending, row.id ≠ id := by
  refine ⟨?_, ?_, ?_⟩
  · rw [← Option.not_isSome_iff_eq_none]
    intro found
    simp [mirrors.issuedShipments id found] at unused
  · rw [← Option.not_isSome_iff_eq_none]
    intro found
    simp [mirrors.issuedEvents id found] at unused
  · rintro row member rfl
    simp [mirrors.issuedMessages row member] at unused

/-- A message is kept. -/
theorem addMessage (mirrors : Mirrors postgres objects pending database issued spare memory)
    (message : RecordedEventMessage) :
    Mirrors postgres objects pending database issued spare (memory.addMessage message) :=
  { mirrors with }

/-- More identifiers are handed out, and fewer reference numbers are spare. -/
theorem weaken (mirrors : Mirrors postgres objects pending database issued spare memory)
    {more : UUID → Bool} {fewer : List String} (grows : ∀ id, issued id = true → more id = true)
    (shrinks : ∀ reference ∈ fewer, reference ∈ spare) :
    Mirrors postgres objects pending database more fewer memory :=
  { mirrors with
    current := fun tracked member =>
      ⟨(mirrors.current tracked member).1,
        fun used => (mirrors.current tracked member).2 (shrinks _ used)⟩
    references := fun row member used => mirrors.references row member (shrinks _ used)
    issuedShipments := fun id found => grows id (mirrors.issuedShipments id found)
    issuedEvents := fun id found => grows id (mirrors.issuedEvents id found)
    issuedMessages := fun row member => grows row.id (mirrors.issuedMessages row member) }

/-- Whether an event is recorded. -/
theorem exists_iff (mirrors : Mirrors postgres objects pending database issued spare memory)
    (eventId : UUID) :
    ((database.event eventId).map ShipmentEventModel.eventId).isSome =
      memory.exists eventId := by
  have same : ∀ {rows : List ShipmentEventModel} {events : List ShipmentEvent},
      List.Forall₂ ShipmentEventModel.Records rows events →
      ((Table.lookup ShipmentEventModel.eventId rows eventId).map
        ShipmentEventModel.eventId).isSome =
        events.any fun event => event.eventId = eventId := by
    intro rows events all
    induction all with
    | nil => rfl
    | @cons row event rows events records rest inductionHypothesis =>
        by_cases hit : row.eventId = eventId
        · have other : event.eventId = eventId := records.eventId ▸ hit
          simp [Table.lookup, hit, other]
        · have other : event.eventId ≠ eventId := records.eventId ▸ hit
          simp only [Table.lookup, Option.isSome_map] at inductionHypothesis
          simpa [Table.lookup, hit, other] using inductionHypothesis
  exact same mirrors.events

/-! ## Steps -/

/-- The object of a shipment that is there: the one that is held, or else the row, loaded
again. -/
theorem object (mirrors : Mirrors postgres objects pending database issued spare memory)
    {id : UUID} {row : ShipmentModel} (found : database.shipment id = some row)
    {tracked : Tracked ShipmentModel}
    (same : tracked = (Table.lookup Tracked.key objects id).getD { loaded := row }) :
    tracked.key = id ∧ attributes objects database id = some tracked.current ∧
      tracked.current.id = id ∧ tracked.current.referenceNumber ∉ spare ∧
        Written postgres row tracked.loaded := by
  subst same
  cases held : Table.lookup Tracked.key objects id with
  | some tracked =>
      have own : tracked.key = id := Table.key_of_lookup held
      obtain ⟨current, unused⟩ := mirrors.current tracked (Table.mem_of_lookup held)
      obtain ⟨stored, there, written⟩ := mirrors.loaded tracked (Table.mem_of_lookup held)
      rw [own, found] at there
      cases there
      rw [attributes, held]
      exact ⟨own, rfl, current.trans own, unused, written⟩
  | none =>
      have own : row.id = id := Table.key_of_lookup found
      rw [attributes, held, found]
      exact ⟨own, rfl, own, mirrors.references row (Table.mem_of_lookup found),
        written_self (mirrors.stored id row found)⟩

/-- A shipment is created. -/
theorem insertShipment {shipment : Shipment}
    (mirrors : Mirrors postgres objects pending database issued
      (shipment.referenceNumber :: spare) memory)
    (distinct : shipment.referenceNumber ∉ spare) (proper : shipment.Proper postgres)
    (fresh : database.shipment shipment.id = none) (known : issued shipment.id = true) :
    Mirrors postgres objects pending
      (database.write (.insertShipment
        (postgres.shipmentRow (ShipmentMapper.toModel shipment)))) issued spare
      (memory.saveShipment shipment) := by
  have absent := mirrors.untracked fresh
  have spared : ∀ other, other ∉ shipment.referenceNumber :: spare → other ∉ spare :=
    fun other unused used => unused (List.mem_cons_of_mem _ used)
  exact
    { mirrors with
      shipments := by
        intro id
        by_cases same : shipment.id = id
        · subst same
          rw [attributes, absent, Database.shipment_insertShipment, fresh, if_pos (by rfl),
            InMemory.saveShipment_self]
          exact .some ((written_shipmentRow _).equal (Shipment.Equal.refl shipment) proper)
        · rw [attributes_insertShipment (by exact same), InMemory.saveShipment_of_ne same]
          exact mirrors.shipments id
      proper := by
        intro id other found
        by_cases same : shipment.id = id
        · subst same
          rw [InMemory.saveShipment_self] at found
          cases found
          exact proper
        · rw [InMemory.saveShipment_of_ne same] at found
          exact mirrors.proper id other found
      current := by
        intro tracked member
        obtain ⟨own, unused⟩ := mirrors.current tracked member
        exact ⟨own, spared _ unused⟩
      loaded := by
        intro tracked member
        obtain ⟨row, found, written⟩ := mirrors.loaded tracked member
        refine ⟨row, ?_, written⟩
        rw [Database.shipment_insertShipment, found]
        rfl
      stored := by
        intro id row found
        rw [Database.shipment_insertShipment] at found
        rcases Option.or_eq_some_iff.mp found with earlier | ⟨-, inserted⟩
        · exact mirrors.stored id row earlier
        · split at inserted
          · cases inserted
            exact ShipmentModel.stored_shipmentRow _
          · cases inserted
      references := by
        intro row member
        rcases List.mem_append.mp member with earlier | last
        · exact spared _ (mirrors.references row earlier)
        · rw [List.mem_singleton.mp last]
          exact distinct
      accepts := ⟨mirrors.accepts.ids, mirrors.accepts.eventIds, mirrors.accepts.recorded⟩
      issuedShipments := by
        intro id found
        rw [Database.shipment_insertShipment] at found
        by_cases same : shipment.id = id
        · exact same ▸ known
        · change ((database.shipment id).or (if shipment.id = id then _ else _)).isSome = _ at found
          rw [if_neg same, Option.or_none] at found
          exact mirrors.issuedShipments id found }

/-- An event is recorded, and the row that announces it is pending. -/
theorem record (mirrors : Mirrors postgres objects pending database issued spare memory)
    {event : ShipmentEvent} {row : OutboxEventModel} (typed : event.WellTyped)
    (fresh : database.event event.eventId = none) (known : issued event.eventId = true)
    (announces : row.eventId = event.eventId)
    (freshMessage : ∀ other ∈ database.outboxEvents ++ pending, other.id ≠ row.id)
    (knownMessage : issued row.id = true) :
    Mirrors postgres objects (pending ++ [row])
      (database.write (.insertEvent (postgres.eventRow (EventMapper.toModel event)))) issued
      spare (memory.saveEvent event) := by
  have unannounced : ∀ other ∈ database.outboxEvents ++ pending,
      other.eventId ≠ row.eventId := by
    intro other member same
    have recorded := mirrors.accepts.recorded other member
    rw [same, announces, fresh] at recorded
    cases recorded
  have apart : ∀ {key : OutboxEventModel → UUID},
      ((database.outboxEvents ++ pending).map key).Nodup →
      (∀ other ∈ database.outboxEvents ++ pending, key other ≠ key row) →
      ((database.outboxEvents ++ (pending ++ [row])).map key).Nodup := by
    intro key distinct others
    rw [← List.append_assoc, List.map_append, List.nodup_append]
    refine ⟨distinct, List.nodup_singleton _, ?_⟩
    intro one present two last same
    obtain ⟨other, member, rfl⟩ := List.mem_map.mp present
    exact others other member (same.trans (List.mem_singleton.mp last))
  exact
    { mirrors with
      events := List.rel_append mirrors.events (.cons typed.records .nil)
      accepts :=
        { ids := apart mirrors.accepts.ids freshMessage
          eventIds := apart mirrors.accepts.eventIds unannounced
          recorded := by
            intro other member
            rw [Database.event_insertEvent]
            rcases List.mem_append.mp (List.append_assoc _ _ _ ▸ member) with earlier | last
            · obtain ⟨found, seen⟩ :=
                Option.isSome_iff_exists.mp (mirrors.accepts.recorded other earlier)
              rw [seen]
              rfl
            · rw [List.mem_singleton.mp last, announces, fresh]
              simp [Postgres.eventRow, EventMapper.toModel] }
      issuedEvents := by
        intro id found
        rw [Database.event_insertEvent] at found
        by_cases same : event.eventId = id
        · exact same ▸ known
        · change ((database.event id).or (if event.eventId = id then _ else _)).isSome = _ at found
          rw [if_neg same, Option.or_none] at found
          exact mirrors.issuedEvents id found
      issuedMessages := by
        intro other member
        rcases List.mem_append.mp (List.append_assoc _ _ _ ▸ member) with earlier | last
        · exact mirrors.issuedMessages other earlier
        · rw [List.mem_singleton.mp last]
          exact knownMessage }

/-- The object of a shipment is assigned the attributes of an equal one. -/
theorem assign (mirrors : Mirrors postgres objects pending database issued spare memory)
    {one two : Shipment} {tracked : Tracked ShipmentModel} {row : ShipmentModel}
    (own : tracked.key = one.id) (there : database.shipment one.id = some row)
    (written : Written postgres row tracked.loaded) (equal : one.Equal two)
    (proper : two.Proper postgres) (unused : one.referenceNumber ∉ spare) :
    Mirrors postgres
      ({ tracked with assigned := some (ShipmentMapper.toModel one) } ::
        objects.filter fun other => other.loaded.id ≠ tracked.loaded.id)
      pending database issued spare (memory.saveShipment two) := by
  exact
    { mirrors with
      shipments := by
        intro id
        rw [attributes_cons]
        by_cases same : tracked.key = id
        · subst same
          rw [if_pos (by rfl), own, equal.id, InMemory.saveShipment_self]
          exact .some equal
        · have apart : two.id ≠ id := fun equality =>
            same (own.trans (equal.id.trans equality))
          rw [if_neg (by exact same), attributes, Table.lookup_filter_ne,
            if_neg (Ne.symm same), InMemory.saveShipment_of_ne apart]
          exact mirrors.shipments id
      proper := by
        intro id other held
        by_cases same : two.id = id
        · subst same
          rw [InMemory.saveShipment_self] at held
          cases held
          exact proper
        · rw [InMemory.saveShipment_of_ne same] at held
          exact mirrors.proper id other held
      current := by
        intro other member
        rcases List.mem_cons.mp member with rfl | earlier
        · exact ⟨own.symm, unused⟩
        · exact mirrors.current other (List.mem_of_mem_filter earlier)
      loaded := by
        intro other member
        rcases List.mem_cons.mp member with rfl | earlier
        · exact ⟨row, own ▸ there, written⟩
        · exact mirrors.loaded other (List.mem_of_mem_filter earlier)
      keys := by
        rw [List.map_cons, List.nodup_cons]
        refine ⟨?_, (List.filter_sublist.map Tracked.key).nodup mirrors.keys⟩
        intro again
        obtain ⟨other, member, same⟩ := List.mem_map.mp again
        exact absurd same (by simpa using (List.mem_filter.mp member).2) }

/-! ## The unit of work -/

/-- Pending rows are enqueued. -/
theorem enqueue (pending : List OutboxEventModel) : ∀ {database : Database},
    Mirrors postgres objects pending database issued spare memory →
    Mirrors postgres objects []
      (database.writeAll
        (pending.map fun row => .insertOutbox (postgres.outboxRow row))) issued spare
      memory := by
  induction pending with
  | nil => exact fun mirrors => mirrors
  | cons row rows inductionHypothesis =>
      intro database mirrors
      refine inductionHypothesis ?_
      exact
        { mirrors with
          accepts := mirrors.accepts.insertOutbox
          issuedMessages := by
            intro other member
            have known := mirrors.issuedMessages
            simp only [List.mem_append, List.mem_cons] at known
            simp only [Database.write, List.mem_append, List.mem_singleton] at member
            rcases member with (earlier | rfl) | later
            · exact known other (.inl earlier)
            · exact known row (.inr (.inl rfl))
            · exact known other (.inr (.inr later)) }

/-- The row of a loaded object after its update holds the object's attributes. -/
theorem written_update {row : ShipmentModel} {tracked : Tracked ShipmentModel}
    (written : Written postgres row tracked.loaded) (same : tracked.current.id = tracked.key) :
    Written postgres ((postgres.shipmentPatch tracked.patch).applyTo row) tracked.current := by
  obtain ⟨loaded, assigned⟩ := tracked
  cases assigned with
  | none => exact written
  | some current => exact written.patch same.symm

/-- An update writes no reference number but the object's. -/
theorem referenceNumber_update (tracked : Tracked ShipmentModel) (row : ShipmentModel) :
    ((postgres.shipmentPatch tracked.patch).applyTo row).referenceNumber =
        row.referenceNumber ∨
      ((postgres.shipmentPatch tracked.patch).applyTo row).referenceNumber =
        tracked.current.referenceNumber := by
  obtain ⟨loaded, assigned⟩ := tracked
  cases assigned with
  | none => exact .inl rfl
  | some current =>
      by_cases same : loaded.referenceNumber = current.referenceNumber
      · left
        simp [Tracked.patch, ShipmentPatch.between, changedColumn, same, Postgres.shipmentPatch,
          ShipmentPatch.applyTo]
      · right
        simp [Tracked.patch, Tracked.current, ShipmentPatch.between, changedColumn, same,
          Postgres.shipmentPatch, ShipmentPatch.applyTo]

/-- A loaded object is flushed and forgotten. -/
theorem settle {tracked : Tracked ShipmentModel}
    (mirrors : Mirrors postgres (tracked :: objects) [] database issued spare memory) :
    Mirrors postgres objects []
      (database.write (.updateShipment tracked.key (postgres.shipmentPatch tracked.patch)))
      issued spare memory := by
  obtain ⟨row, found, written⟩ := mirrors.loaded tracked List.mem_cons_self
  obtain ⟨same, unused⟩ := mirrors.current tracked List.mem_cons_self
  obtain ⟨absent, keys⟩ := List.nodup_cons.mp (List.map_cons ▸ mirrors.keys)
  have updated := written_update written same
  exact
    { mirrors with
      shipments := by
        intro id
        have seen := mirrors.shipments id
        rw [attributes_cons] at seen
        rw [attributes, Database.shipment_updateShipment]
        by_cases own : id = tracked.key
        · subst own
          rw [if_pos rfl] at seen ⊢
          rw [Table.lookup_eq_none_iff.mpr absent, found]
          cases held : memory.shipments tracked.key with
          | none =>
              rw [held] at seen
              cases seen
          | some shipment =>
              rw [held] at seen
              cases seen with
              | some equal => exact .some (updated.equal equal (mirrors.proper _ _ held))
        · rw [if_neg (Ne.symm own)] at seen
          rw [if_neg own]
          exact seen
      current := fun other member => mirrors.current other (List.mem_cons_of_mem _ member)
      loaded := by
        intro other member
        obtain ⟨stored, there, holds⟩ := mirrors.loaded other (List.mem_cons_of_mem _ member)
        have apart : other.key ≠ tracked.key := fun equality =>
          absent (equality ▸ List.mem_map_of_mem member)
        refine ⟨stored, ?_, holds⟩
        rw [Database.shipment_updateShipment, if_neg apart]
        exact there
      keys := keys
      stored := by
        intro id other there
        rw [Database.shipment_updateShipment] at there
        split at there
        · obtain ⟨before, earlier, rfl⟩ := Option.map_eq_some_iff.mp there
          exact (mirrors.stored id before earlier).applyTo _
        · exact mirrors.stored id other there
      references := by
        intro other member
        obtain ⟨before, earlier, rfl⟩ := Table.mem_modify_iff.mp member
        split
        · rcases referenceNumber_update tracked before with kept | moved
          · rw [kept]
            exact mirrors.references before earlier
          · rw [moved]
            exact unused
        · exact mirrors.references before earlier
      accepts := ⟨mirrors.accepts.ids, mirrors.accepts.eventIds, mirrors.accepts.recorded⟩
      issuedShipments := by
        intro id there
        rw [Database.shipment_updateShipment] at there
        refine mirrors.issuedShipments id ?_
        split at there
        · rwa [Option.isSome_map] at there
        · exact there }

/-- The loaded objects are flushed and forgotten. -/
theorem settleAll (objects : List (Tracked ShipmentModel)) : ∀ {database : Database},
    Mirrors postgres objects [] database issued spare memory →
    Mirrors postgres [] [] (database.writeAll (objects.flatMap (Tracked.writes postgres)))
      issued spare memory := by
  induction objects with
  | nil => exact fun mirrors => mirrors
  | cons tracked objects inductionHypothesis =>
      intro database mirrors
      rw [List.flatMap_cons, Database.writeAll_append, tracked.writeAll_writes]
      exact inductionHypothesis mirrors.settle

/-- A flush leaves everything to the tables. -/
theorem flush (mirrors : Mirrors postgres objects pending database issued spare memory) :
    Mirrors postgres [] []
      (database.writeAll ((pending.map fun row => .insertOutbox (postgres.outboxRow row)) ++
        objects.flatMap (Tracked.writes postgres))) issued spare memory := by
  rw [Database.writeAll_append]
  exact (mirrors.enqueue pending).settleAll objects

end Mirrors

end Freight
