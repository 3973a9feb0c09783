/-
Module: Freight.Database.Models
Purpose: The three tables, the mappers between rows and domain objects, and the
  writes a transaction can make to them.
Trusted boundary: none
Main exports:
  ShipmentModel, ShipmentEventModel, OutboxEventModel, ShipmentMapper,
  EventMapper, ShipmentPatch, OutboxPatch, Database, Write, Postgres
-/
import Freight.Domain.Shipment
import Freight.Relational.Table

namespace Freight

/-! ## Rows -/

/-- A row of `shipments`. -/
structure ShipmentModel where
  id : UUID
  referenceNumber : String
  origin : String
  destination : String
  carrier : String
  status : ShipmentStatus
  createdAt : DateTime
  updatedAt : DateTime
  currentLatitude : Json
  currentLongitude : Json
  lastLocationAt : Option DateTime
  lastLifecycleAt : Option DateTime
deriving DecidableEq, Repr

/-- A row of `shipment_events`. -/
structure ShipmentEventModel where
  eventId : UUID
  shipmentId : UUID
  eventType : ShipmentEventType
  source : Json
  occurredAt : DateTime
  receivedAt : DateTime
  payload : Json
  processingStatus : ShipmentEventProcessingStatus
deriving DecidableEq, Repr

/-- A row of `outbox_events`. -/
structure OutboxEventModel where
  id : UUID
  eventId : UUID
  shipmentId : UUID
  messageType : String
  payload : Json
  createdAt : DateTime
  publishedAt : Option DateTime := none
  attempts : Nat := 0
  nextAttemptAt : DateTime
  lastError : Option String := none
  correlationId : Option String
deriving DecidableEq, Repr

namespace ShipmentMapper

/-- `shipment_mapper.to_domain`. -/
def toDomain (model : ShipmentModel) : Shipment where
  id := model.id
  referenceNumber := model.referenceNumber
  origin := model.origin
  destination := model.destination
  carrier := model.carrier
  status := model.status
  createdAt := model.createdAt
  updatedAt := model.updatedAt
  currentLatitude := model.currentLatitude
  currentLongitude := model.currentLongitude
  lastLocationAt := model.lastLocationAt
  lastLifecycleAt := model.lastLifecycleAt

/-- `shipment_mapper.to_model`. -/
def toModel (shipment : Shipment) : ShipmentModel where
  id := shipment.id
  referenceNumber := shipment.referenceNumber
  origin := shipment.origin
  destination := shipment.destination
  carrier := shipment.carrier
  status := shipment.status
  createdAt := shipment.createdAt
  updatedAt := shipment.updatedAt
  currentLatitude := shipment.currentLatitude
  currentLongitude := shipment.currentLongitude
  lastLocationAt := shipment.lastLocationAt
  lastLifecycleAt := shipment.lastLifecycleAt

@[simp] theorem toModel_toDomain (model : ShipmentModel) :
    toModel (toDomain model) = model := rfl

@[simp] theorem toDomain_toModel (shipment : Shipment) :
    toDomain (toModel shipment) = shipment := rfl

end ShipmentMapper

namespace EventMapper

/-- `event_mapper.to_domain`. -/
def toDomain (model : ShipmentEventModel) : ShipmentEvent where
  eventId := model.eventId
  shipmentId := model.shipmentId
  eventType := model.eventType
  source := model.source
  occurredAt := model.occurredAt
  receivedAt := model.receivedAt
  payload := .json model.payload
  processingStatus := model.processingStatus

/-- `event_mapper.to_model`. -/
def toModel (event : ShipmentEvent) : ShipmentEventModel where
  eventId := event.eventId
  shipmentId := event.shipmentId
  eventType := event.eventType
  source := event.source
  occurredAt := event.occurredAt
  receivedAt := event.receivedAt
  payload := event.payload.plain
  processingStatus := event.processingStatus

end EventMapper

/-! ## Updates

The unit of work writes the columns whose value differs, in Python's sense, from
the one that was loaded; a column it leaves out keeps whatever the row holds. -/

/-- The new value of a column, or nothing when it did not change. -/
def changedColumn {α : Type} (same : α → α → Bool) (loaded current : α) : Option α :=
  if same loaded current then none else some current

/-- Python's `==` on an optional datetime. -/
def optionalDateTimeEq : Option DateTime → Option DateTime → Bool
  | none, none => true
  | some left, some right => left.eq right
  | _, _ => false

theorem optionalDateTimeEq_refl (clock : Option DateTime) :
    optionalDateTimeEq clock clock = true := by
  cases clock with
  | none => rfl
  | some clock => exact DateTime.eq_refl clock

/-- The `SET` list of an `UPDATE shipments`. -/
structure ShipmentPatch where
  referenceNumber : Option String := none
  origin : Option String := none
  destination : Option String := none
  carrier : Option String := none
  status : Option ShipmentStatus := none
  createdAt : Option DateTime := none
  updatedAt : Option DateTime := none
  currentLatitude : Option Json := none
  currentLongitude : Option Json := none
  lastLocationAt : Option (Option DateTime) := none
  lastLifecycleAt : Option (Option DateTime) := none
deriving DecidableEq, Repr

namespace ShipmentPatch

/-- The columns in which the attributes of a loaded object were changed. -/
def between (loaded current : ShipmentModel) : ShipmentPatch where
  referenceNumber := changedColumn (· == ·) loaded.referenceNumber current.referenceNumber
  origin := changedColumn (· == ·) loaded.origin current.origin
  destination := changedColumn (· == ·) loaded.destination current.destination
  carrier := changedColumn (· == ·) loaded.carrier current.carrier
  status := changedColumn (· == ·) loaded.status current.status
  createdAt := changedColumn DateTime.eq loaded.createdAt current.createdAt
  updatedAt := changedColumn DateTime.eq loaded.updatedAt current.updatedAt
  currentLatitude :=
    changedColumn Json.eq loaded.currentLatitude current.currentLatitude
  currentLongitude :=
    changedColumn Json.eq loaded.currentLongitude current.currentLongitude
  lastLocationAt :=
    changedColumn optionalDateTimeEq loaded.lastLocationAt current.lastLocationAt
  lastLifecycleAt :=
    changedColumn optionalDateTimeEq loaded.lastLifecycleAt current.lastLifecycleAt

/-- The row after the update. -/
def applyTo (patch : ShipmentPatch) (row : ShipmentModel) : ShipmentModel where
  id := row.id
  referenceNumber := patch.referenceNumber.getD row.referenceNumber
  origin := patch.origin.getD row.origin
  destination := patch.destination.getD row.destination
  carrier := patch.carrier.getD row.carrier
  status := patch.status.getD row.status
  createdAt := patch.createdAt.getD row.createdAt
  updatedAt := patch.updatedAt.getD row.updatedAt
  currentLatitude := patch.currentLatitude.getD row.currentLatitude
  currentLongitude := patch.currentLongitude.getD row.currentLongitude
  lastLocationAt := patch.lastLocationAt.getD row.lastLocationAt
  lastLifecycleAt := patch.lastLifecycleAt.getD row.lastLifecycleAt

@[simp] theorem applyTo_id (patch : ShipmentPatch) (row : ShipmentModel) :
    (patch.applyTo row).id = row.id := rfl

end ShipmentPatch

/-- The `SET` list of an `UPDATE outbox_events`: the columns the relay
changes. -/
structure OutboxPatch where
  publishedAt : Option (Option DateTime) := none
  attempts : Option Nat := none
  nextAttemptAt : Option DateTime := none
  lastError : Option (Option String) := none
deriving DecidableEq, Repr

namespace OutboxPatch

/-- The columns in which the attributes of a claimed row were changed. -/
def between (loaded current : OutboxEventModel) : OutboxPatch where
  publishedAt := changedColumn optionalDateTimeEq loaded.publishedAt current.publishedAt
  attempts := changedColumn (· == ·) loaded.attempts current.attempts
  nextAttemptAt := changedColumn DateTime.eq loaded.nextAttemptAt current.nextAttemptAt
  lastError := changedColumn (· == ·) loaded.lastError current.lastError

/-- The row after the update. -/
def applyTo (patch : OutboxPatch) (row : OutboxEventModel) : OutboxEventModel :=
  { row with
    publishedAt := patch.publishedAt.getD row.publishedAt
    attempts := patch.attempts.getD row.attempts
    nextAttemptAt := patch.nextAttemptAt.getD row.nextAttemptAt
    lastError := patch.lastError.getD row.lastError }

@[simp] theorem applyTo_id (patch : OutboxPatch) (row : OutboxEventModel) :
    (patch.applyTo row).id = row.id := rfl

end OutboxPatch

/-- The columns that the relay leaves alone: the row as it was when enqueued. -/
def OutboxEventModel.snapshot (row : OutboxEventModel) : OutboxEventModel :=
  { row with
    publishedAt := none
    attempts := 0
    nextAttemptAt := row.createdAt
    lastError := none }

@[simp] theorem OutboxPatch.applyTo_snapshot (patch : OutboxPatch) (row : OutboxEventModel) :
    (patch.applyTo row).snapshot = row.snapshot := rfl

/-! ## The committed tables -/

structure Database where
  shipments : List ShipmentModel := []
  shipmentEvents : List ShipmentEventModel := []
  outboxEvents : List OutboxEventModel := []
deriving DecidableEq, Repr

/-- One statement's effect on the tables. -/
inductive Write where
  | insertShipment (row : ShipmentModel)
  | insertEvent (row : ShipmentEventModel)
  | insertOutbox (row : OutboxEventModel)
  | updateShipment (id : UUID) (patch : ShipmentPatch)
  | updateOutbox (id : UUID) (patch : OutboxPatch)
deriving DecidableEq, Repr

namespace Database

/-- The shipment with an id. -/
def shipment (database : Database) (id : UUID) : Option ShipmentModel :=
  Table.lookup ShipmentModel.id database.shipments id

/-- The recorded event with an id. -/
def event (database : Database) (eventId : UUID) : Option ShipmentEventModel :=
  Table.lookup ShipmentEventModel.eventId database.shipmentEvents eventId

/-- The outbox row with an id. -/
def outbox (database : Database) (id : UUID) : Option OutboxEventModel :=
  Table.lookup OutboxEventModel.id database.outboxEvents id

/-- Perform one write. -/
def write (database : Database) : Write → Database
  | .insertShipment row => { database with shipments := database.shipments ++ [row] }
  | .insertEvent row =>
      { database with shipmentEvents := database.shipmentEvents ++ [row] }
  | .insertOutbox row => { database with outboxEvents := database.outboxEvents ++ [row] }
  | .updateShipment id patch =>
      { database with
        shipments := Table.modify ShipmentModel.id database.shipments id patch.applyTo }
  | .updateOutbox id patch =>
      { database with
        outboxEvents :=
          Table.modify OutboxEventModel.id database.outboxEvents id patch.applyTo }

/-- Perform the writes of a transaction, in order. -/
def writeAll (database : Database) (writes : List Write) : Database :=
  writes.foldl write database

@[simp] theorem writeAll_nil (database : Database) : database.writeAll [] = database := rfl

@[simp] theorem writeAll_cons (database : Database) (first : Write) (rest : List Write) :
    database.writeAll (first :: rest) = (database.write first).writeAll rest := rfl

theorem writeAll_append (database : Database) (first second : List Write) :
    database.writeAll (first ++ second) = (database.writeAll first).writeAll second :=
  List.foldl_append

/-! ### Keys and references -/

/-- Every outbox row refers to a recorded event. -/
def References (database : Database) : Prop :=
  ∀ row ∈ database.outboxEvents, (database.event row.eventId).isSome

/-- The primary keys of `outbox_events`. -/
def outboxKeys (database : Database) : List UUID :=
  database.outboxEvents.map OutboxEventModel.id

theorem outbox_eq_none_iff {database : Database} {id : UUID} :
    database.outbox id = none ↔ id ∉ database.outboxKeys :=
  Table.lookup_eq_none_iff

/-- In a table with a primary key, a row is the one found under its key. -/
theorem outbox_of_mem {database : Database} {row : OutboxEventModel}
    (keyed : database.outboxKeys.Nodup) (member : row ∈ database.outboxEvents) :
    database.outbox row.id = some row :=
  Table.lookup_of_mem keyed member

@[simp] theorem outboxKeys_insertShipment (database : Database) (row : ShipmentModel) :
    (database.write (.insertShipment row)).outboxKeys = database.outboxKeys := rfl

@[simp] theorem outboxKeys_updateShipment (database : Database) (target : UUID)
    (patch : ShipmentPatch) :
    (database.write (.updateShipment target patch)).outboxKeys = database.outboxKeys := rfl

@[simp] theorem outboxKeys_insertEvent (database : Database) (row : ShipmentEventModel) :
    (database.write (.insertEvent row)).outboxKeys = database.outboxKeys := rfl

@[simp] theorem outboxKeys_insertOutbox (database : Database) (row : OutboxEventModel) :
    (database.write (.insertOutbox row)).outboxKeys = database.outboxKeys ++ [row.id] := by
  simp [outboxKeys, write]

@[simp] theorem outboxKeys_updateOutbox (database : Database) (target : UUID)
    (patch : OutboxPatch) :
    (database.write (.updateOutbox target patch)).outboxKeys = database.outboxKeys :=
  Table.keys_modify patch.applyTo_id

/-! ### Lookups after a write -/

section Lookups

variable (database : Database) (id : UUID)

@[simp] theorem shipment_insertShipment (row : ShipmentModel) :
    (database.write (.insertShipment row)).shipment id =
      (database.shipment id).or (if row.id = id then some row else none) := by
  simp only [shipment, write, Table.lookup_append, Table.lookup_singleton]

@[simp] theorem shipment_updateShipment (target : UUID) (patch : ShipmentPatch) :
    (database.write (.updateShipment target patch)).shipment id =
      if id = target then (database.shipment id).map patch.applyTo
      else database.shipment id := by
  simp only [shipment, write]
  rw [Table.lookup_modify patch.applyTo_id]

@[simp] theorem shipment_insertEvent (row : ShipmentEventModel) :
    (database.write (.insertEvent row)).shipment id = database.shipment id := rfl

@[simp] theorem shipment_insertOutbox (row : OutboxEventModel) :
    (database.write (.insertOutbox row)).shipment id = database.shipment id := rfl

@[simp] theorem shipment_updateOutbox (target : UUID) (patch : OutboxPatch) :
    (database.write (.updateOutbox target patch)).shipment id = database.shipment id := rfl

@[simp] theorem event_insertEvent (row : ShipmentEventModel) :
    (database.write (.insertEvent row)).event id =
      (database.event id).or (if row.eventId = id then some row else none) := by
  simp only [event, write, Table.lookup_append, Table.lookup_singleton]

@[simp] theorem event_insertShipment (row : ShipmentModel) :
    (database.write (.insertShipment row)).event id = database.event id := rfl

@[simp] theorem event_updateShipment (target : UUID) (patch : ShipmentPatch) :
    (database.write (.updateShipment target patch)).event id = database.event id := rfl

@[simp] theorem event_insertOutbox (row : OutboxEventModel) :
    (database.write (.insertOutbox row)).event id = database.event id := rfl

@[simp] theorem event_updateOutbox (target : UUID) (patch : OutboxPatch) :
    (database.write (.updateOutbox target patch)).event id = database.event id := rfl

@[simp] theorem outbox_insertOutbox (row : OutboxEventModel) :
    (database.write (.insertOutbox row)).outbox id =
      (database.outbox id).or (if row.id = id then some row else none) := by
  simp only [outbox, write, Table.lookup_append, Table.lookup_singleton]

@[simp] theorem outbox_updateOutbox (target : UUID) (patch : OutboxPatch) :
    (database.write (.updateOutbox target patch)).outbox id =
      if id = target then (database.outbox id).map patch.applyTo
      else database.outbox id := by
  simp only [outbox, write]
  rw [Table.lookup_modify patch.applyTo_id]

@[simp] theorem outbox_insertShipment (row : ShipmentModel) :
    (database.write (.insertShipment row)).outbox id = database.outbox id := rfl

@[simp] theorem outbox_updateShipment (target : UUID) (patch : ShipmentPatch) :
    (database.write (.updateShipment target patch)).outbox id = database.outbox id := rfl

@[simp] theorem outbox_insertEvent (row : ShipmentEventModel) :
    (database.write (.insertEvent row)).outbox id = database.outbox id := rfl

end Lookups

/-! ### What no write takes away -/

section Persistence

variable {database : Database} {id : UUID}

/-- A recorded event stays as it was recorded. -/
theorem event_write_of_some {row : ShipmentEventModel}
    (found : database.event id = some row) (write : Write) :
    (database.write write).event id = some row := by
  cases write with
  | insertEvent inserted => simp [found]
  | _ => exact found

/-- A shipment never disappears. -/
theorem shipment_write_isSome (found : (database.shipment id).isSome) (write : Write) :
    ((database.write write).shipment id).isSome := by
  obtain ⟨row, found⟩ := Option.isSome_iff_exists.mp found
  cases write with
  | insertShipment inserted => simp [found]
  | updateShipment target patch =>
      by_cases same : id = target
      · subst same
        simp [found]
      · simp [found, same]
  | _ => simp [found]

/-- An outbox row never disappears, and only the relay's columns change. -/
theorem outbox_write_of_some {row : OutboxEventModel}
    (found : database.outbox id = some row) (write : Write) :
    ∃ after, (database.write write).outbox id = some after ∧
      after.snapshot = row.snapshot := by
  cases write with
  | insertOutbox inserted => exact ⟨row, by simp [found], rfl⟩
  | updateOutbox target patch =>
      by_cases same : id = target
      · subst same
        exact ⟨patch.applyTo row, by simp [found], rfl⟩
      · exact ⟨row, by simp [found, same], rfl⟩
  | _ => exact ⟨row, found, rfl⟩

theorem event_writeAll_of_some {row : ShipmentEventModel} (writes : List Write) :
    ∀ {database : Database}, database.event id = some row →
      (database.writeAll writes).event id = some row := by
  induction writes with
  | nil => exact fun found => found
  | cons write writes inductionHypothesis =>
      exact fun found => inductionHypothesis (event_write_of_some found write)

theorem shipment_writeAll_isSome (writes : List Write) :
    ∀ {database : Database}, (database.shipment id).isSome →
      ((database.writeAll writes).shipment id).isSome := by
  induction writes with
  | nil => exact fun found => found
  | cons write writes inductionHypothesis =>
      exact fun found => inductionHypothesis (shipment_write_isSome found write)

theorem outbox_writeAll_of_some (writes : List Write) :
    ∀ {database : Database} {row : OutboxEventModel}, database.outbox id = some row →
      ∃ after, (database.writeAll writes).outbox id = some after ∧
        after.snapshot = row.snapshot := by
  induction writes with
  | nil => exact fun {_ row} found => ⟨row, found, rfl⟩
  | cons write writes inductionHypothesis =>
      intro database row found
      obtain ⟨next, foundNext, sameNext⟩ := outbox_write_of_some found write
      obtain ⟨after, foundAfter, sameAfter⟩ := inductionHypothesis foundNext
      exact ⟨after, foundAfter, sameAfter.trans sameNext⟩

end Persistence

/-- A write keeps the references, when it inserts an outbox row only for an event
that is there. -/
theorem References.write {database : Database} (kept : database.References) (write : Write)
    (parent : ∀ row, write = .insertOutbox row → (database.event row.eventId).isSome) :
    (database.write write).References := by
  have recorded : ∀ eventId, (database.event eventId).isSome →
      ((database.write write).event eventId).isSome := by
    intro eventId found
    obtain ⟨row, found⟩ := Option.isSome_iff_exists.mp found
    exact Option.isSome_iff_exists.mpr ⟨row, event_write_of_some found write⟩
  intro row member
  cases write with
  | insertOutbox inserted =>
      rcases List.mem_append.mp member with earlier | last
      · exact recorded _ (kept row earlier)
      · cases List.mem_singleton.mp last
        exact recorded _ (parent _ rfl)
  | updateOutbox target patch =>
      obtain ⟨before, earlier, rfl⟩ := Table.mem_modify_iff.mp member
      have same : (if before.id = target then patch.applyTo before else before).eventId =
          before.eventId := by
        split <;> rfl
      rw [same]
      exact recorded _ (kept before earlier)
  | _ => exact recorded _ (kept row member)

/-- A transaction sees the events it has inserted. -/
theorem event_writeAll_of_inserted {row : ShipmentEventModel} {writes : List Write}
    (inserted : Write.insertEvent row ∈ writes) :
    ∀ {database : Database}, ((database.writeAll writes).event row.eventId).isSome := by
  induction writes with
  | nil => cases inserted
  | cons write writes inductionHypothesis =>
      intro database
      rcases List.mem_cons.mp inserted with rfl | later
      · have seen : ((database.write (.insertEvent row)).event row.eventId).isSome := by
          cases found : database.event row.eventId <;> simp [found]
        obtain ⟨recorded, found⟩ := Option.isSome_iff_exists.mp seen
        exact Option.isSome_iff_exists.mpr ⟨recorded, event_writeAll_of_some writes found⟩
      · exact inductionHypothesis later

/-- Where an outbox row comes from. -/
theorem mem_outboxEvents_writeAll {row : OutboxEventModel} {writes : List Write} :
    ∀ {database : Database}, row ∈ (database.writeAll writes).outboxEvents →
      (∃ inserted, Write.insertOutbox inserted ∈ writes ∧ inserted.snapshot = row.snapshot) ∨
        ∃ before ∈ database.outboxEvents, before.snapshot = row.snapshot := by
  induction writes with
  | nil => exact fun member => .inr ⟨row, member, rfl⟩
  | cons write writes inductionHypothesis =>
      intro database member
      rcases inductionHypothesis member with ⟨inserted, later, same⟩ | ⟨middle, earlier, same⟩
      · exact .inl ⟨inserted, List.mem_cons_of_mem _ later, same⟩
      · cases write with
        | insertOutbox inserted =>
            rcases List.mem_append.mp earlier with before | last
            · exact .inr ⟨middle, before, same⟩
            · cases List.mem_singleton.mp last
              exact .inl ⟨middle, List.mem_cons_self, same⟩
        | updateOutbox target patch =>
            obtain ⟨before, present, rfl⟩ := Table.mem_modify_iff.mp earlier
            refine .inr ⟨before, present, ?_⟩
            rw [← same]
            split <;> rfl
        | _ => exact .inr ⟨middle, earlier, same⟩

/-- An outbox row stays in the table with what was written when it was enqueued. -/
theorem exists_snapshot_writeAll {row : OutboxEventModel} (writes : List Write) :
    ∀ {database : Database}, row ∈ database.outboxEvents →
      ∃ after ∈ (database.writeAll writes).outboxEvents, after.snapshot = row.snapshot := by
  induction writes generalizing row with
  | nil => exact fun {_} present => ⟨row, present, rfl⟩
  | cons write writes inductionHypothesis =>
      intro database present
      obtain ⟨next, there, same⟩ : ∃ next ∈ (database.write write).outboxEvents,
          next.snapshot = row.snapshot := by
        cases write with
        | insertOutbox inserted => exact ⟨row, List.mem_append_left _ present, rfl⟩
        | updateOutbox target patch =>
            refine ⟨_, Table.mem_modify_iff.mpr ⟨row, present, rfl⟩, ?_⟩
            split <;> rfl
        | _ => exact ⟨row, present, rfl⟩
      obtain ⟨after, member, kept⟩ := inductionHypothesis there
      exact ⟨after, member, kept.trans same⟩

/-- A transaction that enqueues a row leaves it in the table. -/
theorem exists_snapshot_of_insertOutbox {row : OutboxEventModel} {writes : List Write}
    (inserted : Write.insertOutbox row ∈ writes) :
    ∀ {database : Database}, ∃ after ∈ (database.writeAll writes).outboxEvents,
      after.snapshot = row.snapshot := by
  induction writes with
  | nil => cases inserted
  | cons write writes inductionHypothesis =>
      intro database
      rcases List.mem_cons.mp inserted with rfl | later
      · exact exists_snapshot_writeAll writes
          (List.mem_append_right _ (List.mem_singleton_self row))
      · exact inductionHypothesis later

/-! ### What writes leave alone -/

section Frames

variable {database : Database} {id : UUID}

theorem shipment_writeAll_of_none {writes : List Write}
    (others : ∀ row, Write.insertShipment row ∈ writes → row.id ≠ id) :
    ∀ {database : Database}, database.shipment id = none →
      (database.writeAll writes).shipment id = none := by
  induction writes with
  | nil => exact fun free => free
  | cons write writes inductionHypothesis =>
      intro database free
      refine inductionHypothesis
        (fun row member => others row (List.mem_cons_of_mem _ member)) ?_
      cases write with
      | insertShipment row => simp [free, others row (List.mem_cons_self)]
      | updateShipment target patch => simp [free]
      | _ => exact free

theorem event_writeAll_of_none {writes : List Write}
    (others : ∀ row, Write.insertEvent row ∈ writes → row.eventId ≠ id) :
    ∀ {database : Database}, database.event id = none →
      (database.writeAll writes).event id = none := by
  induction writes with
  | nil => exact fun free => free
  | cons write writes inductionHypothesis =>
      intro database free
      refine inductionHypothesis
        (fun row member => others row (List.mem_cons_of_mem _ member)) ?_
      cases write with
      | insertEvent row => simp [free, others row (List.mem_cons_self)]
      | _ => exact free

theorem outbox_writeAll_of_none {writes : List Write}
    (others : ∀ row, Write.insertOutbox row ∈ writes → row.id ≠ id) :
    ∀ {database : Database}, database.outbox id = none →
      (database.writeAll writes).outbox id = none := by
  induction writes with
  | nil => exact fun free => free
  | cons write writes inductionHypothesis =>
      intro database free
      refine inductionHypothesis
        (fun row member => others row (List.mem_cons_of_mem _ member)) ?_
      cases write with
      | insertOutbox row => simp [free, others row (List.mem_cons_self)]
      | updateOutbox target patch => simp [free]
      | _ => exact free

/-- An outbox row that no write updates stays as it is. -/
theorem outbox_writeAll_of_some_of_not_updated {row : OutboxEventModel} {writes : List Write}
    (others : ∀ patch, Write.updateOutbox id patch ∉ writes) :
    ∀ {database : Database}, database.outbox id = some row →
      (database.writeAll writes).outbox id = some row := by
  induction writes with
  | nil => exact fun found => found
  | cons write writes inductionHypothesis =>
      intro database found
      refine inductionHypothesis
        (fun patch member => others patch (List.mem_cons_of_mem _ member)) ?_
      cases write with
      | insertOutbox inserted => simp [found]
      | updateOutbox target patch =>
          have different : id ≠ target := by
            rintro rfl
            exact others patch List.mem_cons_self
          simp [found, different]
      | _ => exact found

end Frames

end Database

/-! ## What the database server does to values

The server is not part of the repository.  These are the conversions that its
column types apply to what the driver sends: `localize` reads a naive timestamp
in the session's timezone, `float8` is what a `Float` column hands back for an
accepted value, and `varchar` what a text column hands back.  A `Float` column
hands back unchanged what it handed back before, and keeps equal numbers
equal; a text column keeps a string. -/

structure Postgres where
  localize : Int → Int
  float8 : Json → Json
  varchar : Json → Json
  float8_float8 : ∀ value, float8 (float8 value) = float8 value
  float8_eq : ∀ left right, left.eq right = true → (float8 left).Same (float8 right)
  varchar_str : ∀ text, varchar (.str text) = .str text

namespace Postgres

variable (postgres : Postgres)

/-- A `timestamp with time zone` column keeps the instant. -/
def timestamptz (value : DateTime) : DateTime := .utc (value.instant postgres.localize)

/-- A row of `shipments` as the columns keep it. -/
def shipmentRow (row : ShipmentModel) : ShipmentModel :=
  { row with
    createdAt := postgres.timestamptz row.createdAt
    updatedAt := postgres.timestamptz row.updatedAt
    currentLatitude := postgres.float8 row.currentLatitude
    currentLongitude := postgres.float8 row.currentLongitude
    lastLocationAt := row.lastLocationAt.map postgres.timestamptz
    lastLifecycleAt := row.lastLifecycleAt.map postgres.timestamptz }

/-- A row of `shipment_events` as the columns keep it. -/
def eventRow (row : ShipmentEventModel) : ShipmentEventModel :=
  { row with
    source := postgres.varchar row.source
    occurredAt := postgres.timestamptz row.occurredAt
    receivedAt := postgres.timestamptz row.receivedAt }

/-- A row of `outbox_events` as the columns keep it. -/
def outboxRow (row : OutboxEventModel) : OutboxEventModel :=
  { row with
    createdAt := postgres.timestamptz row.createdAt
    publishedAt := row.publishedAt.map postgres.timestamptz
    nextAttemptAt := postgres.timestamptz row.nextAttemptAt }

/-- The values of an `UPDATE shipments` as the columns keep them. -/
def shipmentPatch (patch : ShipmentPatch) : ShipmentPatch :=
  { patch with
    createdAt := patch.createdAt.map postgres.timestamptz
    updatedAt := patch.updatedAt.map postgres.timestamptz
    currentLatitude := patch.currentLatitude.map postgres.float8
    currentLongitude := patch.currentLongitude.map postgres.float8
    lastLocationAt := patch.lastLocationAt.map (Option.map postgres.timestamptz)
    lastLifecycleAt := patch.lastLifecycleAt.map (Option.map postgres.timestamptz) }

/-- The values of an `UPDATE outbox_events` as the columns keep them. -/
def outboxPatch (patch : OutboxPatch) : OutboxPatch :=
  { patch with
    publishedAt := patch.publishedAt.map (Option.map postgres.timestamptz)
    nextAttemptAt := patch.nextAttemptAt.map postgres.timestamptz }

/-- A session in UTC, over columns that hand back every value as it came. -/
def utc : Postgres where
  localize wall := wall
  float8 value := value
  varchar value := value
  float8_float8 _ := rfl
  float8_eq _ _ equal := .inr equal
  varchar_str _ := rfl

end Postgres

end Freight
