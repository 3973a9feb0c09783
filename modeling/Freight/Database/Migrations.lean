/-
Module: Freight.Database.Migrations
Purpose: The tables at the revision before the lifecycle clock, and what the migrations
  after it make of them.
Trusted boundary: none
Main exports:
  Revision6f8e4c7a1b2d, Revision8b7c3d2e1f0a, Migration8b7c3d2e1f0a.upgrade,
  Migration9c8d7e6f5a4b.upgrade, Revision6f8e4c7a1b2d.head
-/
import Freight.Database.Models

namespace Freight

/-! ## Revision 6f8e4c7a1b2d -/

namespace Revision6f8e4c7a1b2d

/-- A row of `shipments`, without a lifecycle clock. -/
structure Shipment where
  id : UUID
  referenceNumber : String
  origin : String
  destination : String
  carrier : String
  status : ShipmentStatus
  createdAt : DateTime
  updatedAt : DateTime
  currentLatitude : Json
  currentLongitude : Json
  lastLocationAt : Option DateTime

/-- A row of `shipment_events`, without a processing status. -/
structure ShipmentEvent where
  eventId : UUID
  shipmentId : UUID
  eventType : ShipmentEventType
  source : Json
  occurredAt : DateTime
  receivedAt : DateTime
  payload : Json

/-- The columns hold what the server hands back for them. -/
structure Shipment.Stored (postgres : Postgres) (row : Shipment) : Prop where
  createdAt : postgres.timestamptz row.createdAt = row.createdAt
  updatedAt : postgres.timestamptz row.updatedAt = row.updatedAt
  currentLatitude : postgres.float8 row.currentLatitude = row.currentLatitude
  currentLongitude : postgres.float8 row.currentLongitude = row.currentLongitude
  lastLocationAt : row.lastLocationAt.map postgres.timestamptz = row.lastLocationAt

end Revision6f8e4c7a1b2d

/-- The tables before the lifecycle clock. -/
structure Revision6f8e4c7a1b2d (postgres : Postgres) where
  shipments : List Revision6f8e4c7a1b2d.Shipment
  shipmentEvents : List Revision6f8e4c7a1b2d.ShipmentEvent
  stored : ∀ row ∈ shipments, row.Stored postgres

/-! ## Revision 8b7c3d2e1f0a -/

/-- The tables with a lifecycle clock and without an outbox. -/
structure Revision8b7c3d2e1f0a where
  shipments : List ShipmentModel
  shipmentEvents : List ShipmentEventModel

namespace Migration8b7c3d2e1f0a

/-- `last_lifecycle_at` is a nullable column without a default. -/
def upgradeShipment (row : Revision6f8e4c7a1b2d.Shipment) : ShipmentModel where
  id := row.id
  referenceNumber := row.referenceNumber
  origin := row.origin
  destination := row.destination
  carrier := row.carrier
  status := row.status
  createdAt := row.createdAt
  updatedAt := row.updatedAt
  currentLatitude := row.currentLatitude
  currentLongitude := row.currentLongitude
  lastLocationAt := row.lastLocationAt
  lastLifecycleAt := none

/-- `processing_status` has the server default `APPLIED`. -/
def upgradeShipmentEvent (row : Revision6f8e4c7a1b2d.ShipmentEvent) : ShipmentEventModel where
  eventId := row.eventId
  shipmentId := row.shipmentId
  eventType := row.eventType
  source := row.source
  occurredAt := row.occurredAt
  receivedAt := row.receivedAt
  payload := row.payload
  processingStatus := .applied

def upgrade {postgres : Postgres} (tables : Revision6f8e4c7a1b2d postgres) :
    Revision8b7c3d2e1f0a where
  shipments := tables.shipments.map upgradeShipment
  shipmentEvents := tables.shipmentEvents.map upgradeShipmentEvent

end Migration8b7c3d2e1f0a

/-! ## The later revisions -/

/-- The outbox is created empty; the revision after this one adds a nullable column to
it. -/
def Migration9c8d7e6f5a4b.upgrade (tables : Revision8b7c3d2e1f0a) : Database where
  shipments := tables.shipments
  shipmentEvents := tables.shipmentEvents

/-- The tables after all migrations. -/
def Revision6f8e4c7a1b2d.head {postgres : Postgres} (tables : Revision6f8e4c7a1b2d postgres) :
    Database :=
  Migration9c8d7e6f5a4b.upgrade (Migration8b7c3d2e1f0a.upgrade tables)

end Freight
