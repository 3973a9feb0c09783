/-
Module: Freight.Application.Queries
Purpose: What is read from the committed tables: one shipment, the events of one
  shipment, and the snapshot of the outbox that the relay exposes as gauges.
Trusted boundary: none
Main exports:
  GetShipment.execute, getShipment, GetShipmentEvents.Execute, GaugeMetricFamily,
  OutboxBacklogCollector.backlog, OutboxBacklogCollector.collect
-/
import Freight.Messaging.RelayWorker
import Freight.Proofs.RecordedOrder

namespace Freight

open Interaction.Computation (raise)

/-! ## Shipments and their events -/

/-- `GetShipment.execute`. -/
def GetShipment.execute (shipmentId : UUID) : Py (Option Shipment) :=
  SQLAlchemyShipmentRepository.get shipmentId

/-- `GET /shipments/{shipment_id}`. -/
def getShipment (shipmentId : UUID) : Py Shipment :=
  getDb do
    match ← GetShipment.execute shipmentId with
    | none => raise (.httpException 404 "Shipment not found")
    | some shipment => do
        call (.respond { statusCode := 200, shipment := some shipment })
        pure shipment

/-- `GetShipmentEvents.execute`, which `GET /shipments/{shipment_id}/events` answers. -/
def GetShipmentEvents.Execute (postgres : Postgres) (database : Database) (shipmentId : UUID)
    (events : List ShipmentEvent) : Prop :=
  SQLAlchemyShipmentEventRepository.ListByShipment postgres database shipmentId events

/-! ## The backlog of the outbox -/

/-- A `GaugeMetricFamily` with one value. -/
structure GaugeMetricFamily where
  name : String
  documentation : String
  value : Json
deriving DecidableEq, Repr

/-- `timedelta.total_seconds`, of a number of microseconds. -/
def totalSeconds (microseconds : Int) : Double :=
  Double.ofRat (microseconds < 0) ((microseconds.natAbs : ℚ) / 1000000)

namespace OutboxBacklogCollector

/-- The rows that are not published. -/
def pending (database : Database) : List OutboxEventModel :=
  database.outboxEvents.filter fun row => row.publishedAt.isNone

/-- `select(func.count(), func.min(created_at)).where(published_at.is_(None))`. -/
def backlog (postgres : Postgres) (database : Database) : Nat × Option DateTime :=
  ((pending database).length,
    ((pending database).map OutboxEventModel.createdAt).minOn?
      (DateTime.instant postgres.localize))

def collectionSuccess (value : Int) : GaugeMetricFamily where
  name := "freight_outbox_collection_success"
  documentation := "Backlog query succeeded"
  value := .int value

def pendingGauge (count : Nat) : GaugeMetricFamily where
  name := "freight_outbox_pending"
  documentation := "All unpublished intents including delayed retries"
  value := .int count

def ageGauge (age : Json) : GaugeMetricFamily where
  name := "freight_outbox_oldest_pending_age_seconds"
  documentation := "Age of oldest pending intent"
  value := age

/-- `max(0, difference.total_seconds())`, of a difference in microseconds. -/
def atLeastZero (difference : Int) : Json :=
  if 0 < difference then .float (totalSeconds difference) else .int 0

/-- `max(0, (now - oldest).total_seconds()) if oldest else 0`. -/
def oldestAge (postgres : Postgres) (oldest : Option DateTime) (now : DateTime) : Json :=
  match oldest with
  | none => .int 0
  | some oldest =>
      atLeastZero (now.instant postgres.localize - oldest.instant postgres.localize)

/-- `collect`, for what the query came to and the reading of the clock after it. -/
def collect (postgres : Postgres) (query : Except PyError (Nat × Option DateTime))
    (now : DateTime) : Except PyError (List GaugeMetricFamily) :=
  match query with
  | .error error =>
      if error.isSQLAlchemyError then .ok [collectionSuccess 0] else .error error
  | .ok (count, oldest) =>
      .ok [collectionSuccess 1, pendingGauge count, ageGauge (oldestAge postgres oldest now)]

end OutboxBacklogCollector

end Freight
