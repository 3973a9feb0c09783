/-
Module: Freight.Store.Repositories
Purpose: One specification for each repository method, in the sessions in which
  the use cases call it.
Trusted boundary: none
Main exports:
  holds_get, holds_saveEvent, holds_saveShipment_present, holds_saveShipment_new,
  holds_recordMessage, holds_flushNewEvents_single,
  holds_flushNewShipments_single, holds_flushNewOutboxEvents_single
-/
import Freight.Store.Transactions

namespace Freight

open Interaction (ProcessId Contract)

section Rules

variable {server : Server} {base : Database} {quiet : Prop} {requests : ProcessId → Request}
  {process : ProcessId} {connection : Connection} {world : World}
  {assertion : World → Prop} {session : Session}

theorem Database.shipment_id {database : Database} {id : UUID} {row : ShipmentModel}
    (found : database.shipment id = some row) : row.id = id :=
  Table.key_of_lookup found

theorem Session.trackedShipment_nil (empty : session.shipments = []) (id : UUID) :
    session.trackedShipment id = none := by
  rw [Session.trackedShipment, empty]
  rfl

/-- The `SELECT` of a shipment in a session that holds none. -/
theorem holds_scalarShipment {shipmentId : UUID}
    {post : Contract.Post PyError Session World (Option (Tracked ShipmentModel))}
    (empty : session.shipments = [])
    (lasting : Lasting base quiet process assertion)
    (mine : Mine process connection assertion world)
    (clean : connection.writes = []) (silent : connection.response = none)
    (returned : ∀ row after, Invariant server base quiet requests after →
      (replay base after.wal).shipment shipmentId = row →
      Mine process (connection.note (.shipment after.wal.length row)) assertion after →
        post (.ok (row.map ({ loaded := · }))) session after)
    (raised : ∀ error after, server.faults error = true →
      Mine process (connection.raise error) assertion after →
        post (.error error) session after) :
    (storeContract server base quiet requests process).holds
      (Session.scalarShipment shipmentId) post session world := by
  apply Contract.holds_bind
  refine holds_selectShipment lasting mine clean silent ?_ raised
  intro row after kept seen held
  simp only [Contract.Post.on]
  cases row with
  | none => exact returned none after kept seen.symm held
  | some row =>
      apply Contract.holds_bind
      apply Contract.holds_read
      simp only [Contract.Post.on, Session.trackedShipment_nil empty, Option.getD_none]
      apply Contract.holds_pure
      exact returned (some row) after kept seen.symm held

/-- `session.get` in a session that holds no shipment selects it. -/
theorem holds_getShipment {shipmentId : UUID}
    {post : Contract.Post PyError Session World (Option (Tracked ShipmentModel))}
    (empty : session.shipments = [])
    (selected : (storeContract server base quiet requests process).holds
      (Session.scalarShipment shipmentId) post session world) :
    (storeContract server base quiet requests process).holds
      (Session.getShipment shipmentId) post session world := by
  apply Contract.holds_bind
  apply Contract.holds_read
  simp only [Contract.Post.on, Session.trackedShipment_nil empty]
  exact selected

/-- `SQLAlchemyShipmentRepository.get` in a session that holds no shipment. -/
theorem holds_get {shipmentId : UUID}
    {post : Contract.Post PyError Session World (Option Shipment)}
    (empty : session.shipments = [])
    (lasting : Lasting base quiet process assertion)
    (mine : Mine process connection assertion world)
    (clean : connection.writes = []) (silent : connection.response = none)
    (missing : ∀ after, (replay base after.wal).shipment shipmentId = none →
      Mine process (connection.note (.shipment after.wal.length none)) assertion after →
        post (.ok none) session after)
    (found : ∀ row after, (replay base after.wal).shipment shipmentId = some row →
      Mine process (connection.note (.shipment after.wal.length (some row))) assertion
        after →
      post (.ok (some (ShipmentMapper.toDomain row))) session after)
    (raised : ∀ error after, server.faults error = true →
      Mine process (connection.raise error) assertion after →
        post (.error error) session after) :
    (storeContract server base quiet requests process).holds
      (SQLAlchemyShipmentRepository.get shipmentId) post session world := by
  apply Contract.holds_bind
  refine holds_scalarShipment empty lasting mine clean silent ?_ raised
  intro row after _ seen held
  apply Contract.holds_pure
  cases row with
  | none => exact missing after seen held
  | some row => exact found row after seen held

/-- Assigning to the one shipment that is loaded. -/
theorem Session.assignShipment_single {tracked : Tracked ShipmentModel} {model : ShipmentModel}
    (empty : session.shipments = []) :
    Session.assignShipment tracked model session =
      { session with shipments := [{ tracked with assigned := some model }] } := by
  simp [Session.assignShipment, empty]

section Pending

variable {Env Choices : Type}
  {contract : Contract Statement (fun op => Except PyError (Reply op)) Env Choices} {world : Env}

/-- Flushing the one pending event. -/
theorem holds_flushNewEvents_single {row : ShipmentEventModel}
    {post : Contract.Post PyError Session Env Unit}
    (pending : session.newEvents = [row])
    (verified : contract.holds
      (call (.insertEvent row))
      (Contract.Post.on
        (fun _ flushed after => post (.ok ()) { flushed with newEvents := [] } after)
        (fun error => post (.error error))) session world) :
    contract.holds Session.flushNewEvents post session world := by
  apply Contract.holds_bind
  apply Contract.holds_read
  apply Contract.holds_bind
  rw [pending]
  apply Contract.holds_forEach_cons
  refine Contract.holds_mono verified ?_
  rintro (error | value) flushed after established
  · exact established
  · exact Contract.holds_forEach_nil (Contract.holds_modify established)

/-- Flushing the one pending shipment. -/
theorem holds_flushNewShipments_single {row : ShipmentModel}
    {post : Contract.Post PyError Session Env Unit}
    (pending : session.newShipments = [row])
    (verified : contract.holds
      (call (.insertShipment row))
      (Contract.Post.on
        (fun _ flushed after => post (.ok ()) { flushed with newShipments := [] } after)
        (fun error => post (.error error))) session world) :
    contract.holds Session.flushNewShipments post session world := by
  apply Contract.holds_bind
  apply Contract.holds_read
  apply Contract.holds_bind
  rw [pending]
  apply Contract.holds_forEach_cons
  refine Contract.holds_mono verified ?_
  rintro (error | value) flushed after established
  · exact established
  · exact Contract.holds_forEach_nil (Contract.holds_modify established)

/-- Flushing the one pending outbox row. -/
theorem holds_flushNewOutboxEvents_single {row : OutboxEventModel}
    {post : Contract.Post PyError Session Env Unit}
    (pending : session.newOutboxEvents = [row])
    (verified : contract.holds
      (call (.insertOutbox row))
      (Contract.Post.on
        (fun _ flushed after => post (.ok ())
          { flushed with
            outboxEvents :=
              flushed.newOutboxEvents.map ({ loaded := · }) ++ flushed.outboxEvents
            newOutboxEvents := [] } after)
        (fun error => post (.error error))) session world) :
    contract.holds Session.flushNewOutboxEvents post session world := by
  apply Contract.holds_bind
  apply Contract.holds_read
  apply Contract.holds_bind
  rw [pending]
  apply Contract.holds_forEach_cons
  refine Contract.holds_mono verified ?_
  rintro (error | value) flushed after established
  · exact established
  · exact Contract.holds_forEach_nil (Contract.holds_modify established)

end Pending

/-- `SQLAlchemyShipmentEventRepository.save`. -/
theorem holds_saveEvent {event : ShipmentEvent}
    {post : Contract.Post PyError Session World Unit}
    (lasting : Lasting base quiet process assertion)
    (mine : Mine process connection assertion world)
    (returned : ∀ after, Mine process connection assertion after →
      post (.ok ())
        { session with newEvents := session.newEvents ++ [EventMapper.toModel event] } after)
    (raised : ∀ error after, server.faults error = true →
      Mine process (connection.raise error) assertion after →
        post (.error error) session after) :
    (storeContract server base quiet requests process).holds
      (SQLAlchemyShipmentEventRepository.save event) post session world := by
  apply Contract.holds_bind
  refine holds_observe lasting mine ?_ raised
  intro after held
  apply Contract.holds_modify
  exact returned after held

/-- `SQLAlchemyShipmentRepository.save` of a shipment that is there: the row is selected
again, and the update will be one of that row. -/
theorem holds_saveShipment_present {shipment : Shipment}
    {post : Contract.Post PyError Session World Unit}
    (empty : session.shipments = [])
    (lasting : Lasting base quiet process assertion)
    (mine : Mine process connection assertion world)
    (clean : connection.writes = []) (silent : connection.response = none)
    (present : ∀ reached, assertion reached →
      ((replay base reached.wal).shipment shipment.id).isSome)
    (returned : ∀ row after, Invariant server base quiet requests after →
      (replay base after.wal).shipment shipment.id = some row →
      Mine process (connection.note (.shipment after.wal.length (some row))) assertion after →
      post (.ok ())
        { session with
          shipments :=
            [{ loaded := row, assigned := some (ShipmentMapper.toModel shipment) }] } after)
    (raised : ∀ error after, server.faults error = true →
      Mine process (connection.raise error) assertion after →
        post (.error error) session after) :
    (storeContract server base quiet requests process).holds
      (SQLAlchemyShipmentRepository.save shipment) post session world := by
  apply Contract.holds_bind
  refine holds_observe lasting mine ?_ raised
  intro after held
  apply Contract.holds_bind
  apply holds_getShipment empty
  refine holds_scalarShipment empty lasting held clean silent ?_ raised
  intro row reached kept seen shown
  obtain ⟨loaded, there⟩ := Option.isSome_iff_exists.mp (present reached shown.lasts)
  cases seen.symm.trans there
  apply Contract.holds_modify
  rw [Session.assignShipment_single empty]
  exact returned loaded reached kept there shown

/-- `SQLAlchemyShipmentRepository.save` of a shipment whose identifier is not in
use. -/
theorem holds_saveShipment_new {shipment : Shipment}
    {post : Contract.Post PyError Session World Unit}
    (empty : session.shipments = [])
    (lasting : Lasting base quiet process assertion)
    (mine : Mine process connection assertion world)
    (clean : connection.writes = []) (silent : connection.response = none)
    (unused : ∀ reached, assertion reached →
      Invariant server base quiet requests reached →
      (replay base reached.wal).shipment shipment.id = none)
    (returned : ∀ lsn after,
      Mine process (connection.note (.shipment lsn none)) assertion after →
      post (.ok ())
        { session with
          newShipments := session.newShipments ++ [ShipmentMapper.toModel shipment] } after)
    (raised : ∀ error after, server.faults error = true →
      Mine process (connection.raise error) assertion after →
        post (.error error) session after) :
    (storeContract server base quiet requests process).holds
      (SQLAlchemyShipmentRepository.save shipment) post session world := by
  apply Contract.holds_bind
  refine holds_observe lasting mine ?_ raised
  intro after held
  apply Contract.holds_bind
  apply holds_getShipment empty
  refine holds_scalarShipment empty lasting held clean silent ?_ raised
  intro row reached kept seen shown
  rw [unused reached shown.lasts kept] at seen
  subst seen
  apply Contract.holds_modify
  exact returned _ reached shown

/-- `RecordedEventMessage.from_event`. -/
theorem holds_recordMessage {event : ShipmentEvent} {correlationId : Option String}
    {post : Contract.Post PyError Session World RecordedEventMessage}
    (lasting : Lasting base quiet process assertion)
    (mine : Mine process connection assertion world)
    (returned : ∀ messageId after, event.payload.plain.isDict = true →
      Mine process connection
        (fun world => assertion world ∧ (process, messageId) ∈ world.uuids) after →
      post
        (.ok
          { messageId := messageId
            eventId := event.eventId
            shipmentId := event.shipmentId
            body := RecordedEventMessage.envelope messageId event event.payload.plain
            correlationId := correlationId })
        session after)
    (rejected : ∀ after, Mine process connection assertion after →
      post (.error (.value "Recorded-event payload must be an object")) session after)
    (raised : ∀ error after, server.faults error = true →
      Mine process (connection.raise error) assertion after →
        post (.error error) session after) :
    (storeContract server base quiet requests process).holds
      (RecordedEventMessage.record event correlationId) post session world := by
  apply Contract.holds_bind
  refine holds_uuid4 lasting mine ?_ raised
  intro messageId after drawn
  apply Contract.holds_ofExcept
  cases built : RecordedEventMessage.fromEvent messageId event correlationId with
  | error error =>
      rw [RecordedEventMessage.fromEvent_error built]
      exact rejected after (drawn.weaken fun holds => holds.1)
  | ok message =>
      obtain ⟨object, rfl⟩ := RecordedEventMessage.fromEvent_ok built
      exact returned messageId after object drawn

end Rules

end Freight
