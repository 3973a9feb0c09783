/-
Module: Freight.Proofs.CorrelationCoupling
Purpose: A request does the same under every correlation id, except for the one column of the
  outbox that the id is stored in.
Trusted boundary: none
Main exports:
  SameRow, Correlates, Recorrelated, Inert, inert_createShipment, inert_receiveEvent,
  inert_handleEvent
-/
import Freight.Application.EntryPoints
import Freight.Interaction.Coupling

namespace Freight

open Interaction (Exchange Program)
open Interaction.Computation (Coupled)

/-! ## What may differ -/

/-- A row that is stored under one correlation id, and the same row under another. -/
structure SameRow (one two : Option String) (row other : OutboxEventModel) : Prop where
  own : row.correlationId = one
  same : other = { row with correlationId := two }

/-- The statements agree, except that an outbox row has the one id or the other. -/
inductive Correlates (one two : Option String) :
    Exchange Statement (fun op => Except PyError (Reply op)) →
      Exchange Statement (fun op => Except PyError (Reply op)) → Prop where
  | same {statement : Statement} (answer : Except PyError (Reply statement))
      (other : ∀ row, statement ≠ .insertOutbox row) :
      Correlates one two ⟨statement, answer⟩ ⟨statement, answer⟩
  | row {row other : OutboxEventModel} (answer : Except PyError Unit)
      (same : SameRow one two row other) :
      Correlates one two ⟨.insertOutbox row, answer⟩ ⟨.insertOutbox other, answer⟩

/-- Two sessions of one request under two correlation ids. -/
structure Recorrelated (one two : Option String) (left right : Session) : Prop where
  shipments : right.shipments = left.shipments
  newShipments : right.newShipments = left.newShipments
  newEvents : right.newEvents = left.newEvents
  newOutboxEvents : List.Forall₂ (SameRow one two) left.newOutboxEvents right.newOutboxEvents
  unmarked : ∀ tracked ∈ left.outboxEvents, tracked.assigned = none
  alsoUnmarked : ∀ tracked ∈ right.outboxEvents, tracked.assigned = none

section Rules

variable {one two : Option String}

/-- Code that does the same under both ids. -/
abbrev Inert (one two : Option String) {α : Type} (body other : Py α) : Prop :=
  Coupled (Correlates one two) (Recorrelated one two) body other

theorem Recorrelated.refl : Recorrelated one two {} {} where
  shipments := rfl
  newShipments := rfl
  newEvents := rfl
  newOutboxEvents := .nil
  unmarked := by simp
  alsoUnmarked := by simp

/-- A statement that adds no outbox row. -/
theorem inert_call {statement : Statement} (other : ∀ row, statement ≠ .insertOutbox row) :
    Inert one two (call statement) (call statement) :=
  Coupled.call fun answer => .same answer other

/-! ## The session -/

theorem inert_scalarShipment (id : UUID) :
    Inert one two (Session.scalarShipment id) (Session.scalarShipment id) := by
  refine (inert_call (by simp)).bind ?_
  intro row
  cases row with
  | none => exact Coupled.pure
  | some row =>
      apply Coupled.read_bind
      intro left right good
      have same : right.trackedShipment row.id = left.trackedShipment row.id := by
        rw [Session.trackedShipment, Session.trackedShipment, good.shipments]
      rw [same]
      exact Program.coupled_done ⟨rfl, good⟩

theorem inert_getShipment (id : UUID) :
    Inert one two (Session.getShipment id) (Session.getShipment id) := by
  apply Coupled.read_bind
  intro left right good
  have same : right.trackedShipment id = left.trackedShipment id := by
    rw [Session.trackedShipment, Session.trackedShipment, good.shipments]
  rw [same]
  cases left.trackedShipment id with
  | some tracked => exact Program.coupled_done ⟨rfl, good⟩
  | none => exact inert_scalarShipment id left right good

theorem inert_flushNewShipments :
    Inert one two Session.flushNewShipments Session.flushNewShipments := by
  apply Coupled.read_bind
  intro left right good
  rw [good.newShipments]
  refine (Coupled.forEach ?_).bind (fun _ => Coupled.modify ?_) left right good
  · exact List.forall₂_same.mpr fun row _ => inert_call (by simp)
  · intro left right good
    exact { good with newShipments := rfl }

theorem inert_flushNewEvents :
    Inert one two Session.flushNewEvents Session.flushNewEvents := by
  apply Coupled.read_bind
  intro left right good
  rw [good.newEvents]
  refine (Coupled.forEach ?_).bind (fun _ => Coupled.modify ?_) left right good
  · exact List.forall₂_same.mpr fun row _ => inert_call (by simp)
  · intro left right good
    exact { good with newEvents := rfl }

/-- Here the two differ. -/
theorem inert_flushNewOutboxEvents :
    Inert one two Session.flushNewOutboxEvents Session.flushNewOutboxEvents := by
  apply Coupled.read_bind
  intro left right good
  refine (Coupled.forEach ?_).bind (fun _ => Coupled.modify ?_) left right good
  · refine good.newOutboxEvents.imp ?_
    intro row other same before after good
    apply Program.coupled_perform
    intro answer
    exact ⟨answer, .row answer same, Program.coupled_done ⟨rfl, good⟩⟩
  · intro left right good
    have fresh : ∀ (rows : List OutboxEventModel) (tracked : List (Tracked OutboxEventModel)),
        (∀ before ∈ tracked, before.assigned = none) →
          ∀ after ∈ rows.map ({ loaded := · }) ++ tracked, after.assigned = none := by
      intro rows tracked unmarked after member
      rcases List.mem_append.mp member with added | there
      · obtain ⟨row, -, rfl⟩ := List.mem_map.mp added
        rfl
      · exact unmarked after there
    exact { good with
      newOutboxEvents := .nil
      unmarked := fresh _ _ good.unmarked
      alsoUnmarked := fresh _ _ good.alsoUnmarked }

theorem inert_updateShipment (tracked : Tracked ShipmentModel) :
    Inert one two (Session.updateShipment tracked) (Session.updateShipment tracked) := by
  unfold Session.updateShipment
  cases tracked.assigned with
  | none => exact Coupled.pure
  | some current => exact Coupled.ite Coupled.pure (inert_call (by simp))

/-- No row has been assigned to, so no update of the outbox is sent. -/
theorem updateOutbox_unmarked {tracked : List (Tracked OutboxEventModel)}
    (unmarked : ∀ row ∈ tracked, row.assigned = none) :
    Interaction.Computation.forEach Session.updateOutbox tracked = (pure () : Py Unit) := by
  induction tracked with
  | nil => rfl
  | cons row tracked inductionHypothesis =>
      have first : Session.updateOutbox row = pure () := by
        rw [Session.updateOutbox, unmarked row List.mem_cons_self]
      have rest := inductionHypothesis fun other member =>
        unmarked other (List.mem_cons_of_mem _ member)
      simp only [Interaction.Computation.forEach, first, rest]
      rfl

theorem inert_flush : Inert one two Session.flush Session.flush := by
  apply Coupled.read_bind
  intro left right good
  rw [updateOutbox_unmarked good.unmarked, updateOutbox_unmarked good.alsoUnmarked,
    good.shipments]
  refine Coupled.pure.bind (fun _ => inert_flushNewOutboxEvents.bind fun _ =>
    (Coupled.forEach ?_).bind fun _ => inert_flushNewShipments.bind fun _ =>
      inert_flushNewEvents.bind fun _ => Coupled.modify ?_) left right good
  · exact List.forall₂_same.mpr fun tracked _ => inert_updateShipment tracked
  · intro left right good
    have flushed : ∀ tracked : List (Tracked OutboxEventModel),
        ∀ after ∈ tracked.map Tracked.flushed, after.assigned = none := by
      intro tracked after member
      obtain ⟨before, -, rfl⟩ := List.mem_map.mp member
      rfl
    exact { good with
      shipments := rfl
      unmarked := flushed _
      alsoUnmarked := flushed _ }

theorem inert_commit : Inert one two Session.commit Session.commit :=
  inert_flush.bind fun _ => inert_call (by simp)

theorem inert_rollback : Inert one two Session.rollback Session.rollback :=
  (inert_call (by simp)).bind fun _ => Coupled.modify fun _ _ _ => .refl

/-! ## The repositories -/

theorem inert_get (id : UUID) : Inert one two (SQLAlchemyShipmentRepository.get id)
    (SQLAlchemyShipmentRepository.get id) :=
  (inert_scalarShipment id).bind fun _ => Coupled.pure

theorem inert_saveShipment (shipment : Shipment) :
    Inert one two (SQLAlchemyShipmentRepository.save shipment)
      (SQLAlchemyShipmentRepository.save shipment) := by
  refine (inert_call (by simp)).bind fun _ => (inert_getShipment shipment.id).bind ?_
  intro existing
  cases existing with
  | none =>
      apply Coupled.modify
      intro left right good
      exact { good with newShipments := by rw [good.newShipments] }
  | some row =>
      apply Coupled.modify
      intro left right good
      exact { good with shipments := by simp only [Session.assignShipment, good.shipments] }

theorem inert_saveEvent (event : ShipmentEvent) :
    Inert one two (SQLAlchemyShipmentEventRepository.save event)
      (SQLAlchemyShipmentEventRepository.save event) := by
  refine (inert_call (by simp)).bind fun _ => Coupled.modify ?_
  intro left right good
  exact { good with newEvents := by rw [good.newEvents] }

/-- A message is added under the one id or the other. -/
theorem inert_record {α : Type} (event : ShipmentEvent)
    {next : RecordedEventMessage → Py α} {partner : RecordedEventMessage → Py α}
    (rest : ∀ message : RecordedEventMessage, message.correlationId = one →
      Inert one two (next message) (partner { message with correlationId := two })) :
    Inert one two (RecordedEventMessage.record event one >>= next)
      (RecordedEventMessage.record event two >>= partner) := by
  intro left right good
  have recorded : Program.Coupled (Correlates one two)
      (fun first second => Recorrelated one two first.2 second.2 ∧
        ((∃ message : RecordedEventMessage, first.1 = .ok message ∧
            message.correlationId = one ∧
            second.1 = .ok { message with correlationId := two }) ∨
          ∃ error, first.1 = .error error ∧ second.1 = .error error))
      (RecordedEventMessage.record event one left)
      (RecordedEventMessage.record event two right) := by
    apply Program.coupled_perform
    intro answer
    refine ⟨answer, .same answer (by simp), ?_⟩
    cases answer with
    | error error => exact Program.coupled_done ⟨good, .inr ⟨error, rfl, rfl⟩⟩
    | ok messageId =>
        refine Program.coupled_done ⟨good, ?_⟩
        by_cases object : event.payload.plain.isDict = true
        · refine .inl ⟨{
              messageId := messageId
              eventId := event.eventId
              shipmentId := event.shipmentId
              body := RecordedEventMessage.envelope messageId event event.payload.plain
              correlationId := one }, ?_, rfl, ?_⟩
          · simp only [RecordedEventMessage.fromEvent, object, if_true]
          · simp only [RecordedEventMessage.fromEvent, object, if_true]
        · refine .inr ⟨.value "Recorded-event payload must be an object", ?_, ?_⟩
          · simp only [RecordedEventMessage.fromEvent, object, Bool.false_eq_true, if_false]
          · simp only [RecordedEventMessage.fromEvent, object, Bool.false_eq_true, if_false]
  refine Program.coupled_bind recorded ?_
  rintro ⟨outcome, state⟩ ⟨result, last⟩ ⟨still, ⟨message, rfl, own, rfl⟩ | ⟨error, rfl, rfl⟩⟩
  · exact rest message own state last still
  · exact Program.coupled_done ⟨rfl, still⟩

theorem inert_add {message : RecordedEventMessage} (own : message.correlationId = one) :
    Inert one two (SQLAlchemyOutboxRepository.add message)
      (SQLAlchemyOutboxRepository.add { message with correlationId := two }) := by
  refine inert_flushNewShipments.bind fun _ => inert_flushNewEvents.bind fun _ =>
    (inert_call (by simp)).bind fun now => Coupled.modify ?_
  intro left right good
  have same : SameRow one two (SQLAlchemyOutboxRepository.model message now)
      (SQLAlchemyOutboxRepository.model { message with correlationId := two } now) :=
    ⟨own, rfl⟩
  exact { good with
    newOutboxEvents := List.rel_append good.newOutboxEvents (.cons same .nil) }

/-! ## The requests -/

theorem inert_transaction {α : Type} {body other : Py α} (inside : Inert one two body other) :
    Inert one two (transaction body) (transaction other) := by
  refine Coupled.onExit (Coupled.tryExcept ?_ ?_) (inert_call (by simp))
  · exact inside.bind fun answer => inert_commit.bind fun _ =>
      (inert_call (by simp)).bind fun _ => Coupled.pure
  · exact fun error => inert_rollback.bind fun _ =>
      (inert_call (by simp)).bind fun _ => Coupled.raise

theorem inert_receive (event : ShipmentEvent) :
    Inert one two (ReceiveShipmentEvent.execute one event)
      (ReceiveShipmentEvent.execute two event) := by
  refine Coupled.ite Coupled.raise ((inert_get event.shipmentId).bind ?_)
  intro found
  cases found with
  | none => exact Coupled.raise
  | some shipment =>
      refine Coupled.bind ((inert_call (by simp)).bind fun _ => Coupled.pure) ?_
      intro duplicate
      refine Coupled.ite Coupled.pure (Coupled.ofExcept.bind fun status => ?_)
      refine (inert_saveEvent _).bind fun _ => (inert_saveShipment _).bind fun _ => ?_
      refine inert_record _ fun message own => ?_
      exact (inert_add own).bind fun _ => Coupled.pure

/-- The ingestion worker's `handle_event`. -/
theorem inert_handleEvent (event : ShipmentEvent) :
    Inert one two (handleEvent one event) (handleEvent two event) :=
  inert_transaction ((inert_receive event).bind fun _ => Coupled.pure)

end Rules

end Freight
