/-
Module: Freight.Store.UnitOfWork
Purpose: What the session's unit of work sends to the server: nothing for a
  clean session, and the pending rows and changed columns otherwise.
Trusted boundary: none
Main exports:
  Session.Clean, holds_flushNewShipments_nil, holds_flushNewEvents_nil,
  holds_updateOutbox_clean, holds_flush_clean
-/
import Freight.Store.OutboxStatements

namespace Freight

open Interaction (Contract)

/-- Nothing to flush: no pending object and no assigned attribute. -/
structure Session.Clean (session : Session) : Prop where
  shipments : session.shipments = []
  outboxEvents : ∀ tracked ∈ session.outboxEvents, tracked.assigned = none
  newShipments : session.newShipments = []
  newEvents : session.newEvents = []
  newOutboxEvents : session.newOutboxEvents = []

theorem Tracked.flushed_of_clean {Row : Type} {tracked : Tracked Row}
    (clean : tracked.assigned = none) : tracked.flushed = tracked := by
  cases tracked
  cases clean
  rfl

theorem Tracked.map_flushed_of_clean {Row : Type} {objects : List (Tracked Row)}
    (clean : ∀ tracked ∈ objects, tracked.assigned = none) :
    objects.map Tracked.flushed = objects := by
  conv => rhs; rw [← List.map_id objects]
  exact List.map_congr_left fun tracked member => flushed_of_clean (clean tracked member)

section Rules

variable {Env Choices : Type}
  {contract : Contract Statement (fun op => Except PyError (Reply op)) Env Choices}
  {world : Env} {session : Session}

/-! ## Nothing pending -/

theorem holds_flushNewShipments_nil {post : Contract.Post PyError Session Env Unit}
    (none : session.newShipments = []) (established : post (.ok ()) session world) :
    contract.holds Session.flushNewShipments post session world := by
  obtain ⟨shipments, outboxEvents, newShipments, newEvents, newOutboxEvents⟩ := session
  cases none
  exact Contract.holds_bind (Contract.holds_read
    (Contract.holds_bind (Contract.holds_forEach_nil established)))

theorem holds_flushNewEvents_nil {post : Contract.Post PyError Session Env Unit}
    (none : session.newEvents = []) (established : post (.ok ()) session world) :
    contract.holds Session.flushNewEvents post session world := by
  obtain ⟨shipments, outboxEvents, newShipments, newEvents, newOutboxEvents⟩ := session
  cases none
  exact Contract.holds_bind (Contract.holds_read
    (Contract.holds_bind (Contract.holds_forEach_nil established)))

theorem holds_flushNewOutboxEvents_nil {post : Contract.Post PyError Session Env Unit}
    (none : session.newOutboxEvents = []) (established : post (.ok ()) session world) :
    contract.holds Session.flushNewOutboxEvents post session world := by
  obtain ⟨shipments, outboxEvents, newShipments, newEvents, newOutboxEvents⟩ := session
  cases none
  exact Contract.holds_bind (Contract.holds_read
    (Contract.holds_bind (Contract.holds_forEach_nil established)))

/-! ## The clean session -/

theorem holds_updateOutbox_clean {objects : List (Tracked OutboxEventModel)}
    {post : Contract.Post PyError Session Env Unit}
    (clean : ∀ tracked ∈ objects, tracked.assigned = none)
    (established : post (.ok ()) session world) :
    contract.holds (Interaction.Computation.forEach Session.updateOutbox objects) post session
      world := by
  induction objects with
  | nil => exact Contract.holds_forEach_nil established
  | cons tracked objects inductionHypothesis =>
      apply Contract.holds_forEach_cons
      simp only [Session.updateOutbox, clean tracked List.mem_cons_self]
      exact inductionHypothesis fun other member => clean other (List.mem_cons_of_mem _ member)

/-- Flushing a clean session does nothing. -/
theorem holds_flush_clean {post : Contract.Post PyError Session Env Unit}
    (clean : session.Clean) (established : post (.ok ()) session world) :
    contract.holds Session.flush post session
      world := by
  have same : session =
      { session with
        shipments := []
        outboxEvents := session.outboxEvents.map Tracked.flushed } := by
    rw [← clean.shipments, Tracked.map_flushed_of_clean clean.outboxEvents]
  apply Contract.holds_bind
  apply Contract.holds_read
  apply Contract.holds_bind
  apply holds_updateOutbox_clean clean.outboxEvents
  apply Contract.holds_bind
  apply holds_flushNewOutboxEvents_nil clean.newOutboxEvents
  apply Contract.holds_bind
  rw [clean.shipments]
  apply Contract.holds_forEach_nil
  apply Contract.holds_bind
  apply holds_flushNewShipments_nil clean.newShipments
  apply Contract.holds_bind
  apply holds_flushNewEvents_nil clean.newEvents
  apply Contract.holds_modify
  rw [← same]
  exact established

end Rules

end Freight
