/-
Module: Freight.Store.LockOrder
Purpose: The order in which a transaction takes its locks, as a protocol: keys of
  shipments, events and outbox rows, then the rows themselves.  The unit of work and the
  repositories keep to it.
Trusted boundary: none
Main exports:
  LockPlace, lockProtocol, AtMost, neutral_call, climb_call, Session.Flushable, Returning,
  ordered_flush, ordered_get, ordered_add
-/
import Freight.Interaction.Protocol
import Freight.Store.LockTable
import Freight.Store.Repositories

namespace Freight

open Interaction (Contract Protocol)

/-! ## The protocol -/

/-- How far a transaction has come: nothing it holds is above the level.  A relay has
claimed the row that it may update. -/
structure LockPlace where
  level : Nat := 0
  claimed : Option UUID := none
deriving DecidableEq, Repr

namespace LockPlace

/-- Locks of a level are taken from below. -/
def climb {α : Type} (level : Nat) (place : LockPlace) : Except PyError α → Option LockPlace
  | .ok _ => if place.level < level then some { place with level := level } else none
  | .error _ => if place.level < level then some place else none

/-- Where an answer leads. -/
def next (place : LockPlace) : (statement : Statement) → Except PyError (Reply statement) →
    Option LockPlace
  | .insertShipment _, answer => place.climb 1 answer
  | .insertEvent _, answer => place.climb 2 answer
  | .insertOutbox _, answer => place.climb 3 answer
  | .updateShipment _ _, answer => place.climb 4 answer
  | .claimOutbox _, .ok (some row) =>
      if place.level < 5 then some { level := 5, claimed := some row.id } else none
  | .updateOutbox id _, _ => if place.claimed = some id then some place else none
  | .commit, .ok _ | .rollback, _ => some {}
  | _, _ => some place

end LockPlace

/-- Every transaction takes its locks in order, and a relay updates only what it has
claimed. -/
def lockProtocol : Protocol Statement (fun op => Except PyError (Reply op)) LockPlace where
  start := {}
  next := LockPlace.next

/-- A transaction that holds nothing above a level. -/
def AtMost (level : Nat) (reached : Option LockPlace) : Prop :=
  ∃ place, reached = some place ∧ place.level ≤ level

/-- Statements that neither wait nor take. -/
def Statement.Neutral (statement : Statement) : Prop :=
  ∀ place answer, LockPlace.next place statement answer = some place

section Programs

variable {reached : Option LockPlace} {session : Session} {low : Nat}

theorem AtMost.mono {high : Nat} (within : AtMost low reached) (higher : low ≤ high) :
    AtMost high reached := by
  obtain ⟨place, rfl, below⟩ := within
  exact ⟨place, rfl, Nat.le_trans below higher⟩

theorem AtMost.inside (within : AtMost low reached) : reached.isSome = true := by
  obtain ⟨place, rfl, -⟩ := within
  exact rfl

theorem neutral_call {statement : Statement}
    {post : Contract.Post PyError Session (Option LockPlace) (Reply statement)}
    (neutral : statement.Neutral) (inside : reached.isSome = true)
    (answered : ∀ answer, post answer session reached) :
    lockProtocol.contract.holds (call statement) post session reached := by
  obtain ⟨place, rfl⟩ := Option.isSome_iff_exists.mp inside
  apply Protocol.holds_call
  intro answer
  exact ⟨place, neutral place answer, answered answer⟩

/-- A statement that takes the locks of a level. -/
theorem climb_call {statement : Statement} {high : Nat}
    {post : Contract.Post PyError Session (Option LockPlace) (Reply statement)}
    (climbs : ∀ place answer, LockPlace.next place statement answer = place.climb high answer)
    (within : AtMost low reached) (higher : low < high)
    (returned : ∀ value after, AtMost high after → post (.ok value) session after)
    (raised : ∀ error, post (.error error) session reached) :
    lockProtocol.contract.holds (call statement) post session reached := by
  obtain ⟨place, rfl, below⟩ := within
  have under : place.level < high := by omega
  apply Protocol.holds_call
  intro answer
  have moved := climbs place answer
  cases answer with
  | ok value =>
      simp only [LockPlace.climb, if_pos under] at moved
      exact ⟨_, moved, returned value _ ⟨_, rfl, Nat.le_refl high⟩⟩
  | error error =>
      simp only [LockPlace.climb, if_pos under] at moved
      exact ⟨_, moved, raised error⟩

theorem rollback_call {post : Contract.Post PyError Session (Option LockPlace) Unit}
    (inside : reached.isSome = true)
    (answered : ∀ answer, post answer session (some {})) :
    lockProtocol.contract.holds (call .rollback) post session reached := by
  obtain ⟨place, rfl⟩ := Option.isSome_iff_exists.mp inside
  apply Protocol.holds_call
  intro answer
  exact ⟨_, rfl, answered answer⟩

theorem commit_call {post : Contract.Post PyError Session (Option LockPlace) Unit}
    (inside : reached.isSome = true)
    (returned : ∀ value, post (.ok value) session (some {}))
    (raised : ∀ error, post (.error error) session reached) :
    lockProtocol.contract.holds (call .commit) post session reached := by
  obtain ⟨place, rfl⟩ := Option.isSome_iff_exists.mp inside
  apply Protocol.holds_call
  intro answer
  cases answer with
  | ok value => exact ⟨_, rfl, returned value⟩
  | error error => exact ⟨_, rfl, raised error⟩

/-! ## The unit of work -/

/-- A session with at most one object to flush for each table that is not already in
order. -/
structure Session.Flushable (session : Session) : Prop where
  outboxEvents : ∀ tracked ∈ session.outboxEvents, tracked.assigned = none
  newOutboxEvents : session.newOutboxEvents.length ≤ 1
  shipments : session.shipments.length ≤ 1
  newShipments : session.newShipments = []
  newEvents : session.newEvents = []

/-- What a computation may end in: where it returns, and anywhere where it raises. -/
def Returning {α : Type} (returned : α → Session → Option LockPlace → Prop) :
    Contract.Post PyError Session (Option LockPlace) α :=
  Contract.Post.on returned fun _ _ reached => reached.isSome = true

/-- Flushing pending shipments. -/
theorem ordered_flushNewShipments (within : AtMost 0 reached)
    (single : session.newShipments.length ≤ 1) :
    lockProtocol.contract.holds Session.flushNewShipments
      (Returning fun _ after reached => AtMost 1 reached ∧
        after = { session with newShipments := [] })
      session reached := by
  apply Contract.holds_bind
  apply Contract.holds_read
  apply Contract.holds_bind
  cases pending : session.newShipments with
  | nil =>
      apply Contract.holds_forEach_nil
      apply Contract.holds_modify
      exact ⟨within.mono (by omega), rfl⟩
  | cons row rows =>
      rw [pending] at single
      have last : rows = [] := List.eq_nil_of_length_eq_zero (by simpa using single)
      subst last
      apply Contract.holds_forEach_cons
      apply climb_call (fun _ _ => rfl) within (by omega)
      · intro _ after higher
        apply Contract.holds_forEach_nil
        apply Contract.holds_modify
        exact ⟨higher, rfl⟩
      · exact fun error => within.inside

/-- Flushing pending events. -/
theorem ordered_flushNewEvents (within : AtMost 1 reached)
    (single : session.newEvents.length ≤ 1) :
    lockProtocol.contract.holds Session.flushNewEvents
      (Returning fun _ after reached => AtMost 2 reached ∧
        after = { session with newEvents := [] })
      session reached := by
  apply Contract.holds_bind
  apply Contract.holds_read
  apply Contract.holds_bind
  cases pending : session.newEvents with
  | nil =>
      apply Contract.holds_forEach_nil
      apply Contract.holds_modify
      exact ⟨within.mono (by omega), rfl⟩
  | cons row rows =>
      rw [pending] at single
      have last : rows = [] := List.eq_nil_of_length_eq_zero (by simpa using single)
      subst last
      apply Contract.holds_forEach_cons
      apply climb_call (fun _ _ => rfl) within (by omega)
      · intro _ after higher
        apply Contract.holds_forEach_nil
        apply Contract.holds_modify
        exact ⟨higher, rfl⟩
      · exact fun error => within.inside

/-- Flushing pending outbox rows. -/
theorem ordered_flushNewOutboxEvents (within : AtMost 2 reached)
    (single : session.newOutboxEvents.length ≤ 1) :
    lockProtocol.contract.holds Session.flushNewOutboxEvents
      (Returning fun _ after reached => AtMost 3 reached ∧
        after = { session with
          outboxEvents :=
            session.newOutboxEvents.map ({ loaded := · }) ++ session.outboxEvents
          newOutboxEvents := [] })
      session reached := by
  apply Contract.holds_bind
  apply Contract.holds_read
  apply Contract.holds_bind
  cases pending : session.newOutboxEvents with
  | nil =>
      apply Contract.holds_forEach_nil
      apply Contract.holds_modify
      rw [pending]
      exact ⟨within.mono (by omega), rfl⟩
  | cons row rows =>
      rw [pending] at single
      have last : rows = [] := List.eq_nil_of_length_eq_zero (by simpa using single)
      subst last
      apply Contract.holds_forEach_cons
      apply climb_call (fun _ _ => rfl) within (by omega)
      · intro _ after higher
        apply Contract.holds_forEach_nil
        apply Contract.holds_modify
        rw [pending]
        exact ⟨higher, rfl⟩
      · exact fun error => within.inside

/-- Flushing the changes of a shipment. -/
theorem ordered_updateShipment (tracked : Tracked ShipmentModel) (within : AtMost 3 reached) :
    lockProtocol.contract.holds (Session.updateShipment tracked)
      (Returning fun _ after reached => AtMost 4 reached ∧ after = session)
      session reached := by
  cases assigned : tracked.assigned with
  | none =>
      simp only [Session.updateShipment, assigned]
      exact Contract.holds_pure ⟨within.mono (by omega), rfl⟩
  | some current =>
      by_cases unchanged : ShipmentPatch.between tracked.loaded current = {}
      · simp only [Session.updateShipment, assigned, unchanged]
        exact Contract.holds_pure ⟨within.mono (by omega), rfl⟩
      · simp only [Session.updateShipment, assigned, unchanged]
        apply climb_call (fun _ _ => rfl) within (by omega)
        · exact fun _ after higher => ⟨higher, rfl⟩
        · exact fun error => within.inside

/-- At most one shipment is loaded. -/
theorem ordered_updateShipments {objects : List (Tracked ShipmentModel)}
    (within : AtMost 3 reached) (single : objects.length ≤ 1) :
    lockProtocol.contract.holds
      (Interaction.Computation.forEach Session.updateShipment objects)
      (Returning fun _ after reached => AtMost 4 reached ∧ after = session)
      session reached := by
  cases objects with
  | nil => exact Contract.holds_forEach_nil ⟨within.mono (by omega), rfl⟩
  | cons tracked objects =>
      have last : objects = [] := List.eq_nil_of_length_eq_zero (by simpa using single)
      subst last
      apply Contract.holds_forEach_cons
      refine Contract.holds_mono (ordered_updateShipment tracked within) ?_
      intro outcome after reached established
      cases outcome with
      | error error => exact established
      | ok done => exact Contract.holds_forEach_nil established

/-- `session.flush()` of a session that is ready for it leaves nothing to flush. -/
theorem ordered_flush (within : AtMost 2 reached) (ready : session.Flushable) :
    lockProtocol.contract.holds Session.flush
      (Returning fun _ after reached => after.Clean ∧ reached.isSome = true)
      session reached := by
  apply Contract.holds_bind
  apply Contract.holds_read
  apply Contract.holds_bind
  apply holds_updateOutbox_clean ready.outboxEvents
  apply Contract.holds_bind
  refine Contract.holds_mono (ordered_flushNewOutboxEvents within ready.newOutboxEvents) ?_
  intro outcome after reached established
  cases outcome with
  | error error => exact established
  | ok done =>
      obtain ⟨higher, rfl⟩ := established
      apply Contract.holds_bind
      refine Contract.holds_mono (ordered_updateShipments higher ready.shipments) ?_
      intro outcome after reached established
      cases outcome with
      | error error => exact established
      | ok done =>
          obtain ⟨higher, rfl⟩ := established
          apply Contract.holds_bind
          refine holds_flushNewShipments_nil ready.newShipments ?_
          apply Contract.holds_bind
          refine holds_flushNewEvents_nil ready.newEvents ?_
          apply Contract.holds_modify
          refine ⟨⟨rfl, ?_, ready.newShipments, ready.newEvents, rfl⟩, higher.inside⟩
          intro tracked member
          obtain ⟨original, -, rfl⟩ := List.mem_map.mp member
          exact rfl

/-! ## Repositories -/

/-- Selecting a shipment takes nothing. -/
theorem ordered_scalarShipment {shipmentId : UUID} (inside : reached.isSome = true) :
    lockProtocol.contract.holds (Session.scalarShipment shipmentId)
      (fun _ after last => last = reached ∧ after = session) session reached := by
  apply Contract.holds_bind
  apply neutral_call (fun _ _ => rfl) inside
  intro answer
  rcases answer with error | (none | row)
  · exact ⟨rfl, rfl⟩
  · exact ⟨rfl, rfl⟩
  · simp only [Contract.Post.on]
    apply Contract.holds_bind
    apply Contract.holds_read
    simp only [Contract.Post.on]
    apply Contract.holds_pure
    exact ⟨rfl, rfl⟩

theorem ordered_getShipment {shipmentId : UUID} (inside : reached.isSome = true) :
    lockProtocol.contract.holds (Session.getShipment shipmentId)
      (fun _ after last => last = reached ∧ after = session) session reached := by
  apply Contract.holds_bind
  apply Contract.holds_read
  simp only [Contract.Post.on]
  cases session.trackedShipment shipmentId with
  | some tracked => exact Contract.holds_pure ⟨rfl, rfl⟩
  | none => exact ordered_scalarShipment inside

/-- `SQLAlchemyShipmentRepository.get` takes nothing and holds nothing. -/
theorem ordered_get {shipmentId : UUID} (inside : reached.isSome = true) :
    lockProtocol.contract.holds (SQLAlchemyShipmentRepository.get shipmentId)
      (fun _ after last => last = reached ∧ after = session) session reached := by
  apply Contract.holds_bind
  refine Contract.holds_mono (ordered_scalarShipment inside) ?_
  intro outcome after last same
  cases outcome with
  | error error => exact same
  | ok tracked =>
      simp only [Contract.Post.on]
      apply Contract.holds_pure
      exact same

theorem ordered_saveEvent {event : ShipmentEvent} (inside : reached.isSome = true) :
    lockProtocol.contract.holds (SQLAlchemyShipmentEventRepository.save event)
      (Returning fun _ after last => last = reached ∧
        after = { session with newEvents := session.newEvents ++ [EventMapper.toModel event] })
      session reached := by
  apply Contract.holds_bind
  apply neutral_call (fun _ _ => rfl) inside
  intro answer
  cases answer with
  | error error => exact inside
  | ok done => exact Contract.holds_modify ⟨rfl, rfl⟩

/-- Saving a shipment into a session that has none: either way there is one afterwards. -/
theorem ordered_saveShipment {shipment : Shipment} (empty : session.shipments = [])
    (none : session.newShipments = []) (inside : reached.isSome = true) :
    lockProtocol.contract.holds (SQLAlchemyShipmentRepository.save shipment)
      (Returning fun _ after last => last = reached ∧
        after.shipments.length + after.newShipments.length ≤ 1 ∧
          after.newEvents = session.newEvents ∧
            after.newOutboxEvents = session.newOutboxEvents ∧
              after.outboxEvents = session.outboxEvents)
      session reached := by
  apply Contract.holds_bind
  apply neutral_call (fun _ _ => rfl) inside
  intro answer
  cases answer with
  | error error => exact inside
  | ok done =>
      apply Contract.holds_bind
      refine Contract.holds_mono (ordered_getShipment inside) ?_
      rintro outcome after last ⟨rfl, rfl⟩
      rcases outcome with error | (missing | tracked)
      · exact inside
      · apply Contract.holds_modify
        exact ⟨rfl, by simp [empty, none], rfl, rfl, rfl⟩
      · apply Contract.holds_modify
        exact ⟨rfl, by simp [Session.assignShipment, empty, none], rfl, rfl, rfl⟩

theorem ordered_record {event : ShipmentEvent} {correlationId : Option String}
    (inside : reached.isSome = true) :
    lockProtocol.contract.holds (RecordedEventMessage.record event correlationId)
      (Returning fun _ after last => last = reached ∧ after = session) session reached := by
  apply Contract.holds_bind
  apply neutral_call (fun _ _ => rfl) inside
  intro answer
  cases answer with
  | error error => exact inside
  | ok messageId =>
      apply Contract.holds_ofExcept
      cases RecordedEventMessage.fromEvent messageId event correlationId with
      | error error => exact inside
      | ok message => exact ⟨rfl, rfl⟩

/-- `SQLAlchemyOutboxRepository.add`: the rows it depends on come first. -/
theorem ordered_add {message : RecordedEventMessage} (within : AtMost 0 reached)
    (newShipments : session.shipments.length + session.newShipments.length ≤ 1)
    (newEvents : session.newEvents.length ≤ 1)
    (newOutboxEvents : session.newOutboxEvents = []) (outboxEvents : session.outboxEvents = []) :
    lockProtocol.contract.holds (SQLAlchemyOutboxRepository.add message)
      (Returning fun _ after last => AtMost 2 last ∧ after.Flushable) session reached := by
  apply Contract.holds_bind
  refine Contract.holds_mono (ordered_flushNewShipments within (by omega)) ?_
  intro outcome after last established
  cases outcome with
  | error error => exact established
  | ok done =>
      obtain ⟨higher, rfl⟩ := established
      apply Contract.holds_bind
      refine Contract.holds_mono (ordered_flushNewEvents higher newEvents) ?_
      intro outcome after last established
      cases outcome with
      | error error => exact established
      | ok done =>
          obtain ⟨higher, rfl⟩ := established
          apply Contract.holds_bind
          apply neutral_call (fun _ _ => rfl) higher.inside
          intro answer
          cases answer with
          | error error => exact higher.inside
          | ok now =>
              apply Contract.holds_modify
              refine ⟨higher, ⟨?_, ?_, ?_, rfl, rfl⟩⟩
              · simp [outboxEvents]
              · simp [newOutboxEvents]
              · exact Nat.le_trans (Nat.le_add_right _ _) newShipments

end Programs

end Freight
