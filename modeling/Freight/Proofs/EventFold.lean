/-
Module: Freight.Proofs.EventFold
Purpose: What the fold of recorded events over a new shipment leaves, in terms of the
  events alone: the last location, the word of the lifecycle, the clocks.
Trusted boundary: none
Main exports:
  applyEvent_cases, foldlM_induction, lifecycleEvents, locationEvents, Folded,
  Folded.snoc, applyEvents_folded
-/
import Freight.Proofs.ProjectionReplay
import Mathlib.Data.List.Induction

namespace Freight

/-! ## One event -/

/-- Everything that applying an event can do: move the location, or take one edge of
the state machine. -/
theorem applyEvent_cases {shipment after : Shipment} {event : ShipmentEvent}
    (applied : applyEvent shipment event = some after) :
    (event.eventType = .locationUpdated ∧
        ∃ payload, LocationUpdatedPayload.ofDict event.payload.plain = some payload ∧
          after = shipment.updateLocation payload event.occurredAt) ∨
      (event.eventType ≠ .locationUpdated ∧
        ∃ next, ShipmentStateMachine.transitions shipment.status event.eventType = some next ∧
          after =
            { shipment with
              status := next
              updatedAt := event.occurredAt
              lastLifecycleAt := some event.occurredAt }) := by
  unfold applyEvent at applied
  split at applied
  · rename_i located
    obtain ⟨payload, decoded, moved⟩ := Option.map_eq_some_iff.mp applied
    exact .inl ⟨located, payload, decoded, moved.symm⟩
  · rename_i unlocated
    refine .inr ⟨unlocated, ?_⟩
    simp only [Shipment.changeStatus] at applied
    cases moved : ShipmentStateMachine.transition shipment.status event.eventType with
    | error error => simp [moved] at applied
    | ok next =>
        simp only [moved, Option.some.injEq] at applied
        exact ⟨next, ShipmentStateMachine.transition_ok_iff.mp moved, applied.symm⟩

/-! ## Any number of events -/

/-- What holds at the start of a fold and is kept by every step of it holds of the
items folded and of what they lead to. -/
theorem foldlM_induction {α β : Type} {step : α → β → Option α}
    {motive : List β → α → Prop} {start : α} (initial : motive [] start)
    (keeps : ∀ items before item after, motive items before →
      step before item = some after → motive (items ++ [item]) after)
    {items : List β} : ∀ {final : α}, items.foldlM step start = some final →
      motive items final := by
  induction items using List.reverseRecOn with
  | nil =>
      intro final folded
      cases folded
      exact initial
  | append_singleton items item inductionHypothesis =>
      intro final folded
      rw [List.foldlM_append] at folded
      obtain ⟨middle, before, last⟩ := Option.bind_eq_some_iff.mp folded
      exact keeps items middle item final (inductionHypothesis before) (by simpa using last)

/-- The events of the lifecycle, and those of the location. -/
def lifecycleEvents (events : List ShipmentEvent) : List ShipmentEvent :=
  events.filter fun event => event.eventType ≠ .locationUpdated

def locationEvents (events : List ShipmentEvent) : List ShipmentEvent :=
  events.filter fun event => event.eventType = .locationUpdated

/-- A shipment that events have led to since its creation: each attribute in terms of
the events alone. -/
structure Folded (created : DateTime) (events : List ShipmentEvent) (shipment : Shipment) :
    Prop where
  createdAt : shipment.createdAt = created
  updatedAt : shipment.updatedAt =
    (events.getLast?.map ShipmentEvent.occurredAt).getD created
  status : ((lifecycleEvents events).map ShipmentEvent.eventType).foldlM
    ShipmentStateMachine.transitions .created = some shipment.status
  lastLifecycleAt : shipment.lastLifecycleAt =
    (lifecycleEvents events).getLast?.map ShipmentEvent.occurredAt
  lastLocationAt : shipment.lastLocationAt =
    (locationEvents events).getLast?.map ShipmentEvent.occurredAt
  unlocated : locationEvents events = [] →
    shipment.currentLatitude = .null ∧ shipment.currentLongitude = .null
  located : ∀ event ∈ (locationEvents events).getLast?,
    LocationUpdatedPayload.ofDict event.payload.plain =
      some { latitude := shipment.currentLatitude, longitude := shipment.currentLongitude }

/-- Step lemma: one more event. -/
theorem Folded.snoc {created : DateTime} {events : List ShipmentEvent}
    {shipment after : Shipment} {event : ShipmentEvent}
    (folded : Folded created events shipment)
    (applied : applyEvent shipment event = some after) :
    Folded created (events ++ [event]) after := by
  rcases applyEvent_cases applied with ⟨located, payload, decoded, moved⟩ |
    ⟨unlocated, next, edge, moved⟩
  · have lifecycle : lifecycleEvents (events ++ [event]) = lifecycleEvents events := by
      simp [lifecycleEvents, located]
    have locations : locationEvents (events ++ [event]) = locationEvents events ++ [event] := by
      simp [locationEvents, located]
    subst moved
    exact
      { createdAt := folded.createdAt
        updatedAt := by simp [Shipment.updateLocation]
        status := by
          rw [lifecycle]
          exact folded.status
        lastLifecycleAt := by
          rw [lifecycle]
          exact folded.lastLifecycleAt
        lastLocationAt := by
          rw [locations]
          simp [Shipment.updateLocation]
        unlocated := by
          intro none
          rw [locations] at none
          simp at none
        located := by
          intro last final
          rw [locations, List.getLast?_concat] at final
          cases final
          exact decoded }
  · have lifecycle : lifecycleEvents (events ++ [event]) =
        lifecycleEvents events ++ [event] := by
      simp [lifecycleEvents, unlocated]
    have locations : locationEvents (events ++ [event]) = locationEvents events := by
      simp [locationEvents, unlocated]
    subst moved
    exact
      { createdAt := folded.createdAt
        updatedAt := by simp
        status := by
          rw [lifecycle, List.map_append, List.foldlM_append, folded.status]
          simpa using edge
        lastLifecycleAt := by
          rw [lifecycle]
          simp
        lastLocationAt := by
          rw [locations]
          exact folded.lastLocationAt
        unlocated := by
          rw [locations]
          exact folded.unlocated
        located := by
          rw [locations]
          exact folded.located }

/-- Run lemma: what the fold over a shipment as it was created leads to. -/
theorem applyEvents_folded {row : ShipmentModel} {events : List ShipmentEvent}
    {shipment : Shipment} (folded : events.foldlM applyEvent row.created = some shipment) :
    Folded row.createdAt events shipment := by
  refine foldlM_induction (motive := Folded row.createdAt) ?_ ?_ folded
  · exact
      { createdAt := rfl
        updatedAt := rfl
        status := rfl
        lastLifecycleAt := rfl
        lastLocationAt := rfl
        unlocated := fun _ => ⟨rfl, rfl⟩
        located := fun _ final => by cases final }
  · exact fun _ _ _ _ before applied => before.snoc applied

end Freight
