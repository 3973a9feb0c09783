/-
Module: Freight.Proofs.TimelineIndependence
Purpose: The two timelines of a shipment do not interfere, however their events are
  interleaved; and the location converges, however the events of both are ordered.
Trusted boundary: none
Main exports:
  ShipmentEventHandler.handleAll, Shipment.locationView, Shipment.lifecycleView,
  ShipmentEventHandler.location_unwinding, ShipmentEventHandler.lifecycle_unwinding,
  timelines_do_not_interfere, Whereabouts, Whereabouts.move, Reordered, location_converges
-/
import Freight.Domain.Shipment
import Freight.Interaction.Noninterference
import Mathlib.Data.List.Pairwise

namespace Freight

open Interaction (Interleaving)

/-- Events handled one after another, of which those that raise are skipped: what each of
them came to, and the shipment as it is left behind. -/
def ShipmentEventHandler.handleAll :
    Shipment → List ShipmentEvent →
      List (ShipmentEvent × Except PyError ShipmentEventProcessingStatus) × Shipment :=
  Interaction.handleAll handle

/-! ## The two timelines -/

/-- An event of the location. -/
def ShipmentEvent.Located (event : ShipmentEvent) : Prop := event.eventType = .locationUpdated

instance : DecidablePred ShipmentEvent.Located := fun event =>
  inferInstanceAs (Decidable (event.eventType = .locationUpdated))

namespace Shipment

/-- The shipment without what the lifecycle changes. -/
def locationView (shipment : Shipment) : Shipment :=
  { shipment with
    status := .created
    lastLifecycleAt := none
    updatedAt := shipment.createdAt }

/-- The shipment without what the location changes. -/
def lifecycleView (shipment : Shipment) : Shipment :=
  { shipment with
    currentLatitude := .null
    currentLongitude := .null
    lastLocationAt := none
    updatedAt := shipment.createdAt }

/-- Both views together leave nothing but `updated_at` open. -/
theorem eq_of_views {first second : Shipment}
    (location : first.locationView = second.locationView)
    (lifecycle : first.lifecycleView = second.lifecycleView) :
    first = { second with updatedAt := first.updatedAt } := by
  cases first
  cases second
  simp only [locationView, lifecycleView, Shipment.mk.injEq] at location lifecycle ⊢
  simp [location, lifecycle]

end Shipment

namespace ShipmentEventHandler

variable {shipment first second : Shipment} {event : ShipmentEvent}

/-- An event of the location sees and changes nothing else. -/
theorem handle_locationView (located : event.Located)
    (agree : first.locationView = second.locationView) :
    (handle first event).1 = (handle second event).1 ∧
      (handle first event).2.locationView = (handle second event).2.locationView := by
  have sameId : first.id = second.id := (congrArg Shipment.id agree :)
  have sameClock : first.lastLocationAt = second.lastLocationAt :=
    (congrArg Shipment.lastLocationAt agree :)
  have received : event.eventType ≠ .shipmentCreated := by
    rw [located]
    decide
  unfold ShipmentEvent.Located at located
  simp only [handle, sameId, located, sameClock]
  split
  · exact ⟨rfl, agree⟩
  simp only [reduceCtorEq, if_false, if_true]
  cases locationPayload event.payload with
  | error error => exact ⟨rfl, agree⟩
  | ok payload =>
      cases isLate second.lastLocationAt event.occurredAt with
      | error error => exact ⟨rfl, agree⟩
      | ok late =>
          cases late with
          | true => exact ⟨rfl, agree⟩
          | false =>
              refine ⟨rfl, ?_⟩
              simp only [Shipment.locationView, Shipment.updateLocation,
                Shipment.mk.injEq] at agree ⊢
              simp [agree]

/-- Any other event leaves the location alone. -/
theorem handle_keeps_locationView (unlocated : ¬ event.Located) :
    (handle shipment event).2.locationView = shipment.locationView := by
  unfold ShipmentEvent.Located at unlocated
  simp only [handle, if_neg unlocated, Shipment.changeStatus]
  split
  · rfl
  split
  · rfl
  cases isLate shipment.lastLifecycleAt event.occurredAt with
  | error error => rfl
  | ok late =>
      cases late with
      | true => rfl
      | false =>
          cases ShipmentStateMachine.transition shipment.status event.eventType with
          | error error => rfl
          | ok status => rfl

/-- An event of the lifecycle sees and changes nothing else. -/
theorem handle_lifecycleView (unlocated : ¬ event.Located)
    (agree : first.lifecycleView = second.lifecycleView) :
    (handle first event).1 = (handle second event).1 ∧
      (handle first event).2.lifecycleView = (handle second event).2.lifecycleView := by
  have sameId : first.id = second.id := (congrArg Shipment.id agree :)
  have sameStatus : first.status = second.status := (congrArg Shipment.status agree :)
  have sameClock : first.lastLifecycleAt = second.lastLifecycleAt :=
    (congrArg Shipment.lastLifecycleAt agree :)
  unfold ShipmentEvent.Located at unlocated
  simp only [handle, sameId, if_neg unlocated, sameClock, Shipment.changeStatus, sameStatus]
  split
  · exact ⟨rfl, agree⟩
  split
  · exact ⟨rfl, agree⟩
  cases isLate second.lastLifecycleAt event.occurredAt with
  | error error => exact ⟨rfl, agree⟩
  | ok late =>
      cases late with
      | true => exact ⟨rfl, agree⟩
      | false =>
          cases ShipmentStateMachine.transition second.status event.eventType with
          | error error => exact ⟨rfl, agree⟩
          | ok status =>
              refine ⟨rfl, ?_⟩
              simp only [Shipment.lifecycleView, Shipment.mk.injEq] at agree ⊢
              simp [agree]

/-- An event of the location leaves the lifecycle alone. -/
theorem handle_keeps_lifecycleView (located : event.Located) :
    (handle shipment event).2.lifecycleView = shipment.lifecycleView := by
  have received : event.eventType ≠ .shipmentCreated := by
    rw [located]
    decide
  unfold ShipmentEvent.Located at located
  simp only [handle, if_neg received, if_pos located]
  split
  · rfl
  cases locationPayload event.payload with
  | error error => rfl
  | ok payload =>
      cases isLate shipment.lastLocationAt event.occurredAt with
      | error error => rfl
      | ok late => cases late <;> rfl

/-- The location is one kind of the handler's events. -/
theorem location_unwinding :
    Interaction.Unwinding handle ShipmentEvent.Located Shipment.locationView where
  consistent := handle_locationView
  respects := handle_keeps_locationView

/-- The lifecycle is the other kind. -/
theorem lifecycle_unwinding :
    Interaction.Unwinding handle (fun event => ¬ event.Located) Shipment.lifecycleView where
  consistent := handle_lifecycleView
  respects := fun located => handle_keeps_lifecycleView (not_not.mp located)

end ShipmentEventHandler

/-- However location events and other events are interleaved, each event comes to the
same, and the shipments that are left behind differ in `updated_at` at most. -/
theorem timelines_do_not_interfere (shipment : Shipment)
    (locations lifecycle first second : List ShipmentEvent)
    (located : ∀ event ∈ locations, event.Located)
    (unlocated : ∀ event ∈ lifecycle, ¬ event.Located)
    (one : Interleaving locations lifecycle first)
    (two : Interleaving locations lifecycle second) :
    let firstRun := ShipmentEventHandler.handleAll shipment first
    let secondRun := ShipmentEventHandler.handleAll shipment second
    (firstRun.1.filter fun entry => decide entry.1.Located) =
        (secondRun.1.filter fun entry => decide entry.1.Located) ∧
      (firstRun.1.filter fun entry => decide (¬ entry.1.Located)) =
        (secondRun.1.filter fun entry => decide (¬ entry.1.Located)) ∧
      firstRun.2 = { secondRun.2 with updatedAt := firstRun.2.updatedAt } := by
  intro firstRun secondRun
  have sameLocations := (one.filter_left located unlocated).trans
    (two.filter_left located unlocated).symm
  have sameLifecycle := (one.filter_right located unlocated).trans
    (two.filter_right located unlocated).symm
  obtain ⟨locationAnswers, location⟩ :=
    ShipmentEventHandler.location_unwinding.handleAll_congr shipment sameLocations
  obtain ⟨lifecycleAnswers, status⟩ :=
    ShipmentEventHandler.lifecycle_unwinding.handleAll_congr shipment sameLifecycle
  exact ⟨locationAnswers, lifecycleAnswers, Shipment.eq_of_views location status⟩

def trackedParcel : Shipment :=
  Shipment.create ⟨1⟩ "reference" "origin" "destination" "carrier" (.utc 0)

/-- An event for the tracked parcel. -/
def trackedEvent (eventType : ShipmentEventType) (point : Int) (payload : Json) :
    ShipmentEvent where
  eventId := ⟨0⟩
  shipmentId := ⟨1⟩
  eventType := eventType
  source := .str "carrier"
  occurredAt := .utc point
  receivedAt := .utc point
  payload := .json payload

/-- A location event at a latitude and longitude of the same number of degrees. -/
def trackedSighting (point degrees : Int) : ShipmentEvent :=
  trackedEvent .locationUpdated point
    (.obj [("latitude", .int degrees), ("longitude", .int degrees)])

/-- A location, a late one and one without coordinates, before or after an illegal delivery
and the scheduling of the pickup. -/
theorem tracked_timelines_do_not_interfere :
    let locations := [trackedSighting 10 1, trackedSighting 5 2,
      trackedEvent .locationUpdated 12 .null]
    let lifecycle := [trackedEvent .delivered 3 (.obj []),
      trackedEvent .pickupScheduled 4 (.obj [])]
    let firstRun := ShipmentEventHandler.handleAll trackedParcel (locations ++ lifecycle)
    let secondRun := ShipmentEventHandler.handleAll trackedParcel (lifecycle ++ locations)
    firstRun.2.updatedAt ≠ secondRun.2.updatedAt ∧
      (firstRun.1.filter fun entry => decide (¬ entry.1.Located)) =
        (secondRun.1.filter fun entry => decide (¬ entry.1.Located)) ∧
      firstRun.2 = { secondRun.2 with updatedAt := firstRun.2.updatedAt } := by
  intro locations lifecycle firstRun secondRun
  have one : Interleaving locations lifecycle (locations ++ lifecycle) :=
    .left _ (.left _ (.left _ (.right _ (.right _ .nil))))
  have two : Interleaving locations lifecycle (lifecycle ++ locations) :=
    .right _ (.right _ (.left _ (.left _ (.left _ .nil))))
  have independent := timelines_do_not_interfere trackedParcel locations lifecycle _ _
    (by decide) (by decide) one two
  exact ⟨by decide, independent.2⟩

/-! ## The location -/

/-- Where a shipment is, and since when. -/
structure Whereabouts where
  latitude : Json
  longitude : Json
  since : Option DateTime
deriving DecidableEq, Repr

def Shipment.whereabouts (shipment : Shipment) : Whereabouts where
  latitude := shipment.currentLatitude
  longitude := shipment.currentLongitude
  since := shipment.lastLocationAt

/-- A register that the latest event writes. -/
def Whereabouts.move (place : Whereabouts) (event : ShipmentEvent) : Whereabouts :=
  match ShipmentEventHandler.locationPayload event.payload,
      ShipmentEventHandler.isLate place.since event.occurredAt with
  | .ok payload, .ok false =>
      { latitude := payload.latitude
        longitude := payload.longitude
        since := some event.occurredAt }
  | _, _ => place

/-- A location event for a shipment that the handler can read, with a timezone. -/
structure ShipmentEvent.WellFormed (shipment : Shipment) (event : ShipmentEvent) : Prop where
  located : event.Located
  house : event.shipmentId = shipment.id
  payload : ∃ payload, ShipmentEventHandler.locationPayload event.payload = .ok payload
  aware : event.occurredAt.aware = true

/-- Events of which the location events are the given ones in some order. -/
def Reordered (locations events : List ShipmentEvent) : Prop :=
  ∃ order lifecycle, order.Perm locations ∧ (∀ event ∈ lifecycle, ¬ event.Located) ∧
    Interleaving order lifecycle events

section Location

variable {shipment : Shipment} {event : ShipmentEvent}

/-- What the handler does with a well-formed event. -/
theorem ShipmentEventHandler.handle_whereabouts (wellFormed : event.WellFormed shipment) :
    (handle shipment event).2.id = shipment.id ∧
      (handle shipment event).2.whereabouts = shipment.whereabouts.move event := by
  obtain ⟨located, house, ⟨payload, decoded⟩, -⟩ := wellFormed
  have received : event.eventType ≠ .shipmentCreated := by
    rw [located]
    decide
  unfold ShipmentEvent.Located at located
  simp only [handle, house, ne_eq, not_true_eq_false, if_false, if_neg received, if_pos located,
    decoded, Whereabouts.move, Shipment.whereabouts]
  cases isLate shipment.lastLocationAt event.occurredAt with
  | error error => exact ⟨rfl, rfl⟩
  | ok late => cases late <;> exact ⟨rfl, rfl⟩

/-- Run lemma: well-formed events alone move the register. -/
theorem ShipmentEventHandler.handleAll_whereabouts {events : List ShipmentEvent} :
    ∀ {shipment : Shipment}, (∀ event ∈ events, event.WellFormed shipment) →
      (handleAll shipment events).2.whereabouts =
        events.foldl Whereabouts.move shipment.whereabouts := by
  induction events with
  | nil => exact fun _ => rfl
  | cons event events inductionHypothesis =>
      intro shipment wellFormed
      rw [List.forall_mem_cons] at wellFormed
      obtain ⟨same, moved⟩ := handle_whereabouts wellFormed.1
      have rest : ∀ other ∈ events, other.WellFormed (handle shipment event).2 := by
        intro other member
        obtain ⟨located, house, payload, aware⟩ := wellFormed.2 other member
        exact ⟨located, house.trans same.symm, payload, aware⟩
      rw [List.foldl_cons, ← moved, ← inductionHypothesis rest]
      rfl

end Location

/-! ### The register -/

namespace Whereabouts

variable {shipment : Shipment} {place : Whereabouts} {event first second : ShipmentEvent}
  {payload : LocationUpdatedPayload}

/-- The event is not late. -/
def Admits (place : Whereabouts) (event : ShipmentEvent) : Prop :=
  ShipmentEventHandler.isLate place.since event.occurredAt = .ok false

/-- A place as an event reports it. -/
def reported (event : ShipmentEvent) (payload : LocationUpdatedPayload) : Whereabouts where
  latitude := payload.latitude
  longitude := payload.longitude
  since := some event.occurredAt

theorem move_of_admits
    (decoded : ShipmentEventHandler.locationPayload event.payload = .ok payload)
    (admits : place.Admits event) : place.move event = reported event payload := by
  unfold Admits at admits
  simp only [move, decoded, admits, reported]

theorem move_of_not_admits (refuses : ¬ place.Admits event) : place.move event = place := by
  unfold Admits at refuses
  unfold move
  split
  · rename_i current
    exact absurd current refuses
  · rfl

/-- An event with a timezone is admitted by an unset clock, and by one with a timezone that
is not ahead of it. -/
theorem admits_iff (aware : event.occurredAt.aware = true) :
    place.Admits event ↔ ∀ clock ∈ place.since, clock.aware = true ∧
      clock.instant id ≤ event.occurredAt.instant id := by
  obtain ⟨latitude, longitude, since⟩ := place
  cases since with
  | none => simp [Admits, ShipmentEventHandler.isLate]
  | some clock =>
      obtain ⟨wall, offset⟩ := clock
      cases hasZone : event.occurredAt.utcoffset with
      | none => simp [DateTime.aware, hasZone] at aware
      | some eventOffset =>
          cases offset with
          | none =>
              simp [Admits, ShipmentEventHandler.isLate, DateTime.lt, hasZone, DateTime.aware]
          | some offset =>
              simp [Admits, ShipmentEventHandler.isLate, DateTime.lt, hasZone, DateTime.aware,
                DateTime.instant]

/-- What admits an event admits a later one. -/
theorem Admits.mono (admits : place.Admits first) (firstAware : first.occurredAt.aware = true)
    (secondAware : second.occurredAt.aware = true)
    (ordered : first.occurredAt.instant id ≤ second.occurredAt.instant id) :
    place.Admits second := by
  rw [admits_iff firstAware] at admits
  rw [admits_iff secondAware]
  intro clock set
  obtain ⟨clockAware, ahead⟩ := admits clock set
  exact ⟨clockAware, Int.le_trans ahead ordered⟩

/-- A place reported by an event admits what did not occur before it. -/
theorem reported_admits_iff (firstAware : first.occurredAt.aware = true)
    (secondAware : second.occurredAt.aware = true) :
    (reported first payload).Admits second ↔
      first.occurredAt.instant id ≤ second.occurredAt.instant id := by
  rw [admits_iff secondAware]
  simp [reported, firstAware]

/-- Two moves commute, the earlier of which is the first. -/
theorem move_comm_of_lt (one : first.WellFormed shipment) (two : second.WellFormed shipment)
    (before : first.occurredAt.instant id < second.occurredAt.instant id) :
    (place.move first).move second = (place.move second).move first := by
  obtain ⟨firstPayload, firstDecoded⟩ := one.payload
  obtain ⟨secondPayload, secondDecoded⟩ := two.payload
  -- the second event shuts out the first
  have shut : ¬ (reported second secondPayload).Admits first := by
    rw [reported_admits_iff two.aware one.aware]
    omega
  by_cases admitsFirst : place.Admits first
  · have admitsSecond := admitsFirst.mono one.aware two.aware (by omega)
    have next : (reported first firstPayload).Admits second := by
      rw [reported_admits_iff one.aware two.aware]
      omega
    rw [move_of_admits firstDecoded admitsFirst, move_of_admits secondDecoded next,
      move_of_admits secondDecoded admitsSecond, move_of_not_admits shut]
  · rw [move_of_not_admits admitsFirst]
    by_cases admitsSecond : place.Admits second
    · rw [move_of_admits secondDecoded admitsSecond, move_of_not_admits shut]
    · rw [move_of_not_admits admitsSecond, move_of_not_admits admitsFirst]

/-- Events that are not admitted leave the register alone. -/
theorem foldl_of_not_admits {events : List ShipmentEvent}
    (refuses : ∀ event ∈ events, ¬ place.Admits event) :
    events.foldl move place = place := by
  induction events with
  | nil => rfl
  | cons event events inductionHypothesis =>
      rw [List.forall_mem_cons] at refuses
      rw [List.foldl_cons, move_of_not_admits refuses.1]
      exact inductionHypothesis refuses.2

end Whereabouts

/-! ### Convergence -/

section Convergence

variable {shipment : Shipment} {locations events : List ShipmentEvent}

/-- Different instants of events with a timezone. -/
theorem DateTime.instant_ne_of_eq {one two : DateTime} (oneAware : one.aware = true)
    (twoAware : two.aware = true) (distinct : one.eq two = false) :
    one.instant id ≠ two.instant id := by
  obtain ⟨wall, offset⟩ := one
  obtain ⟨otherWall, otherOffset⟩ := two
  cases offset with
  | none => cases oneAware
  | some offset =>
      cases otherOffset with
      | none => cases twoAware
      | some otherOffset => simpa [DateTime.eq, DateTime.instant] using distinct

theorem DateTime.lt_aware {one two : DateTime} (oneAware : one.aware = true)
    (twoAware : two.aware = true) :
    one.lt two = .ok (decide (one.instant id < two.instant id)) := by
  obtain ⟨wall, offset⟩ := one
  obtain ⟨otherWall, otherOffset⟩ := two
  cases offset with
  | none => cases oneAware
  | some offset =>
      cases otherOffset with
      | none => cases twoAware
      | some otherOffset => rfl

/-- The order of well-formed events at different instants does not matter. -/
theorem foldl_move_perm {order : List ShipmentEvent} {place : Whereabouts}
    (permuted : order.Perm locations)
    (wellFormed : ∀ event ∈ locations, event.WellFormed shipment)
    (distinct : locations.Pairwise fun first second =>
      first.occurredAt.instant id ≠ second.occurredAt.instant id) :
    order.foldl Whereabouts.move place = locations.foldl Whereabouts.move place := by
  refine (permuted.symm.foldl_eq' ?_ place).symm
  intro first firstMember second secondMember place
  by_cases same : first = second
  · rw [same]
  have symmetric : Std.Symm fun first second : ShipmentEvent =>
      first.occurredAt.instant id ≠ second.occurredAt.instant id := ⟨fun _ _ => Ne.symm⟩
  have apart := distinct.forall firstMember secondMember same
  have one := wellFormed first firstMember
  have two := wellFormed second secondMember
  rcases Int.lt_or_gt_of_ne apart with before | after
  · exact Whereabouts.move_comm_of_lt one two before
  · exact (Whereabouts.move_comm_of_lt two one after).symm

/-- Whatever else is handled in between, the shipment ends where the location events alone
put it. -/
theorem Reordered.whereabouts (reordered : Reordered locations events)
    (wellFormed : ∀ event ∈ locations, event.WellFormed shipment)
    (distinct : locations.Pairwise fun first second =>
      first.occurredAt.instant id ≠ second.occurredAt.instant id) :
    (ShipmentEventHandler.handleAll shipment events).2.whereabouts =
      locations.foldl Whereabouts.move shipment.whereabouts := by
  obtain ⟨order, lifecycle, permuted, unlocated, interleaving⟩ := reordered
  have inOrder : ∀ event ∈ order, event.WellFormed shipment :=
    fun event member => wellFormed event (permuted.mem_iff.mp member)
  have selected := interleaving.filter_left (fun event member => (inOrder event member).located)
    unlocated
  have alone := (ShipmentEventHandler.location_unwinding.handleAll events
    (Eq.refl shipment.locationView)).2
  rw [selected] at alone
  calc (ShipmentEventHandler.handleAll shipment events).2.whereabouts
      = (ShipmentEventHandler.handleAll shipment order).2.whereabouts :=
        (congrArg Shipment.whereabouts alone :)
    _ = order.foldl Whereabouts.move shipment.whereabouts :=
        ShipmentEventHandler.handleAll_whereabouts inOrder
    _ = locations.foldl Whereabouts.move shipment.whereabouts :=
        foldl_move_perm permuted wellFormed distinct

/-- Well-formed location events of a shipment at different times leave it, in any order and
interleaved with any other events, at one and the same place: where the event with the
greatest time reports it, if that event is not late for the shipment as it was, and else
where it was. -/
theorem location_converges (shipment : Shipment) (locations : List ShipmentEvent)
    (wellFormed : ∀ event ∈ locations, event.WellFormed shipment)
    (distinct : locations.Pairwise fun first second =>
      first.occurredAt.eq second.occurredAt = false) :
    (∀ first second, Reordered locations first → Reordered locations second →
        (ShipmentEventHandler.handleAll shipment first).2.whereabouts =
          (ShipmentEventHandler.handleAll shipment second).2.whereabouts) ∧
      ∀ events, Reordered locations events →
        (locations = [] → (ShipmentEventHandler.handleAll shipment events).2.whereabouts =
          shipment.whereabouts) ∧
        ∀ latest ∈ locations, (∀ event ∈ locations,
            latest.occurredAt.lt event.occurredAt = .ok false) →
          ∀ payload, ShipmentEventHandler.locationPayload latest.payload = .ok payload →
          (ShipmentEventHandler.isLate shipment.lastLocationAt latest.occurredAt = .ok false →
            (ShipmentEventHandler.handleAll shipment events).2.whereabouts =
              { latitude := payload.latitude
                longitude := payload.longitude
                since := some latest.occurredAt }) ∧
          (ShipmentEventHandler.isLate shipment.lastLocationAt latest.occurredAt ≠ .ok false →
            (ShipmentEventHandler.handleAll shipment events).2.whereabouts =
              shipment.whereabouts) := by
  have instants : locations.Pairwise fun first second =>
      first.occurredAt.instant id ≠ second.occurredAt.instant id := by
    refine distinct.imp_of_mem ?_
    intro first second firstMember secondMember apart
    exact DateTime.instant_ne_of_eq (wellFormed first firstMember).aware
      (wellFormed second secondMember).aware apart
  refine ⟨?_, ?_⟩
  · intro first second one two
    rw [one.whereabouts wellFormed instants, two.whereabouts wellFormed instants]
  intro events reordered
  rw [reordered.whereabouts wellFormed instants]
  refine ⟨?_, ?_⟩
  · intro empty
    rw [empty]
    rfl
  intro latest member greatest payload decoded
  obtain ⟨before, after, split⟩ := List.append_of_mem member
  have fronted : (latest :: (before ++ after)).Perm locations := by
    rw [split]
    exact List.perm_middle.symm
  rw [← foldl_move_perm fronted wellFormed instants, List.foldl_cons]
  -- nothing else occurred at or after the time of the greatest
  have earlier : ∀ event ∈ before ++ after,
      event.occurredAt.instant id < latest.occurredAt.instant id := by
    intro event other
    have inside : event ∈ locations := fronted.mem_iff.mp (List.mem_cons_of_mem _ other)
    have frontedApart : (latest :: (before ++ after)).Pairwise fun first second =>
        first.occurredAt.instant id ≠ second.occurredAt.instant id :=
      instants.perm fronted.symm fun apart => apart.symm
    have apart := List.rel_of_pairwise_cons frontedApart other
    have notAfter := greatest event inside
    rw [DateTime.lt_aware (wellFormed latest member).aware (wellFormed event inside).aware,
      Except.ok.injEq, decide_eq_false_iff_not] at notAfter
    omega
  refine ⟨?_, ?_⟩
  · intro current
    have current : shipment.whereabouts.Admits latest := current
    rw [Whereabouts.move_of_admits decoded current]
    refine Whereabouts.foldl_of_not_admits ?_
    intro event other
    have inside : event ∈ locations := fronted.mem_iff.mp (List.mem_cons_of_mem _ other)
    rw [Whereabouts.reported_admits_iff (wellFormed latest member).aware
      (wellFormed event inside).aware]
    exact Int.not_le.mpr (earlier event other)
  · intro late
    have late : ¬ shipment.whereabouts.Admits latest := late
    rw [Whereabouts.move_of_not_admits late]
    refine Whereabouts.foldl_of_not_admits ?_
    intro event other admits
    have inside : event ∈ locations := fronted.mem_iff.mp (List.mem_cons_of_mem _ other)
    exact late (admits.mono (wellFormed event inside).aware (wellFormed latest member).aware
      (Int.le_of_lt (earlier event other)))

end Convergence

/-- Three locations in an order in which two of them are late, and among them an illegal
delivery and the scheduling of the pickup. -/
theorem tracked_location_converges :
    (ShipmentEventHandler.handleAll trackedParcel
      [trackedSighting 30 3, trackedEvent .delivered 40 (.obj []), trackedSighting 10 1,
        trackedEvent .pickupScheduled 4 (.obj []), trackedSighting 20 2]).2.whereabouts =
      { latitude := .int 3
        longitude := .int 3
        since := some (.utc 30) } := by
  have wellFormed : ∀ event ∈ [trackedSighting 10 1, trackedSighting 20 2,
      trackedSighting 30 3], event.WellFormed trackedParcel := by
    intro event member
    simp only [List.mem_cons, List.not_mem_nil, or_false] at member
    rcases member with rfl | rfl | rfl <;> exact ⟨rfl, rfl, ⟨_, rfl⟩, rfl⟩
  have reordered : Reordered
      [trackedSighting 10 1, trackedSighting 20 2, trackedSighting 30 3]
      [trackedSighting 30 3, trackedEvent .delivered 40 (.obj []), trackedSighting 10 1,
        trackedEvent .pickupScheduled 4 (.obj []), trackedSighting 20 2] :=
    ⟨[trackedSighting 30 3, trackedSighting 10 1, trackedSighting 20 2],
      [trackedEvent .delivered 40 (.obj []), trackedEvent .pickupScheduled 4 (.obj [])],
      by decide, by decide, .left _ (.right _ (.left _ (.right _ (.left _ .nil))))⟩
  exact ((location_converges trackedParcel _ wellFormed (by decide)).2 _ reordered).2
    (trackedSighting 30 3) (by decide) (by decide)
    { latitude := .int 3, longitude := .int 3 } rfl |>.1 rfl

end Freight
