/-
Module: Freight.Proofs.Lateness
Purpose: The lateness of a recorded event is a matter of the recorded history
  alone, although the code compares with one clock: the clock of a timeline is the
  maximum of what has been recorded on it.
Trusted boundary: none
Main exports:
  Timeline, ShipmentEventType.timeline, Database.timeline, ShipmentModel.clock,
  ShipmentEventHandler.handle_clock, Watermarked, Episode.watermarked,
  lateness_is_history
-/
import Freight.Proofs.Episodes

namespace Freight

open Interaction (ProcessId)

/-! ## Timelines -/

inductive Timeline where
  | lifecycle
  | location
deriving DecidableEq, Repr

/-- The timeline of an event; a creation is on neither. -/
def ShipmentEventType.timeline : ShipmentEventType → Option Timeline
  | .shipmentCreated => none
  | .locationUpdated => some .location
  | _ => some .lifecycle

theorem ShipmentEventType.timeline_eq_location {eventType : ShipmentEventType} :
    eventType.timeline = some .location ↔ eventType = .locationUpdated := by
  cases eventType <;> decide

theorem ShipmentEventType.timeline_eq_lifecycle {eventType : ShipmentEventType} :
    eventType.timeline = some .lifecycle ↔
      eventType ≠ .shipmentCreated ∧ eventType ≠ .locationUpdated := by
  cases eventType <;> decide

/-- The recorded events on one timeline of a shipment, in the order of their
recording. -/
def Database.timeline (database : Database) (id : UUID) (timeline : Timeline) :
    List ShipmentEventModel :=
  (database.history id).filter fun row => row.eventType.timeline = some timeline

/-- The clock of a timeline. -/
def Shipment.clock (shipment : Shipment) : Timeline → Option DateTime
  | .lifecycle => shipment.lastLifecycleAt
  | .location => shipment.lastLocationAt

def ShipmentModel.clock (row : ShipmentModel) (timeline : Timeline) : Option DateTime :=
  (ShipmentMapper.toDomain row).clock timeline

/-- What an accepted event does to the clocks: its lateness decides its status, and
an applied event sets the clock of its own timeline. -/
theorem ShipmentEventHandler.handle_clock {shipment after : Shipment} {event : ShipmentEvent}
    {status : ShipmentEventProcessingStatus}
    (handled : handle shipment event = (.ok status, after)) :
    ∃ timeline, event.eventType.timeline = some timeline ∧
      (∀ other, other ≠ timeline → after.clock other = shipment.clock other) ∧
      ((status = .storedOutOfOrder ∧ after = shipment ∧
          isLate (shipment.clock timeline) event.occurredAt = .ok true) ∨
        (status = .applied ∧ after.clock timeline = some event.occurredAt ∧
          isLate (shipment.clock timeline) event.occurredAt = .ok false)) := by
  obtain ⟨-, received, ⟨located, payload, -, moved⟩ | ⟨lifecycle, moved⟩⟩ :=
    handle_cases handled
  · refine ⟨.location, ShipmentEventType.timeline_eq_location.mpr located, ?_⟩
    rcases moved with ⟨late, rfl, clock⟩ | ⟨applied, rfl, clock⟩
    · exact ⟨fun _ _ => rfl, .inl ⟨late, rfl, clock⟩⟩
    · refine ⟨fun other different => ?_, .inr ⟨applied, rfl, clock⟩⟩
      cases other with
      | lifecycle => rfl
      | location => exact absurd rfl different
  · refine ⟨.lifecycle, ShipmentEventType.timeline_eq_lifecycle.mpr ⟨received, lifecycle⟩, ?_⟩
    rcases moved with ⟨late, rfl, clock⟩ | ⟨applied, clock, next, edge, rfl⟩
    · exact ⟨fun _ _ => rfl, .inl ⟨late, rfl, clock⟩⟩
    · refine ⟨fun other different => ?_, .inr ⟨applied, rfl, clock⟩⟩
      cases other with
      | lifecycle => exact absurd rfl different
      | location => rfl

/-! ## Comparing with a stored clock -/

section Clocks

variable {postgres : Postgres}

/-- The instant of a recorded event. -/
def ShipmentEventModel.instant (row : ShipmentEventModel) (postgres : Postgres) : Int :=
  row.occurredAt.instant postgres.localize

/-- A stored clock is compared with as an instant. -/
theorem isLate_stored {clock : Option DateTime} {occurredAt : DateTime} {late : Bool}
    (stored : clock.map postgres.timestamptz = clock)
    (compared : ShipmentEventHandler.isLate clock occurredAt = .ok late) :
    late = true ↔ ∃ point ∈ clock.map (DateTime.instant postgres.localize),
      occurredAt.instant postgres.localize < point := by
  cases clock with
  | none =>
      cases compared
      simp
  | some clock =>
      have utc : postgres.timestamptz clock = clock := by simpa using stored
      rw [Postgres.timestamptz] at utc
      rw [ShipmentEventHandler.isLate, ← utc] at compared
      obtain ⟨wall, offset⟩ := occurredAt
      cases offset with
      | none => cases compared
      | some offset =>
          rw [DateTime.lt_utc _ rfl _ postgres.localize] at compared
          cases compared
          simp

end Clocks

/-! ## The watermark -/

section Watermarks

variable {postgres : Postgres} {request : Request} {id : UUID} {before after : Database}

/-- Every event of a list is stored out of order if and only if one before it
occurred later. -/
def Classified (postgres : Postgres) (events : List ShipmentEventModel) : Prop :=
  ∀ earlier event later, events = earlier ++ event :: later →
    (event.processingStatus = .storedOutOfOrder ↔
      ∃ other ∈ earlier, event.instant postgres < other.instant postgres)

theorem Classified.snoc {events : List ShipmentEventModel} {event : ShipmentEventModel}
    (classified : Classified postgres events)
    (last : event.processingStatus = .storedOutOfOrder ↔
      ∃ other ∈ events, event.instant postgres < other.instant postgres) :
    Classified postgres (events ++ [event]) := by
  intro earlier current later split
  rcases List.eq_nil_or_concat later with rfl | ⟨shorter, final, rfl⟩
  · obtain ⟨rfl, same⟩ := List.append_inj' split rfl
    cases same
    exact last
  · have regrouped : events ++ [event] = (earlier ++ current :: shorter) ++ [final] := by
      simpa using split
    exact classified earlier current shorter (List.append_inj' regrouped rfl).1

/-- The clock of a timeline is the maximum of its events, and there is none where
there are no events. -/
def Watermark (postgres : Postgres) (clock : Option DateTime)
    (events : List ShipmentEventModel) : Prop :=
  clock.map (DateTime.instant postgres.localize) =
    (events.map fun event => event.instant postgres).max?

/-- An event is late for a watermark when one of the events occurred later. -/
theorem Watermark.exists_later_iff {clock : Option DateTime}
    {events : List ShipmentEventModel} (watermark : Watermark postgres clock events)
    (point : Int) :
    (∃ top ∈ clock.map (DateTime.instant postgres.localize), point < top) ↔
      ∃ other ∈ events, point < other.instant postgres := by
  rw [watermark]
  constructor
  · intro late
    obtain ⟨top, maximum, later⟩ := late
    obtain ⟨member, -⟩ := List.max?_eq_some_iff.mp maximum
    obtain ⟨other, present, same⟩ := List.mem_map.mp member
    exact ⟨other, present, same ▸ later⟩
  · intro late
    obtain ⟨other, present, later⟩ := late
    have member : other.instant postgres ∈ events.map fun event => event.instant postgres :=
      List.mem_map_of_mem present
    cases maximum : (events.map fun event => event.instant postgres).max? with
    | none =>
        rw [List.max?_eq_none_iff.mp maximum] at member
        cases member
    | some top =>
        obtain ⟨-, above⟩ := List.max?_eq_some_iff.mp maximum
        exact ⟨top, rfl, Int.lt_of_lt_of_le later (above _ member)⟩

/-- A late event leaves the watermark where it is. -/
theorem Watermark.snoc_late {clock : Option DateTime} {events : List ShipmentEventModel}
    {event : ShipmentEventModel} (watermark : Watermark postgres clock events)
    (late : ∃ top ∈ clock.map (DateTime.instant postgres.localize),
      event.instant postgres < top) :
    Watermark postgres clock (events ++ [event]) := by
  obtain ⟨top, clocked, later⟩ := late
  rw [Watermark, Option.mem_def.mp clocked] at watermark ⊢
  obtain ⟨member, above⟩ := List.max?_eq_some_iff.mp watermark.symm
  refine (List.max?_eq_some_iff.mpr ⟨?_, ?_⟩).symm
  · rw [List.map_append]
    exact List.mem_append_left _ member
  · intro point present
    rw [List.map_append] at present
    rcases List.mem_append.mp present with earlier | last
    · exact above point earlier
    · rw [List.mem_singleton.mp last]
      exact Int.le_of_lt later

/-- An event that is not late moves the watermark to itself. -/
theorem Watermark.snoc_current {clock : Option DateTime} {events : List ShipmentEventModel}
    {event : ShipmentEventModel} (watermark : Watermark postgres clock events)
    (current : ¬ ∃ top ∈ clock.map (DateTime.instant postgres.localize),
      event.instant postgres < top) :
    Watermark postgres (some event.occurredAt) (events ++ [event]) := by
  rw [watermark.exists_later_iff] at current
  refine (List.max?_eq_some_iff.mpr ⟨?_, ?_⟩).symm
  · rw [List.map_append]
    exact List.mem_append_right _ (by simp [ShipmentEventModel.instant])
  · intro point present
    rw [List.map_append] at present
    rcases List.mem_append.mp present with earlier | last
    · obtain ⟨other, member, same⟩ := List.mem_map.mp earlier
      subst same
      exact Int.not_lt.mp fun later => current ⟨other, member, later⟩
    · rw [List.mem_singleton.mp last]
      exact Int.le_refl _

/-- The clocks of a shipment are the watermarks of its timelines, and the statuses
of its events follow from the history. -/
structure Watermarked (postgres : Postgres) (database : Database) (id : UUID) : Prop where
  absent : database.shipment id = none → database.history id = []
  stored : ∀ row, database.shipment id = some row → row.Stored postgres
  watermark : ∀ row, database.shipment id = some row → ∀ timeline,
    Watermark postgres (row.clock timeline) (database.timeline id timeline)
  classified : ∀ timeline, Classified postgres (database.timeline id timeline)

/-- A timeline after a recording. -/
theorem Database.timeline_snoc {event : ShipmentEventModel}
    (events : after.history id = before.history id ++ [event]) (timeline : Timeline) :
    after.timeline id timeline = before.timeline id timeline ++
      if event.eventType.timeline = some timeline then [event] else [] := by
  rw [Database.timeline, events, List.filter_append]
  by_cases own : event.eventType.timeline = some timeline <;> simp [own, Database.timeline]

theorem ShipmentModel.Stored.clock {row : ShipmentModel} (stored : row.Stored postgres)
    (timeline : Timeline) : (row.clock timeline).map postgres.timestamptz = row.clock timeline := by
  have columns := ShipmentModel.stored_iff.mp stored
  cases timeline with
  | lifecycle => exact columns.lastLifecycleAt
  | location => exact columns.lastLocationAt

/-- The clocks that a projection leaves. -/
theorem Reception.projected_clock {reception : Reception} (unmoved : reception.Unmoved)
    (stored : reception.row.Stored postgres)
    (handled : ShipmentEventHandler.handle (ShipmentMapper.toDomain reception.row)
      reception.event = (.ok reception.status, reception.after)) (timeline : Timeline) :
    (reception.projected postgres).clock timeline =
      (reception.after.clock timeline).map postgres.timestamptz := by
  have written := (Reception.projection_of_handled unmoved stored handled).written
  cases timeline with
  | lifecycle => exact written.lastLifecycleAt
  | location => exact written.lastLocationAt

/-- Step lemma: every episode keeps the clocks at the watermarks. -/
theorem Episode.watermarked (episode : Episode postgres request id before after)
    (kept : Watermarked postgres before id) : Watermarked postgres after id := by
  cases episode with
  | silent shipment events =>
      obtain ⟨absent, stored, watermark, classified⟩ := kept
      have timelines : ∀ timeline, after.timeline id timeline = before.timeline id timeline :=
        fun timeline => by rw [Database.timeline, events, Database.timeline]
      exact
        { absent := by rw [shipment, events]; exact absent
          stored := by rw [shipment]; exact stored
          watermark := by
            intro row found timeline
            rw [timelines]
            exact watermark row (shipment ▸ found) timeline
          classified := by
            intro timeline
            rw [timelines]
            exact classified timeline }
  | created creation own fresh shipment events =>
      have none : ∀ timeline, after.timeline id timeline = [] := by
        intro timeline
        have creations : (creation.eventRow postgres).eventType.timeline = Option.none := rfl
        rw [Database.timeline_snoc events, creations, Database.timeline, kept.absent fresh]
        rfl
      exact
        { absent := fun missing => by rw [shipment] at missing; cases missing
          stored := by
            intro row found
            cases shipment.symm.trans found
            exact ShipmentModel.stored_shipmentRow _
          watermark := by
            intro row found timeline
            cases shipment.symm.trans found
            rw [none]
            cases timeline <;> rfl
          classified := by
            intro timeline earlier event later split
            rw [none] at split
            simp at split }
  | received reception reports own found unmoved handled unrecorded shipment events =>
      have stored := kept.stored _ found
      have clocks := Reception.projected_clock unmoved stored handled
      have columns : (reception.eventRow postgres).eventType = reception.event.eventType ∧
          (reception.eventRow postgres).processingStatus = reception.status ∧
          (reception.eventRow postgres).occurredAt =
            postgres.timestamptz reception.event.occurredAt := ⟨rfl, rfl, rfl⟩
      have instant : (reception.eventRow postgres).instant postgres =
          reception.event.occurredAt.instant postgres.localize := instant_timestamptz _
      obtain ⟨own, placed, others, moved⟩ := ShipmentEventHandler.handle_clock handled
      have watermark := kept.watermark _ found own
      -- the event is late exactly when its status says so
      have late : (reception.eventRow postgres).processingStatus = .storedOutOfOrder ↔
          ∃ top ∈ (reception.row.clock own).map (DateTime.instant postgres.localize),
            (reception.eventRow postgres).instant postgres < top := by
        rw [columns.2.1, instant]
        rcases moved with ⟨status, -, compared⟩ | ⟨status, -, compared⟩
        · rw [status, ← isLate_stored (stored.clock own) compared]
          simp
        · rw [status, ← isLate_stored (stored.clock own) compared]
          simp
      refine ⟨fun missing => ?_, ?_, ?_, ?_⟩
      · rw [shipment] at missing
        cases missing
      · intro row left
        cases shipment.symm.trans left
        exact (Reception.projection_of_handled unmoved stored handled).stored
      · intro row left timeline
        cases shipment.symm.trans left
        rw [Database.timeline_snoc events, columns.1, placed, clocks timeline]
        by_cases same : timeline = own
        · subst same
          rw [if_pos rfl]
          rcases moved with ⟨status, unchanged, -⟩ | ⟨status, set, -⟩
          · rw [unchanged]
            change Watermark postgres ((reception.row.clock timeline).map _) _
            rw [stored.clock timeline]
            exact watermark.snoc_late (late.mp (columns.2.1.trans status))
          · rw [set, Option.map_some, ← columns.2.2]
            refine watermark.snoc_current fun later => ?_
            have ordered := late.mpr later
            rw [columns.2.1, status] at ordered
            cases ordered
        · rw [if_neg (fun equality => same (Option.some.inj equality).symm), List.append_nil,
            others timeline same]
          change Watermark postgres ((reception.row.clock timeline).map _) _
          rw [stored.clock timeline]
          exact kept.watermark _ found timeline
      · intro timeline
        rw [Database.timeline_snoc events, columns.1, placed]
        by_cases same : timeline = own
        · subst same
          rw [if_pos rfl]
          exact (kept.classified timeline).snoc (late.trans (watermark.exists_later_iff _))
        · rw [if_neg (fun equality => same (Option.some.inj equality).symm), List.append_nil]
          exact kept.classified timeline

end Watermarks

section Runs

variable {server : Server} {quiet : Prop} {requests : ProcessId → Request}
  {wal : List Transaction} {id : UUID}

/-- Empty tables have nothing on either timeline. -/
theorem Watermarked.empty (postgres : Postgres) (id : UUID) : Watermarked postgres {} id where
  absent _ := rfl
  stored _ found := by cases found
  watermark _ found := by cases found
  classified timeline earlier event later split := by
    simp [Database.timeline, Database.history] at split

/-- Run lemma: at every point of a log from empty tables whose receptions of a
shipment do not overlap, its clocks are the watermarks of its timelines. -/
theorem History.watermarked (history : History server {} quiet requests wal)
    (apart : NonOverlapping wal id) (count : Nat) :
    Watermarked server.postgres (replay {} (wal.take count)) id :=
  history.sequential_induction apart (Watermarked.empty _ id)
    (fun _ _ _ kept episode => episode.watermarked kept) count

end Runs

/-- From empty tables, under any requests of which no two receptions of a shipment
overlap: an event of a timeline was stored out of order if and only if an event
recorded before it on that timeline occurred strictly later, and the clock of the
timeline is the latest occurrence on it, and unset when there is none. -/
theorem lateness_is_history (server : Server) (requests : ProcessId → Request)
    (state : PlatformState) (reached : (platform server requests).Reachable {} state)
    (id : UUID) (apart : NonOverlapping state.world.wal id) (timeline : Timeline) :
    (∀ earlier event later,
        state.world.database.timeline id timeline = earlier ++ event :: later →
        (event.processingStatus = .storedOutOfOrder ↔
          ∃ other ∈ earlier, event.instant server.postgres < other.instant server.postgres)) ∧
      ∀ row, state.world.database.shipment id = some row →
        (row.clock timeline).map (DateTime.instant server.postgres.localize) =
          ((state.world.database.timeline id timeline).map fun event =>
            event.instant server.postgres).max? := by
  have keyed : ({} : Database).outboxKeys.Nodup := List.nodup_nil
  have kept : Invariant server {} False requests state.world :=
    platform_invariant keyed reached
  have watermarked := kept.history.watermarked apart state.world.wal.length
  rw [List.take_length] at watermarked
  rw [World.database, kept.start]
  exact ⟨watermarked.classified timeline, fun row found =>
    watermarked.watermark row found timeline⟩

/-! ## A late location -/

/-- The turns of a delivery that is recorded, with or without an update of the
projection. -/
def deliverTurns (process : ProcessId) (messageId : BitVec 128) (updates : Bool) :
    List (Interaction.System.Action Choice) :=
  turns process
    ([.proceed, .proceed, .proceed, .proceed, .proceed, .uuid ⟨messageId⟩, .proceed,
      .time (.utc 32), .proceed] ++ List.replicate (if updates then 4 else 3) .proceed)

/-- A creation and two locations, the later one first. -/
def lateLocation : ProcessId → Request
  | 0 => journey 0
  | 1 => .handleEvent none (located 8 25)
  | 2 => .handleEvent none (located 9 22)
  | _ => .publishOne 1000

def lateLocationSchedule : List (Interaction.System.Action Choice) :=
  createTurns 0 ++ deliverTurns 1 101 true ++ deliverTurns 2 102 false

theorem lateLocationSchedule_runs :
    (((platform Server.utc lateLocation).run lateLocationSchedule
      ((platform Server.utc lateLocation).initial {})).map fun state =>
        (decide (NonOverlapping state.world.wal parcel),
          (state.world.database.timeline parcel .location).map
            ShipmentEventModel.processingStatus,
          (state.world.database.shipment parcel).map ShipmentModel.lastLocationAt)) =
      some (true, [.applied, .storedOutOfOrder], some (some (.utc 25))) := by
  decide +kernel

/-- The second location is stored out of order because of the first. -/
theorem lateLocation_lateness :
    ∃ (state : PlatformState) (first second : ShipmentEventModel),
      (platform Server.utc lateLocation).Reachable {} state ∧
      state.world.database.timeline parcel .location = [first, second] ∧
      second.processingStatus = .storedOutOfOrder ∧
      ∃ other ∈ [first], second.instant .utc < other.instant .utc := by
  obtain ⟨state, ran, shown⟩ := Option.map_eq_some_iff.mp lateLocationSchedule_runs
  obtain ⟨apart, rest⟩ := Prod.mk.inj shown
  obtain ⟨first, others, shape, -, tail⟩ := List.map_eq_cons_iff.mp (Prod.mk.inj rest).1
  obtain ⟨second, none, rfl, late, nothing⟩ := List.map_eq_cons_iff.mp tail
  cases List.map_eq_nil_iff.mp nothing
  have reached : (platform Server.utc lateLocation).Reachable {} state :=
    ⟨lateLocationSchedule, ran⟩
  obtain ⟨classified, -⟩ := lateness_is_history Server.utc lateLocation state reached parcel
    (of_decide_eq_true apart) .location
  exact ⟨state, first, second, reached, shape, late,
    (classified [first] second [] shape).mp late⟩

end Freight
