/-
Module: Freight.Proofs.LifecycleLanguage
Purpose: The lifecycle events of a shipment that were recorded as applied form the
  beginnings of the lifecycles, in the order of their occurrence, and nothing else.
Trusted boundary: none
Main exports:
  Database.applied, Classified.applied_ordered, Replayed.run_applied
-/
import Freight.Domain.Lifecycle
import Freight.Proofs.EventFold
import Freight.Proofs.Lateness
import Freight.Store.Sequence

namespace Freight

open Interaction (ProcessId)
open ShipmentStateMachine (run)

/-! ## What has been applied -/

/-- The events on one timeline of a shipment that were applied, in the order of their
recording. -/
def Database.applied (database : Database) (id : UUID) (timeline : Timeline) :
    List ShipmentEventModel :=
  (database.timeline id timeline).filter fun row => row.processingStatus = .applied

/-- The events of the lifecycle among those that were applied. -/
theorem lifecycleEvents_appliedEvents (database : Database) (id : UUID) :
    (lifecycleEvents (appliedEvents database id)).map ShipmentEvent.eventType =
      (database.applied id .lifecycle).map ShipmentEventModel.eventType := by
  have types : ShipmentEvent.eventType ∘ EventMapper.toDomain =
      ShipmentEventModel.eventType := rfl
  rw [lifecycleEvents, appliedEvents, List.filter_map, List.map_map, types,
    Database.applied, Database.timeline, Database.history, List.filter_filter,
    List.filter_filter, List.filter_filter]
  congr 1
  apply List.filter_congr
  intro row _
  have own : row.eventType.timeline = some .lifecycle ↔
      row.eventType ≠ .shipmentCreated ∧ row.eventType ≠ .locationUpdated :=
    ShipmentEventType.timeline_eq_lifecycle
  apply Bool.eq_iff_iff.mpr
  have same : (EventMapper.toDomain row).eventType = row.eventType := rfl
  simp only [Function.comp, own, Bool.and_eq_true, decide_eq_true_eq]
  rw [same]
  tauto

/-- Events that were classified by their lateness were applied in the order of their
occurrence. -/
theorem Classified.applied_ordered {postgres : Postgres} {events : List ShipmentEventModel} :
    Classified postgres events →
      (events.filter fun row => row.processingStatus = .applied).Pairwise
        fun first second => first.instant postgres ≤ second.instant postgres := by
  induction events using List.reverseRecOn with
  | nil => exact fun _ => .nil
  | append_singleton events event inductionHypothesis =>
      intro classified
      have earlier : Classified postgres events := by
        intro before current after split
        refine classified before current (after ++ [event]) ?_
        rw [split]
        simp
      rw [List.filter_append]
      refine List.pairwise_append.mpr ⟨inductionHypothesis earlier, ?_, ?_⟩
      · exact (List.pairwise_singleton _ _).filter _
      · intro first member second last
        obtain ⟨same, applied⟩ := List.mem_filter.mp last
        cases List.mem_singleton.mp same
        refine Int.not_lt.mp fun later => ?_
        have stored := (classified events event [] rfl).mpr
          ⟨first, (List.mem_filter.mp member).1, later⟩
        rw [stored] at applied
        cases of_decide_eq_true applied

/-- The status of a shipment is where its applied events lead from CREATED. -/
theorem Replayed.run_applied {postgres : Postgres} {database : Database} {id : UUID}
    {row : ShipmentModel} (replayed : Replayed postgres database id)
    (found : database.shipment id = some row) :
    run .created ((database.applied id .lifecycle).map ShipmentEventModel.eventType) =
      some row.status := by
  obtain ⟨shipment, folded, projects⟩ := replayed.folded row found
  rw [← lifecycleEvents_appliedEvents, projects.status]
  exact (applyEvents_folded folded).status

/-! ## Growing histories -/

theorem Database.shipmentEvents_grows (database : Database) (writes : List Write) :
    database.shipmentEvents <+: (database.writeAll writes).shipmentEvents := by
  induction writes using List.reverseRecOn with
  | nil => exact List.prefix_refl _
  | append_singleton writes write inductionHypothesis =>
      rw [Database.writeAll_append]
      refine inductionHypothesis.trans ?_
      cases write with
      | insertEvent row => exact List.prefix_append _ _
      | _ => exact List.prefix_refl _

theorem replay_shipmentEvents_grows (base : Database) (wal : List Transaction)
    (count : Nat) :
    (replay base (wal.take count)).shipmentEvents <+: (replay base wal).shipmentEvents := by
  conv_rhs => rw [← List.take_append_drop count wal, replay_append]
  induction wal.drop count using List.reverseRecOn with
  | nil => exact List.prefix_refl _
  | append_singleton more transaction inductionHypothesis =>
      rw [replay_snoc]
      exact inductionHypothesis.trans (Database.shipmentEvents_grows _ _)

/-- What has been applied stays at the beginning of what is applied later. -/
theorem replay_applied_grows (base : Database) (wal : List Transaction) (count : Nat)
    (id : UUID) (timeline : Timeline) :
    (replay base (wal.take count)).applied id timeline <+:
      (replay base wal).applied id timeline :=
  (((replay_shipmentEvents_grows base wal count).filter _).filter _).filter _

/-! ## Submitting a lifecycle -/

/-- A lifecycle event that is not late and whose transition is defined is applied. -/
theorem ShipmentEventHandler.handle_applied {shipment : Shipment} {event : ShipmentEvent}
    {next : ShipmentStatus} (same : event.shipmentId = shipment.id)
    (lifecycle : event.eventType.timeline = some .lifecycle)
    (current : isLate shipment.lastLifecycleAt event.occurredAt = .ok false)
    (edge : ShipmentStateMachine.transitions shipment.status event.eventType = some next) :
    ∃ after, handle shipment event = (.ok .applied, after) ∧ after.status = next ∧
      after.lastLifecycleAt = some event.occurredAt := by
  obtain ⟨received, unlocated⟩ := ShipmentEventType.timeline_eq_lifecycle.mp lifecycle
  have moved : ShipmentStateMachine.transition shipment.status event.eventType = .ok next :=
    ShipmentStateMachine.transition_ok_iff.mpr edge
  refine ⟨{ shipment with
    status := next
    updatedAt := event.occurredAt
    lastLifecycleAt := some event.occurredAt }, ?_, rfl, rfl⟩
  simp [handle, same, received, unlocated, current, Shipment.changeStatus, moved]

theorem ShipmentStateMachine.transitions_shipmentCreated (status : ShipmentStatus) :
    transitions status .shipmentCreated = none := by
  cases status <;> rfl

/-- What the API and the decoder of the worker check in a lifecycle event. -/
structure ShipmentEvent.Submittable (event : ShipmentEvent) (postgres : Postgres) : Prop where
  aware : event.occurredAt.aware = true
  object : event.payload.plain.isDict = true
  source : postgres.varchar event.source ≠ .null

section Submissions

variable {postgres : Postgres} {id : UUID} {done todo : List ShipmentEvent}
  {before after : Database} {reported : ShipmentEvent} {receivedAt : DateTime}
  {request : Request}

/-- How far the submission of lifecycle events has come: those done have been applied,
and nothing else is on the timeline; those to do have not been recorded. -/
structure OnCourse (postgres : Postgres) (id : UUID) (done todo : List ShipmentEvent)
    (database : Database) : Prop where
  row : ∃ row, database.shipment id = some row ∧ row.Stored postgres ∧
    run .created (done.map ShipmentEvent.eventType) = some row.status ∧
    row.lastLifecycleAt =
      (done.getLast?.map ShipmentEvent.occurredAt).map postgres.timestamptz
  recorded : (database.timeline id .lifecycle).map
      (fun row => (row.eventId, row.processingStatus)) =
    done.map fun event => (event.eventId, .applied)
  unrecorded : ∀ event ∈ todo, database.event event.eventId = none

/-- A timeline after one more event. -/
theorem Database.timeline_concat {event : ShipmentEventModel}
    (events : after.shipmentEvents = before.shipmentEvents ++ [event]) (timeline : Timeline) :
    after.timeline id timeline = before.timeline id timeline ++
      if event.shipmentId = id ∧ event.eventType.timeline = some timeline then [event]
      else [] := by
  have history := Database.history_snoc before after event id events
  by_cases own : event.shipmentId = id
  · rw [if_pos own] at history
    rw [Database.timeline_snoc history]
    simp [own]
  · rw [if_neg own, List.append_nil] at history
    rw [Database.timeline, history, Database.timeline]
    simp [own]

/-- A location leaves the lifecycle of a shipment alone. -/
theorem ShipmentEventHandler.handle_located {shipment moved : Shipment}
    {event : ShipmentEvent} {status : ShipmentEventProcessingStatus}
    (located : event.eventType = .locationUpdated)
    (handled : handle shipment event = (.ok status, moved)) :
    moved.status = shipment.status ∧ moved.lastLifecycleAt = shipment.lastLifecycleAt := by
  obtain ⟨-, -, ⟨-, payload, -, ⟨-, rfl, -⟩ | ⟨-, rfl, -⟩⟩ | ⟨unlocated, -⟩⟩ :=
    handle_cases handled
  · exact ⟨rfl, rfl⟩
  · exact ⟨rfl, rfl⟩
  · exact absurd located unlocated

/-- The event that a verdict is about. -/
abbrev ShipmentEvent.receivedAs (event : ShipmentEvent) (receivedAt : DateTime) :
    ShipmentEvent :=
  { event with receivedAt := receivedAt }

/-- Step lemma: a location, whatever becomes of it, leaves the course as it is. -/
theorem OnCourse.location (course : OnCourse postgres id done todo before)
    (located : reported.eventType = .locationUpdated)
    (others : ∀ event ∈ todo, reported.eventId ≠ event.eventId)
    (leaves : (ReceiveShipmentEvent.verdict postgres before
      (reported.receivedAs receivedAt)).Leaves postgres request
        (reported.receivedAs receivedAt) before after) :
    OnCourse postgres id done todo after := by
  rcases leaves.cases with rfl | ⟨reception, same, unmoved, found, unrecorded, handled, rfl⟩
  · exact course
  obtain ⟨shipments, events⟩ := reception.tables postgres before
  rw [← same] at handled found
  have house : reception.row.id = reception.event.shipmentId := Database.shipment_id found
  have placed : reception.event.eventType = .locationUpdated := by
    rw [same]
    exact located
  have eventId : reception.event.eventId = reported.eventId := by rw [same]
  have columns : (reception.eventRow postgres).eventType = reception.event.eventType ∧
      (reception.eventRow postgres).eventId = reported.eventId := ⟨rfl, eventId⟩
  refine ⟨?_, ?_, ?_⟩
  · obtain ⟨row, present, stored, status, clock⟩ := course.row
    by_cases own : id = reception.row.id
    · rw [own, house, found] at present
      cases present
      obtain ⟨kept, lifecycle⟩ := ShipmentEventHandler.handle_located placed handled
      have projection := Reception.projection_of_handled unmoved stored handled
      refine ⟨reception.projected postgres, ?_, projection.stored, ?_, ?_⟩
      · rw [own]
        exact reception.shipment_projected postgres (house ▸ found)
      · rw [status, projection.written.status]
        exact congrArg some kept.symm
      · have unchanged := (ShipmentModel.stored_iff.mp stored).lastLifecycleAt
        rw [projection.written.lastLifecycleAt, ← clock, ← unchanged]
        exact congrArg (Option.map postgres.timestamptz) lifecycle
    · exact ⟨row, by rw [shipments, if_neg own]; exact present, stored, status, clock⟩
  · rw [Database.timeline_concat events, columns.1, placed,
      if_neg (by simp [ShipmentEventType.timeline]), List.append_nil]
    exact course.recorded
  · intro event member
    rw [Database.event_snoc events, course.unrecorded event member, columns.2,
      if_neg (others event member)]
    rfl

/-- Step lemma: the next event is applied. -/
theorem OnCourse.lifecycle (course : OnCourse postgres id done (reported :: todo) before)
    (own : reported.shipmentId = id) (submittable : reported.Submittable postgres)
    (unlocated : reported.eventType ≠ .locationUpdated)
    (defined : (run .created ((done ++ [reported]).map ShipmentEvent.eventType)).isSome)
    (ordered : ∀ event ∈ done, event.occurredAt.instant postgres.localize ≤
      reported.occurredAt.instant postgres.localize)
    (others : ∀ event ∈ todo, reported.eventId ≠ event.eventId)
    (leaves : (ReceiveShipmentEvent.verdict postgres before
      (reported.receivedAs receivedAt)).Leaves postgres request
        (reported.receivedAs receivedAt) before after) :
    OnCourse postgres id (done ++ [reported]) todo after := by
  obtain ⟨row, present, stored, status, clock⟩ := course.row
  -- the transition that the state machine has for the event
  rw [List.map_append, ShipmentStateMachine.run_append, status] at defined
  obtain ⟨next, reached⟩ := Option.isSome_iff_exists.mp defined
  have edge : ShipmentStateMachine.transitions row.status reported.eventType = some next := by
    simpa [run] using reached
  have current : ShipmentEventHandler.isLate row.lastLifecycleAt reported.occurredAt =
      .ok false := by
    rw [clock]
    cases last : done.getLast? with
    | none => rfl
    | some event =>
        have earlier := ordered event (List.mem_of_getLast? last)
        simp only [Option.map_some, ShipmentEventHandler.isLate, Postgres.timestamptz]
        rw [DateTime.lt_utc _ submittable.aware _ postgres.localize]
        simpa using earlier
  have house : row.id = id := Database.shipment_id present
  have received : reported.eventType ≠ .shipmentCreated := by
    intro created
    rw [created, ShipmentStateMachine.transitions_shipmentCreated] at edge
    cases edge
  have lifecycle : reported.eventType.timeline = some .lifecycle :=
    ShipmentEventType.timeline_eq_lifecycle.mpr ⟨received, unlocated⟩
  obtain ⟨moved, handled, reachedStatus, reachedClock⟩ :=
    @ShipmentEventHandler.handle_applied (ShipmentMapper.toDomain row)
      (reported.receivedAs receivedAt) next (own.trans house.symm) lifecycle current edge
  have verdict : ReceiveShipmentEvent.verdict postgres before
      (reported.receivedAs receivedAt) = .recorded row .applied moved :=
    ReceiveShipmentEvent.verdict_of_handled received (own ▸ present)
      (course.unrecorded reported List.mem_cons_self) handled submittable.object
      submittable.source
  rw [verdict] at leaves
  obtain ⟨reception, -, same, rfl, unmoved, applied, rfl, rfl⟩ := leaves
  obtain ⟨shipments, events⟩ := reception.tables postgres before
  rw [← same, ← applied] at handled
  have projection := Reception.projection_of_handled unmoved stored handled
  have report : reception.event.eventId = reported.eventId ∧
      reception.event.shipmentId = id ∧
      reception.event.eventType.timeline = some .lifecycle := by
    rw [same]
    exact ⟨rfl, own, lifecycle⟩
  have columns : (reception.eventRow postgres).eventId = reception.event.eventId ∧
      (reception.eventRow postgres).shipmentId = reception.event.shipmentId ∧
      (reception.eventRow postgres).eventType = reception.event.eventType ∧
      (reception.eventRow postgres).processingStatus = reception.status :=
    ⟨rfl, rfl, rfl, rfl⟩
  refine ⟨⟨reception.projected postgres, ?_, projection.stored, ?_, ?_⟩, ?_, ?_⟩
  · rw [← house]
    exact reception.shipment_projected postgres (house ▸ present)
  · rw [List.map_append, ShipmentStateMachine.run_append, status, reached,
      projection.written.status]
    exact congrArg some reachedStatus.symm
  · rw [projection.written.lastLifecycleAt]
    simp only [ShipmentMapper.toModel, reachedClock, List.getLast?_concat]
    rfl
  · rw [Database.timeline_concat events, columns.2.1, columns.2.2.1, if_pos report.2,
      List.map_append, List.map_append, course.recorded]
    simp [columns, report.1, applied]
  · intro event member
    rw [Database.event_snoc events,
      course.unrecorded event (List.mem_cons_of_mem _ member), columns.1, report.1,
      if_neg (others event member)]
    rfl

end Submissions

/-- The beginnings of a beginning of a lifecycle are beginnings. -/
theorem Lifecycle.of_prefix {first second : List ShipmentEventType} (begun : Lifecycle second)
    (earlier : first <+: second) : Lifecycle first := by
  obtain ⟨complete, member, begins⟩ := begun
  exact ⟨complete, member, earlier.trans begins⟩

section Sequences

variable {server : Server} {requests : ProcessId → Request} {id : UUID}

/-- What the receptions of processes report. -/
def reports (requests : ProcessId → Request) (processes : List ProcessId) :
    List ShipmentEvent :=
  processes.filterMap fun process => (requests process).reported

/-- A submission of a lifecycle to a shipment: fresh lifecycle events that begin a
lifecycle in the order of their occurrence, with locations in between. -/
structure Submission (postgres : Postgres) (id : UUID) (events : List ShipmentEvent) :
    Prop where
  own : ∀ event ∈ lifecycleEvents events, event.shipmentId = id
  submittable : ∀ event ∈ lifecycleEvents events, event.Submittable postgres
  word : Lifecycle ((lifecycleEvents events).map ShipmentEvent.eventType)
  ordered : (lifecycleEvents events).Pairwise fun first second =>
    first.occurredAt.instant postgres.localize ≤ second.occurredAt.instant postgres.localize
  fresh : events.Pairwise fun first second =>
    second.eventType ≠ .locationUpdated → first.eventId ≠ second.eventId

/-- Run lemma: submitting a lifecycle applies all of it. -/
theorem OnCourse.sequence {base : Database} (faultless : server.Faultless)
    (references : base.References) {processes : List ProcessId} {world : World}
    (unstarted : Unstarted server base requests processes world)
    (receptions : ∀ process ∈ processes, ((requests process).reported).isSome)
    (submission : Submission server.postgres id (reports requests processes))
    (course : OnCourse server.postgres id [] (lifecycleEvents (reports requests processes))
      world.database) :
    Sequence server requests processes
      (fun final => OnCourse server.postgres id
        (lifecycleEvents (reports requests processes)) [] final.database) world := by
  obtain ⟨own, submittable, word, ordered, fresh⟩ := submission
  refine Sequence.mono ?_ (unstarted.sequence (motive := fun rest database =>
    ∃ done, lifecycleEvents (reports requests processes) =
        done ++ lifecycleEvents (reports requests rest) ∧
      (reports requests rest).Pairwise (fun first second =>
        second.eventType ≠ .locationUpdated → first.eventId ≠ second.eventId) ∧
      OnCourse server.postgres id done (lifecycleEvents (reports requests rest)) database)
    faultless references ?_ receptions ⟨[], rfl, fresh, course⟩)
  · intro final finished
    obtain ⟨done, all, -, arrived⟩ := finished
    rw [all]
    simpa [reports, lifecycleEvents] using arrived
  · intro process rest reported receivedAt before after onCourse reportsIt leaves
    obtain ⟨done, all, apart, course⟩ := onCourse
    have split : reports requests (process :: rest) = reported :: reports requests rest := by
      simp [reports, reportsIt]
    rw [split] at all apart course
    obtain ⟨first, others⟩ := List.pairwise_cons.mp apart
    have distinct : ∀ event ∈ lifecycleEvents (reports requests rest),
        reported.eventId ≠ event.eventId := by
      intro event member
      obtain ⟨present, unlocated⟩ := List.mem_filter.mp member
      exact first event present (of_decide_eq_true unlocated)
    by_cases located : reported.eventType = .locationUpdated
    · have skipped : lifecycleEvents (reported :: reports requests rest) =
          lifecycleEvents (reports requests rest) := by
        simp [lifecycleEvents, located]
      rw [skipped] at all course
      exact ⟨done, all, others, course.location located distinct leaves⟩
    · have taken : lifecycleEvents (reported :: reports requests rest) =
          reported :: lifecycleEvents (reports requests rest) := by
        simp [lifecycleEvents, located]
      rw [taken] at all course
      have member : reported ∈ lifecycleEvents (reports requests processes) := by
        rw [all]
        simp
      have begun : Lifecycle ((done ++ [reported]).map ShipmentEvent.eventType) := by
        refine word.of_prefix ?_
        rw [all]
        exact ⟨(lifecycleEvents (reports requests rest)).map ShipmentEvent.eventType, by simp⟩
      obtain ⟨status, reached⟩ := lifecycle_iff.mp begun
      refine ⟨done ++ [reported], by simp [all], others, ?_⟩
      refine course.lifecycle (own reported member) (submittable reported member) located
        (Option.isSome_iff_exists.mpr ⟨status, reached⟩) ?_ distinct leaves
      intro event earlier
      rw [all] at ordered
      exact (List.pairwise_append.mp ordered).2.2 event earlier reported List.mem_cons_self

/-- A shipment about whose lifecycle nothing has been recorded is at its beginning. -/
theorem OnCourse.initial {postgres : Postgres} {database : Database} {row : ShipmentModel}
    {todo : List ShipmentEvent} (replayed : Replayed postgres database id)
    (found : database.shipment id = some row)
    (untold : database.timeline id .lifecycle = [])
    (unrecorded : ∀ event ∈ todo, database.event event.eventId = none) :
    OnCourse postgres id [] todo database := by
  obtain ⟨shipment, folded, projects⟩ := replayed.folded row found
  have nothing : lifecycleEvents (appliedEvents database id) = [] := by
    have types := lifecycleEvents_appliedEvents database id
    rw [Database.applied, untold] at types
    simpa using types
  have lastLifecycleAt := (applyEvents_folded folded).lastLifecycleAt
  have status := (applyEvents_folded folded).status
  rw [nothing] at lastLifecycleAt status
  refine ⟨⟨row, found, replayed.stored row found, ?_, ?_⟩, ?_, unrecorded⟩
  · rw [projects.status]
    exact status
  · rw [projects.lastLifecycleAt, lastLifecycleAt]
    rfl
  · rw [untold]
    rfl

end Sequences

/-- The lifecycle events of a shipment that were applied are the beginnings of the
lifecycles, in the order of their occurrence.  From empty tables, under any requests of
which no two receptions of the shipment overlap, they are one, its status is where that
beginning leads, and a delivered shipment, which has been scheduled, picked up and
delivered once, stays delivered.  Conversely, whoever submits such a beginning, one
request after the other, to a shipment about whose lifecycle nothing has been recorded,
has all of it applied. -/
theorem applied_lifecycles (server : Server) (requests : ProcessId → Request) :
    (∀ state : PlatformState, (platform server requests).Reachable {} state →
      ∀ id, NonOverlapping state.world.wal id →
      ∀ row, state.world.database.shipment id = some row →
        let applied := state.world.database.applied id .lifecycle
        let word := applied.map ShipmentEventModel.eventType
        applied.Pairwise (fun first second =>
            first.instant server.postgres ≤ second.instant server.postgres) ∧
          Lifecycle word ∧ run .created word = some row.status ∧
          (row.status = .delivered → word.count .pickupScheduled = 1 ∧
            word.count .pickupCompleted = 1 ∧ word.count .delivered = 1) ∧
          ∀ count earlier,
            (replay {} (state.world.wal.take count)).shipment id = some earlier →
            earlier.status = .delivered → row.status = .delivered) ∧
      (server.Faultless → ∀ processes start id,
        Unstarted server {} requests processes start → NonOverlapping start.wal id →
        (start.database.shipment id).isSome → start.database.timeline id .lifecycle = [] →
        (∀ process ∈ processes, ((requests process).reported).isSome) →
        Submission server.postgres id (reports requests processes) →
        (∀ event ∈ lifecycleEvents (reports requests processes),
          start.database.event event.eventId = none) →
        Sequence server requests processes
          (fun final =>
            (final.database.timeline id .lifecycle).map
                (fun row => (row.eventId, row.processingStatus)) =
              (lifecycleEvents (reports requests processes)).map
                fun event => (event.eventId, .applied))
          start) := by
  constructor
  · intro state reached id apart row found applied word
    have keyed : ({} : Database).outboxKeys.Nodup := List.nodup_nil
    have kept : Invariant server {} False requests state.world :=
      platform_invariant keyed reached
    have database : state.world.database = replay {} state.world.wal := by
      rw [World.database, kept.start]
    have watermarked := kept.history.watermarked apart state.world.wal.length
    rw [List.take_length, ← database] at watermarked
    have replayed := kept.history.replayed apart
    rw [← database] at replayed
    have status : run .created word = some row.status := replayed.run_applied found
    refine ⟨(watermarked.classified .lifecycle).applied_ordered,
      lifecycle_iff.mpr ⟨_, status⟩, status, ?_, ?_⟩
    · intro delivered
      rw [delivered] at status
      exact ⟨ShipmentStateMachine.count_of_run (by decide) status,
        ShipmentStateMachine.count_of_run (by decide) status,
        ShipmentStateMachine.count_of_run (by decide) status⟩
    · intro count earlier present delivered
      have before := ((kept.history.take count).replayed (apart.take count)).run_applied present
      obtain ⟨more, grown⟩ :=
        (replay_applied_grows {} state.world.wal count id .lifecycle).map
          ShipmentEventModel.eventType
      rw [← database] at grown
      rw [← show _ = word from grown, ShipmentStateMachine.run_append, before,
        delivered] at status
      exact (ShipmentStateMachine.run_delivered_iff.mp status).2
  · intro faultless processes start id unstarted apart present untold receptions submission
      unrecorded
    obtain ⟨row, found⟩ := Option.isSome_iff_exists.mp present
    have references : ({} : Database).References := by simp [Database.References]
    have database : start.database = replay {} start.wal := by
      rw [World.database, unstarted.kept.start]
    have replayed := unstarted.kept.history.replayed apart
    rw [← database] at replayed
    refine Sequence.mono (fun final arrived => arrived.recorded)
      (OnCourse.sequence faultless references unstarted receptions submission ?_)
    exact .initial replayed found untold unrecorded

/-! ## A pickup -/

/-- A creation, and two lifecycle events at one moment with a location in between. -/
def pickup : ProcessId → Request
  | 0 => journey 0
  | 1 => .receiveEvent none (report 7 .pickupScheduled 20)
  | 2 => .handleEvent none (located 8 25)
  | 3 => .receiveEvent none (report 9 .pickupCompleted 20)
  | _ => .publishOne 1000

/-- The statements of the creation. -/
def creationChoices : List Choice :=
  [.time (.utc 5), .uuid parcel, .uuid ⟨2#128⟩, .time (.utc 6), .proceed, .proceed, .proceed,
    .uuid ⟨3#128⟩, .proceed, .proceed, .time (.utc 7)] ++ List.replicate 5 .proceed

theorem pickup_events : lifecycleEvents (reports pickup [1, 2, 3]) =
    [(report 7 .pickupScheduled 20).event (.utc 0),
      (report 9 .pickupCompleted 20).event (.utc 0)] := by
  decide

theorem pickup_submission : Submission .utc parcel (reports pickup [1, 2, 3]) where
  own := by decide
  submittable := by
    rw [pickup_events]
    intro event member
    rcases List.mem_pair.mp member with rfl | rfl
    · exact ⟨rfl, rfl, by decide⟩
    · exact ⟨rfl, rfl, by decide⟩
  word := lifecycle_iff.mpr ⟨.pickedUp, by decide⟩
  ordered := by decide
  fresh := by decide

/-- After the creation the pickup is applied, whatever the choices. -/
theorem pickup_applied :
    ∃ (start : World) (outcome : Except PyError Unit × Session),
      (pickup 0).program.run (Server.utc.perform 0) creationChoices {} = some (outcome, start) ∧
      Sequence Server.utc pickup [1, 2, 3]
        (fun final =>
          (final.database.timeline parcel .lifecycle).map
              (fun row => (row.eventId, row.processingStatus)) =
            [(⟨7#128⟩, .applied), (⟨9#128⟩, .applied)])
        start := by
  have shown : ((pickup 0).program.run (Server.utc.perform 0) creationChoices {}).map
      (fun run =>
        (run.2.wal.map Transaction.process,
          decide (NonOverlapping run.2.wal parcel) && (run.2.database.shipment parcel).isSome &&
            (run.2.database.timeline parcel .lifecycle).isEmpty &&
            (run.2.database.event ⟨7#128⟩).isNone && (run.2.database.event ⟨9#128⟩).isNone &&
            run.2.locks.isEmpty &&
            [1, 2, 3].all fun process => decide (run.2.connection process = {}))) =
      some ([0], true) := by
    decide +kernel
  obtain ⟨⟨outcome, start⟩, ran, facts⟩ := Option.map_eq_some_iff.mp shown
  simp only [Prod.mk.injEq, Bool.and_eq_true, List.all_eq_true, decide_eq_true_eq,
    List.isEmpty_iff, Option.isNone_iff_eq_none] at facts
  obtain ⟨processes, ⟨⟨⟨⟨⟨apart, present⟩, untold⟩, seven⟩, nine⟩, locks⟩, connections⟩ := facts
  obtain ⟨-, kept, -⟩ := run_alone (fun _ relay => by cases relay) Invariant.initial rfl
    (by simp) ran
  have unstarted : Unstarted Server.utc {} pickup [1, 2, 3] start :=
    { kept := kept
      locks := locks
      distinct := by decide
      fresh := connections
      uncommitted := by rw [processes]; decide }
  refine ⟨start, outcome, ran, ?_⟩
  refine (applied_lifecycles Server.utc pickup).2 (fun _ => rfl) [1, 2, 3] start parcel
    unstarted apart present untold (by decide) pickup_submission ?_
  rw [pickup_events]
  intro event member
  rcases List.mem_pair.mp member with rfl | rfl
  · exact seven
  · exact nine

end Freight
