/-
Module: Freight.Proofs.LifecycleClock
Purpose: The migration that adds the lifecycle clock leaves it unset: until an event as
  recent as the history has set it, an older event regresses the shipment.
Trusted boundary: none
Main exports:
  Execution, Executions, Overdue, Execution.Guarded, Execution.Exposed, Clocked,
  Episode.clocked, Executions.invariant, migrated_clock_guards_iff,
  migrated_shipment_regresses
-/
import Freight.Database.Migrations
import Freight.Domain.Lifecycle
import Freight.Proofs.Admission
import Freight.Proofs.Lateness
import Freight.Store.Sequence

namespace Freight

open Interaction (ProcessId)

/-! ## Executions -/

/-- An execution of `ReceiveShipmentEvent` that nothing overlaps: who has run it, how it
has ended, and the tables before and after it. -/
structure Execution where
  process : ProcessId
  outcome : Except PyError Unit
  before : Database
  after : Database

section Definitions

variable (server : Server) (requests : ProcessId → Request)

/-- Executions one after the other, without faults and as long as identifiers last. -/
inductive Executions : World → List Execution → World → Prop where
  | nil (world : World) : Executions world [] world
  | cons {process : ProcessId} {choices : List Choice} {outcome : Except PyError Unit}
      {session : Session} {before middle after : World} {later : List Execution}
      (spare : before.Spare) (clean : ∀ choice ∈ choices, choice.isFault = false)
      (ran : (requests process).program.run (server.perform process) choices before =
        some ((outcome, session), middle))
      (executions : Executions middle later after) :
      Executions before (⟨process, outcome, before.database, middle.database⟩ :: later) after

variable (postgres : Postgres)

/-- A lifecycle event that is older than one in the history of its shipment. -/
def Overdue (database : Database) (event : ShipmentEvent) : Prop :=
  event.eventType.timeline = some .lifecycle ∧
    ∃ other ∈ database.timeline event.shipmentId .lifecycle,
      event.occurredAt.instant postgres.localize < other.instant postgres

/-- A request has been refused because of an undefined transition. -/
def InvalidTransition (request : Request) (outcome : Except PyError Unit) : Prop :=
  ∃ state eventType, outcome = .error (request.refuse (.invalidStateTransition state eventType))

namespace Execution

variable (execution : Execution)

/-- The execution does not let an overdue event regress its shipment, nor refuse it for
its transition. -/
def Guarded : Prop :=
  ∀ event, (requests execution.process).reported = some event →
    Overdue postgres execution.before event →
    ∀ row, execution.before.shipment event.shipmentId = some row →
      (∃ still, execution.after.shipment event.shipmentId = some still ∧
        still.status = row.status ∧ still.updatedAt = row.updatedAt ∧
        still.lastLifecycleAt = row.lastLifecycleAt) ∧
      ¬ InvalidTransition (requests execution.process) execution.outcome

/-- A new overdue event meets a shipment whose clock is unset: one whose transition is
undefined, or one that can be recorded. -/
def Exposed : Prop :=
  ∃ event row, (requests execution.process).reported = some event ∧
    Overdue postgres execution.before event ∧
    execution.before.shipment event.shipmentId = some row ∧ row.lastLifecycleAt = none ∧
    execution.before.event event.eventId = none ∧
    ((ShipmentStateMachine.transitions row.status event.eventType).isSome →
      event.payload.plain.isDict = true ∧ postgres.varchar event.source ≠ .null)

/-- The execution has done what the verdict on its event says. -/
def Settled : Prop :=
  ∀ reported, (requests execution.process).reported = some reported →
    ∃ receivedAt : DateTime,
      let event := { reported with receivedAt := receivedAt }
      let verdict := ReceiveShipmentEvent.verdict postgres execution.before event
      verdict.Leaves postgres (requests execution.process) event execution.before
          execution.after ∧
        verdict.Answers (requests execution.process).refuse execution.outcome

end Execution

end Definitions

/-! ## The verdict on a lifecycle event -/

section Verdicts

variable {postgres : Postgres} {database : Database} {event : ShipmentEvent}
  {row : ShipmentModel} {request : Request}

/-- What a client is told of an undefined transition it is told of nothing else that the
application raises. -/
theorem Request.refuse_transition {error : PyError} {state eventType : String}
    (refused : request.refuse error = request.refuse (.invalidStateTransition state eventType)) :
    (∃ source target, error = .invalidStateTransition source target) ∨
      ∃ statusCode detail, error = .httpException statusCode detail := by
  cases request with
  | receiveEvent correlationId reported =>
      cases error with
      | invalidStateTransition source target => exact .inl ⟨source, target, rfl⟩
      | httpException statusCode detail => exact .inr ⟨statusCode, detail, rfl⟩
      | _ => simp [Request.refuse, refusal] at refused
  | _ => exact .inl ⟨_, _, refused⟩

/-- A verdict that is refused like an undefined transition is about one: the event is new,
not late and has no transition. -/
theorem ReceiveShipmentEvent.verdict_undefined {error : PyError} {state eventType : String}
    (found : database.shipment event.shipmentId = some row)
    (rejected : verdict postgres database event = .rejected error)
    (refused : request.refuse error = request.refuse (.invalidStateTransition state eventType)) :
    database.event event.eventId = none ∧
      ShipmentEventHandler.isLate row.lastLifecycleAt event.occurredAt = .ok false ∧
      ShipmentStateMachine.transitions row.status event.eventType = none := by
  have told := Request.refuse_transition refused
  simp only [verdict, found] at rejected
  split at rejected
  · cases rejected
    simp at told
  split at rejected
  · cases rejected
  rename_i unrecorded
  split at rejected
  · rename_i handled
    cases rejected
    obtain ⟨-, rejection⟩ := ShipmentEventHandler.handle_rejection handled
    cases rejection with
    | transition current undefined => exact ⟨by simpa using unrecorded, current, undefined⟩
    | _ => simp [PyError.value] at told
  split at rejected
  · cases rejected
    simp [PyError.value] at told
  split at rejected
  · cases rejected
    simp at told
  · cases rejected

/-- What is recorded has an object for a payload, and a source. -/
theorem ReceiveShipmentEvent.recordable_of_recorded {status : ShipmentEventProcessingStatus}
    {after : Shipment} (recorded : verdict postgres database event = .recorded row status after) :
    event.payload.plain.isDict = true ∧ postgres.varchar event.source ≠ .null := by
  unfold verdict at recorded
  split at recorded
  · cases recorded
  split at recorded
  · cases recorded
  split at recorded
  · cases recorded
  split at recorded
  · cases recorded
  split at recorded
  · cases recorded
  split at recorded
  · cases recorded
  · rename_i object source
    exact ⟨by simpa using object, source⟩

/-- The verdict on a new lifecycle event for a shipment without a clock. -/
theorem ReceiveShipmentEvent.verdict_unclocked (postgres : Postgres)
    (found : database.shipment event.shipmentId = some row)
    (unrecorded : database.event event.eventId = none) (unset : row.lastLifecycleAt = none)
    (on : event.eventType.timeline = some .lifecycle) :
    (ShipmentStateMachine.transitions row.status event.eventType = none →
      verdict postgres database event =
        .rejected (.invalidStateTransition row.status.value event.eventType.value)) ∧
      ∀ next, ShipmentStateMachine.transitions row.status event.eventType = some next →
        event.payload.plain.isDict = true → postgres.varchar event.source ≠ .null →
        verdict postgres database event = .recorded row .applied
          { ShipmentMapper.toDomain row with
            status := next
            updatedAt := event.occurredAt
            lastLifecycleAt := some event.occurredAt } := by
  obtain ⟨received, unlocated⟩ := ShipmentEventType.timeline_eq_lifecycle.mp on
  have house : event.shipmentId = row.id := (Database.shipment_id found).symm
  constructor
  · intro undefined
    have handled : ShipmentEventHandler.handle (ShipmentMapper.toDomain row) event =
        (.error (.invalidStateTransition row.status.value event.eventType.value),
          ShipmentMapper.toDomain row) := by
      simp [ShipmentEventHandler.handle, ShipmentMapper.toDomain, house, received, unlocated,
        unset, ShipmentEventHandler.isLate, Shipment.changeStatus,
        ShipmentStateMachine.transition, undefined]
    simp [verdict, received, found, unrecorded, handled]
  · intro next edge object source
    refine verdict_of_handled received found unrecorded ?_ object source
    simp [ShipmentEventHandler.handle, ShipmentMapper.toDomain, house, received, unlocated,
      unset, ShipmentEventHandler.isLate, Shipment.changeStatus,
      ShipmentStateMachine.transition, edge]

end Verdicts

/-! ## The clock -/

section Clocks

variable {postgres : Postgres} {request : Request} {id : UUID} {before after : Database}

/-- The clock of a shipment is unset, or no lifecycle event of its history is later. -/
structure Clocked (postgres : Postgres) (database : Database) (id : UUID) : Prop where
  stored : ∀ row, database.shipment id = some row → row.Stored postgres
  latest : ∀ row, database.shipment id = some row → ∀ clock, row.lastLifecycleAt = some clock →
    ∀ other ∈ database.timeline id .lifecycle,
      other.instant postgres ≤ clock.instant postgres.localize

/-- An event that is not late for a clock that is set is as recent as the history. -/
theorem Clocked.current {database : Database} {row : ShipmentModel} {clock occurredAt : DateTime}
    (kept : Clocked postgres database id) (found : database.shipment id = some row)
    (set : row.lastLifecycleAt = some clock)
    (compared : ShipmentEventHandler.isLate row.lastLifecycleAt occurredAt = .ok false) :
    ∀ other ∈ database.timeline id .lifecycle,
      other.instant postgres ≤ occurredAt.instant postgres.localize := by
  intro other member
  have below := kept.latest row found clock set other member
  have stored : row.lastLifecycleAt.map postgres.timestamptz = row.lastLifecycleAt :=
    (kept.stored row found).clock .lifecycle
  have late := isLate_stored stored compared
  rw [set] at late
  by_contra later
  have earlier : occurredAt.instant postgres.localize < clock.instant postgres.localize := by
    omega
  have impossible := late.mpr ⟨_, rfl, earlier⟩
  cases impossible

/-- Step lemma: an episode keeps the clock at the end of the history, as long as no older
event sets it. -/
theorem Episode.clocked (episode : Episode postgres request id before after)
    (kept : Clocked postgres before id)
    (unexposed : ∀ reception : Reception, before.shipment id = some reception.row →
      request.Reports reception.correlationId reception.event →
      reception.event.shipmentId = id → reception.event.eventType.timeline = some .lifecycle →
      reception.row.lastLifecycleAt = none → ∀ other ∈ before.timeline id .lifecycle,
        other.instant postgres ≤ reception.event.occurredAt.instant postgres.localize) :
    Clocked postgres after id := by
  cases episode with
  | silent shipment events =>
      have timeline : after.timeline id .lifecycle = before.timeline id .lifecycle := by
        rw [Database.timeline, events, Database.timeline]
      exact
        { stored := by
            rw [shipment]
            exact kept.stored
          latest := by
            rw [shipment, timeline]
            exact kept.latest }
  | created creation own fresh shipment events =>
      constructor
      · intro row found
        cases shipment.symm.trans found
        exact ShipmentModel.stored_shipmentRow _
      · intro row found clock set
        cases shipment.symm.trans found
        cases set
  | received reception reports own found unmoved handled unrecorded shipment events =>
      have stored := kept.stored _ found
      have clocks := Reception.projected_clock unmoved stored handled .lifecycle
      have instant : (reception.eventRow postgres).instant postgres =
          reception.event.occurredAt.instant postgres.localize := instant_timestamptz _
      have eventType : (reception.eventRow postgres).eventType = reception.event.eventType := rfl
      obtain ⟨timeline, on, others, moved⟩ := ShipmentEventHandler.handle_clock handled
      constructor
      · intro row left
        cases shipment.symm.trans left
        exact (Reception.projection_of_handled unmoved stored handled).stored
      · intro row left clock set other member
        cases shipment.symm.trans left
        rw [Database.timeline_snoc events, eventType, on, List.mem_append] at member
        have unchanged : reception.after.lastLifecycleAt = reception.row.lastLifecycleAt →
            reception.row.lastLifecycleAt = some clock := by
          intro same
          have kept := stored.clock .lifecycle
          change (reception.projected postgres).lastLifecycleAt =
            reception.after.lastLifecycleAt.map postgres.timestamptz at clocks
          change reception.row.lastLifecycleAt.map postgres.timestamptz =
            reception.row.lastLifecycleAt at kept
          rw [same, kept, set] at clocks
          exact clocks.symm
        cases timeline with
        | location =>
            rcases member with earlier | last
            · exact kept.latest _ found clock (unchanged (others .lifecycle (by decide))) other
                earlier
            · simp at last
        | lifecycle =>
            rw [if_pos rfl, List.mem_singleton] at member
            rcases moved with ⟨-, same, compared⟩ | ⟨-, moved, compared⟩
            · have still : reception.row.lastLifecycleAt = some clock :=
                unchanged (by rw [same]; rfl)
              rcases member with earlier | rfl
              · exact kept.latest _ found clock still other earlier
              · obtain ⟨top, held, later⟩ :=
                  (isLate_stored (stored.clock .lifecycle) compared).mp rfl
                have same : (reception.row.clock .lifecycle) = some clock := still
                rw [same] at held
                cases held
                rw [instant]
                exact Int.le_of_lt later
            · have stamped : clock = postgres.timestamptz reception.event.occurredAt := by
                rw [moved] at clocks
                exact Option.some.inj (set.symm.trans clocks)
              rw [stamped, instant_timestamptz]
              rcases member with earlier | rfl
              · cases held : reception.row.lastLifecycleAt with
                | none => exact unexposed reception found reports own on held other earlier
                | some point => exact kept.current found held compared other earlier
              · exact Int.le_of_eq instant

end Clocks

/-! ## One execution -/

namespace Execution.Settled

variable {server : Server} {requests : ProcessId → Request} {execution : Execution}

/-- Step lemma: an execution that is not exposed keeps every clock at the end of its
history. -/
theorem clocked (settled : execution.Settled requests server.postgres)
    (reception : (requests execution.process).reported.isSome)
    (unexposed : ¬ execution.Exposed requests server.postgres)
    (kept : ∀ id, Clocked server.postgres execution.before id) (id : UUID) :
    Clocked server.postgres execution.after id := by
  obtain ⟨event, names⟩ := Option.isSome_iff_exists.mp reception
  obtain ⟨receivedAt, leaves, -⟩ := settled event names
  cases judged : ReceiveShipmentEvent.verdict server.postgres execution.before
      { event with receivedAt := receivedAt } with
  | rejected error =>
      rw [judged] at leaves
      rw [show execution.after = execution.before from leaves]
      exact kept id
  | known row =>
      rw [judged] at leaves
      rw [show execution.after = execution.before from leaves]
      exact kept id
  | recorded row status shipment =>
      rw [judged] at leaves
      obtain ⟨reception, reports, same, rfl, unmoved, rfl, rfl, written⟩ := leaves
      have recordable := ReceiveShipmentEvent.recordable_of_recorded judged
      obtain ⟨found, unrecorded, handled⟩ := ReceiveShipmentEvent.verdict_recorded judged
      rw [← same] at found unrecorded handled
      have episode : Episode server.postgres (requests execution.process) id execution.before
          execution.after := by
        rw [written]
        exact reception.episode reports (fun own => ⟨own ▸ found, unmoved⟩) handled unrecorded
      refine episode.clocked (kept id) ?_
      intro other present reportsToo own on unset recorded member
      obtain ⟨_, named, again⟩ := reportsToo.exists_reported
      cases names.symm.trans named
      rw [again] at own on ⊢
      by_contra later
      refine unexposed ⟨event, other.row, names, ⟨on, recorded, ?_, Int.not_le.mp later⟩, ?_,
        unset, ?_, fun _ => recordable⟩
      · exact own ▸ member
      · exact own ▸ present
      · rw [same] at unrecorded
        exact unrecorded

/-- An execution that is not exposed is guarded. -/
theorem guarded (settled : execution.Settled requests server.postgres)
    (unexposed : ¬ execution.Exposed requests server.postgres)
    (kept : ∀ id, Clocked server.postgres execution.before id) :
    execution.Guarded requests server.postgres := by
  intro event names overdue row found
  obtain ⟨receivedAt, leaves, answers⟩ := settled event names
  -- an overdue event is late, unless the clock is unset
  have unclocked : ShipmentEventHandler.isLate row.lastLifecycleAt event.occurredAt = .ok false →
      row.lastLifecycleAt = none := by
    intro compared
    cases set : row.lastLifecycleAt with
    | none => rfl
    | some clock =>
        obtain ⟨-, other, member, later⟩ := overdue
        exact absurd ((kept event.shipmentId).current found set compared other member)
          (Int.not_le.mpr later)
  cases judged : ReceiveShipmentEvent.verdict server.postgres execution.before
      { event with receivedAt := receivedAt } with
  | rejected error =>
      rw [judged] at leaves answers
      rw [show execution.after = execution.before from leaves]
      refine ⟨⟨row, found, rfl, rfl, rfl⟩, ?_⟩
      intro ⟨state, eventType, refused⟩
      have alike := Except.error.inj (Eq.trans (Eq.symm answers) refused)
      obtain ⟨unrecorded, compared, undefined⟩ :=
        ReceiveShipmentEvent.verdict_undefined found judged alike
      refine unexposed ⟨event, row, names, overdue, found, unclocked compared, unrecorded, ?_⟩
      intro defined
      rw [undefined] at defined
      cases defined
  | known recorded =>
      rw [judged] at leaves answers
      rw [show execution.after = execution.before from leaves]
      refine ⟨⟨row, found, rfl, rfl, rfl⟩, ?_⟩
      intro ⟨state, eventType, refused⟩
      obtain ⟨value, returned⟩ := answers
      cases returned.symm.trans refused
  | recorded current status shipment =>
      rw [judged] at leaves answers
      have recordable := ReceiveShipmentEvent.recordable_of_recorded judged
      obtain ⟨present, unrecorded, handled⟩ := ReceiveShipmentEvent.verdict_recorded judged
      cases found.symm.trans present
      obtain ⟨reception, -, same, rfl, unmoved, rfl, rfl, written⟩ := leaves
      obtain ⟨value, returned⟩ := answers
      constructor
      · obtain ⟨timeline, on, -, ⟨-, unchanged, -⟩ | ⟨-, -, compared⟩⟩ :=
          ShipmentEventHandler.handle_clock handled
        · have projected := reception.shipment_projected server.postgres
            (show execution.before.shipment reception.row.id = some reception.row by
              rw [Database.shipment_id present]; exact present)
          rw [← written, Database.shipment_id present] at projected
          refine ⟨_, projected, ?_, ?_, ?_⟩ <;>
            simp [Reception.projected, Reception.Unmoved.patch unmoved, unchanged,
              ShipmentPatch.applyTo, Postgres.shipmentPatch, ShipmentPatch.between, changedColumn,
              DateTime.eq_refl, optionalDateTimeEq_refl]
        · have lifecycle : timeline = .lifecycle := Option.some.inj (on.symm.trans overdue.1)
          subst lifecycle
          exact absurd ⟨event, reception.row, names, overdue, found, unclocked compared,
            unrecorded, fun _ => recordable⟩ unexposed
      · intro ⟨state, eventType, refused⟩
        cases returned.symm.trans refused

/-- An execution that is exposed is not guarded. -/
theorem exposed (settled : execution.Settled requests server.postgres)
    (exposed : execution.Exposed requests server.postgres) :
    ¬ execution.Guarded requests server.postgres := by
  obtain ⟨event, row, names, overdue, found, unset, unrecorded, recordable⟩ := exposed
  intro guarded
  obtain ⟨⟨still, left, status, -, -⟩, valid⟩ := guarded event names overdue row found
  obtain ⟨receivedAt, leaves, answers⟩ := settled event names
  rw [ReceiveShipmentEvent.verdict_receivedAt] at leaves answers
  obtain ⟨refused, recorded⟩ :=
    ReceiveShipmentEvent.verdict_unclocked server.postgres found unrecorded unset overdue.1
  cases edge : ShipmentStateMachine.transitions row.status event.eventType with
  | none =>
      rw [refused edge] at answers
      exact valid ⟨_, _, answers⟩
  | some next =>
      obtain ⟨object, source⟩ := recordable (by rw [edge]; rfl)
      rw [recorded next edge object source] at leaves
      obtain ⟨reception, -, same, rfl, unmoved, -, moved, written⟩ := leaves
      have projected := reception.shipment_projected server.postgres
        (show execution.before.shipment reception.row.id = some reception.row by
          rw [Database.shipment_id found]; exact found)
      rw [← written, Database.shipment_id found, left] at projected
      cases projected
      have different : reception.row.status ≠ next :=
        ShipmentStateMachine.Edge.ne ⟨event.eventType, edge⟩
      refine different (status.symm.trans ?_)
      simp [Reception.projected, Reception.Unmoved.patch unmoved, moved, ShipmentPatch.applyTo,
        Postgres.shipmentPatch, ShipmentPatch.between, changedColumn, ShipmentMapper.toModel,
        different]

end Execution.Settled

/-! ## Runs of executions -/

section Runs

variable {server : Server} {base : Database} {requests : ProcessId → Request}

/-- Run lemma: every execution does what its verdict says, from tables with whatever holds
at the start and is kept by such executions. -/
theorem Executions.invariant {motive : Database → Prop} (references : base.References)
    {executions : List Execution} {start final : World}
    (run : Executions server requests start executions final)
    (unstarted : Unstarted server base requests (executions.map Execution.process) start)
    (receptions : ∀ execution ∈ executions, (requests execution.process).reported.isSome)
    (keeps : ∀ execution ∈ executions, execution.Settled requests server.postgres →
      motive execution.before → motive execution.after)
    (initial : motive start.database) :
    ∀ execution ∈ executions,
      execution.Settled requests server.postgres ∧ motive execution.before := by
  induction run with
  | nil world => simp
  | @cons process choices outcome session before middle after later spare clean ran executions
      inductionHypothesis =>
      obtain ⟨reported, names⟩ :=
        Option.isSome_iff_exists.mp (receptions _ List.mem_cons_self)
      obtain ⟨next, receivedAt, leaves, answers⟩ :=
        unstarted.ran_clean references spare names clean ran
      have settled : Execution.Settled requests server.postgres
          ⟨process, outcome, before.database, middle.database⟩ := by
        intro again named
        cases names.symm.trans named
        exact ⟨receivedAt, leaves, answers⟩
      intro execution member
      rcases List.mem_cons.mp member with rfl | further
      · exact ⟨settled, initial⟩
      · exact inductionHypothesis next (fun other member => receptions other (.tail _ member))
          (fun other member => keeps other (.tail _ member))
          (keeps _ List.mem_cons_self settled initial) execution further

end Runs

/-! ## After the migration -/

section Migration

variable {postgres : Postgres} (old : Revision6f8e4c7a1b2d postgres)

/-- Every shipment has the status that its lifecycle events lead to. -/
def Revision6f8e4c7a1b2d.Produced : Prop :=
  ∀ row ∈ old.head.shipments,
    ShipmentStateMachine.run .created
      ((old.head.timeline row.id .lifecycle).map ShipmentEventModel.eventType) = some row.status

theorem Revision6f8e4c7a1b2d.head_references : old.head.References := by
  intro row member
  cases member

/-- The migration leaves every clock unset. -/
theorem Revision6f8e4c7a1b2d.head_clocked (id : UUID) : Clocked postgres old.head id := by
  have unset : ∀ row, old.head.shipment id = some row →
      ∃ shipment ∈ old.shipments, Migration8b7c3d2e1f0a.upgradeShipment shipment = row := by
    intro row found
    exact List.mem_map.mp (Table.mem_of_lookup found)
  constructor
  · intro row found
    obtain ⟨shipment, member, rfl⟩ := unset row found
    obtain ⟨createdAt, updatedAt, latitude, longitude, location⟩ := old.stored shipment member
    exact ShipmentModel.stored_iff.mpr ⟨createdAt, updatedAt, latitude, longitude, location, rfl⟩
  · intro row found clock set
    obtain ⟨shipment, member, rfl⟩ := unset row found
    cases set

end Migration

/-- After the migrations, in any sequence of executions, no lifecycle event that is older
than the history of its shipment regresses the shipment or is refused for its transition,
exactly if no new one of them arrives while the clock of the shipment is unset. -/
theorem migrated_clock_guards_iff (server : Server) (old : Revision6f8e4c7a1b2d server.postgres)
    (requests : ProcessId → Request) (executions : List Execution) (final : World)
    (run : Executions server requests { base := old.head } executions final)
    (distinct : (executions.map Execution.process).Nodup)
    (receptions : ∀ execution ∈ executions, (requests execution.process).reported.isSome) :
    (∀ execution ∈ executions, execution.Guarded requests server.postgres) ↔
      ∀ execution ∈ executions, ¬ execution.Exposed requests server.postgres := by
  have unstarted : Unstarted server old.head requests (executions.map Execution.process)
      { base := old.head } :=
    { kept := Invariant.initial
      locks := rfl
      distinct := distinct
      fresh := fun _ _ => rfl
      uncommitted := fun _ _ => List.not_mem_nil }
  constructor
  · intro guarded execution member exposed
    obtain ⟨settled, -⟩ := run.invariant (motive := fun _ => True) old.head_references unstarted
      receptions (fun _ _ _ holds => holds) trivial execution member
    exact settled.exposed exposed (guarded execution member)
  · intro unexposed execution member
    obtain ⟨settled, kept⟩ := run.invariant
      (motive := fun database => ∀ id, Clocked server.postgres database id) old.head_references
      unstarted receptions
      (fun other among settled kept =>
        settled.clocked (receptions other among) (unexposed other among) kept)
      old.head_clocked execution member
    exact settled.guarded (unexposed execution member) kept

/-! ## A scheduled shipment -/

/-- A shipment that was scheduled before the migration. -/
def scheduled : Revision6f8e4c7a1b2d .utc where
  shipments := [{
    id := parcel
    referenceNumber := "FRT-1"
    origin := "Porto"
    destination := "Lyon"
    carrier := "carrier"
    status := .scheduled
    createdAt := .utc 0
    updatedAt := .utc 10
    currentLatitude := .null
    currentLongitude := .null
    lastLocationAt := none }]
  shipmentEvents := [{
    eventId := ⟨6#128⟩
    shipmentId := parcel
    eventType := .pickupScheduled
    source := .str "carrier"
    occurredAt := .utc 10
    receivedAt := .utc 11
    payload := .obj [] }]
  stored := by
    intro row member
    rw [List.mem_singleton.mp member]
    exact ⟨rfl, rfl, rfl, rfl, rfl⟩

/-- A pickup completed before it was scheduled. -/
def overduePickup (_ : ProcessId) : Request := .receiveEvent none (report 7 .pickupCompleted 5)

/-- The statements of an HTTP request that records its event. -/
def reportChoices : List Choice :=
  [.time (.utc 30), .proceed, .proceed, .proceed, .proceed, .proceed, .uuid ⟨100#128⟩, .proceed,
    .time (.utc 31)] ++ List.replicate 6 .proceed

theorem overduePickup_runs :
    ((overduePickup 0).program.run (Server.utc.perform 0) reportChoices
      { base := scheduled.head }).map
        (fun run => (run.2.database.shipment parcel).map ShipmentModel.status) =
      some (some .pickedUp) := by
  decide +kernel

theorem scheduled_produced : scheduled.Produced := by
  intro row member
  rw [List.mem_singleton.mp member]
  decide

/-- The tables before and after the pickup. -/
theorem overduePickup_executed :
    ∃ (outcome : Except PyError Unit) (final : World) (row : ShipmentModel),
      Executions Server.utc overduePickup { base := scheduled.head }
          [⟨0, outcome, scheduled.head, final.database⟩] final ∧
        final.database.shipment parcel = some row ∧ row.status = .pickedUp := by
  obtain ⟨⟨⟨outcome, session⟩, final⟩, ran, shown⟩ :=
    Option.map_eq_some_iff.mp overduePickup_runs
  obtain ⟨row, found, status⟩ := Option.map_eq_some_iff.mp shown
  refine ⟨outcome, final, row, ?_, found, status⟩
  exact .cons ⟨⟨0#128⟩, by decide⟩ (by decide) ran (.nil final)

/-- The migration does not keep an older event from moving a shipment. -/
theorem migrated_shipment_regresses :
    ¬ ∀ (old : Revision6f8e4c7a1b2d .utc), old.Produced →
      ∀ (requests : ProcessId → Request) (executions : List Execution) (final : World),
        Executions Server.utc requests { base := old.head } executions final →
        (executions.map Execution.process).Nodup →
        (∀ execution ∈ executions, (requests execution.process).reported.isSome) →
        ∀ execution ∈ executions, execution.Guarded requests .utc := by
  intro claim
  obtain ⟨outcome, final, row, run, found, status⟩ := overduePickup_executed
  have guarded := claim scheduled scheduled_produced overduePickup _ final run (by simp)
    (by simp [overduePickup, Request.reported]) _ List.mem_cons_self
  obtain ⟨⟨still, left, same, -⟩, -⟩ := guarded _ rfl ⟨rfl, _, List.mem_cons_self, by decide⟩ _ rfl
  cases found.symm.trans left
  rw [status] at same
  cases same

/-- The pickup is the exposed execution. -/
theorem overduePickup_exposed :
    ∃ (executions : List Execution) (final : World),
      Executions Server.utc overduePickup { base := scheduled.head } executions final ∧
        ((∀ execution ∈ executions, execution.Guarded overduePickup .utc) ↔
          ∀ execution ∈ executions, ¬ execution.Exposed overduePickup .utc) := by
  obtain ⟨outcome, final, row, run, -, -⟩ := overduePickup_executed
  exact ⟨_, final, run, migrated_clock_guards_iff Server.utc scheduled overduePickup _ final run
    (by simp) (by simp [overduePickup, Request.reported])⟩

end Freight
