/-
Module: Freight.Proofs.Timelines
Purpose: The two timelines of the committed projection.  A commit that finds a
  timeline as its transaction has read it never moves it backward; an overlapping
  update of the same timeline can.
Trusted boundary: none
Main exports:
  ClockLe, Timestamped, Undisputed, ShipmentStep, Effect.shipmentStep,
  timelines_advance_undisputed, projection_moves_backward
-/
import Freight.Proofs.DuplicateAnswers
import Freight.Store.Columns
import Mathlib.Logic.Relation

namespace Freight

open Interaction (ProcessId)

/-! ## Clocks -/

/-- One clock is not later than another; no clock is earliest. -/
def ClockLe (localize : Int → Int) : Option DateTime → Option DateTime → Prop
  | none, _ => True
  | some _, none => False
  | some first, some second => first.instant localize ≤ second.instant localize

theorem ClockLe.refl (localize : Int → Int) (clock : Option DateTime) :
    ClockLe localize clock clock := by
  cases clock with
  | none => trivial
  | some clock => exact Int.le_refl _

theorem ClockLe.trans {localize : Int → Int} {first second third : Option DateTime}
    (one : ClockLe localize first second) (two : ClockLe localize second third) :
    ClockLe localize first third := by
  cases first with
  | none => trivial
  | some first =>
      cases second with
      | none => cases one
      | some second =>
          cases third with
          | none => cases two
          | some third => exact Int.le_trans one two

/-- A clock as a `timestamp with time zone` column hands it back. -/
def AwareClock (clock : Option DateTime) : Prop :=
  ∀ value, clock = some value → value.aware = true

/-- The clocks of every shipment are aware. -/
def Timestamped (database : Database) : Prop :=
  ∀ id row, database.shipment id = some row →
    AwareClock row.lastLifecycleAt ∧ AwareClock row.lastLocationAt

/-- Storing a clock does not move it. -/
theorem ClockLe.timestamptz (postgres : Postgres) (clock : Option DateTime) :
    ClockLe postgres.localize clock (clock.map postgres.timestamptz) := by
  cases clock with
  | none => trivial
  | some value => simp [ClockLe, Postgres.timestamptz]

/-- An event that is not late does not move an aware clock backward. -/
theorem ClockLe.of_isLate (postgres : Postgres) {clock : Option DateTime}
    {occurredAt : DateTime} (aware : AwareClock clock)
    (current : ShipmentEventHandler.isLate clock occurredAt = .ok false) :
    ClockLe postgres.localize clock (some (postgres.timestamptz occurredAt)) := by
  cases clock with
  | none => trivial
  | some clock =>
      obtain ⟨wall, offset⟩ := clock
      obtain ⟨occurredWall, occurredOffset⟩ := occurredAt
      cases offset with
      | none => cases aware _ rfl
      | some offset =>
          cases occurredOffset with
          | none => cases current
          | some occurredOffset =>
              simp only [ShipmentEventHandler.isLate, DateTime.lt, Except.ok.injEq,
                decide_eq_false_iff_not, Int.not_lt] at current
              simpa [ClockLe, Postgres.timestamptz, DateTime.instant, DateTime.utc] using
                current

/-! ## One shipment over one entry -/

/-- The projection that a transaction has read first, which is the one that its event
is handled against, with the number of transactions that had committed by then. -/
def Transaction.selected (transaction : Transaction) : List (Nat × ShipmentModel) :=
  match transaction.reads.getLast? with
  | some (.shipment lsn (some row)) => [(lsn, row)]
  | _ => []

theorem Reception.selected {reception : Reception} {transaction : Transaction}
    (reads : transaction.reads = reception.reads) :
    (reception.lsn, reception.row) ∈ transaction.selected := by
  simp [Transaction.selected, reads, Reception.reads]

/-- What an entry does to the shipment with an id: nothing, create it, or project
an event that was handled against the row its transaction had read. -/
inductive ShipmentStep (postgres : Postgres) (transaction : Transaction) (id : UUID) :
    Option ShipmentModel → Option ShipmentModel → Prop where
  | same (row : Option ShipmentModel) : ShipmentStep postgres transaction id row row
  | created (creation : Creation) (own : creation.id = id) :
      ShipmentStep postgres transaction id none (some (creation.shipmentRow postgres))
  | projected (reception : Reception) (current : ShipmentModel)
      (own : reception.row.id = id)
      (read : (reception.lsn, reception.row) ∈ transaction.selected)
      (handled : ShipmentEventHandler.handle (ShipmentMapper.toDomain reception.row)
        reception.event = (.ok reception.status, reception.after)) :
      ShipmentStep postgres transaction id (some current)
        (some ((postgres.shipmentPatch reception.patch).applyTo current))

section Steps

variable {server : Server} {base : Database} {quiet : Prop}
  {requests : ProcessId → Request} {wal : List Transaction} {request : Request}
  {transaction : Transaction}

/-- Step lemma: every entry is a step of every shipment. -/
theorem Effect.shipmentStep (effect : Effect server base quiet wal request transaction)
    (id : UUID) :
    ShipmentStep server.postgres transaction id ((replay base wal).shipment id)
      (((replay base wal).writeAll transaction.writes).shipment id) := by
  cases effect with
  | nothing writes =>
      rw [writes]
      exact .same _
  | created creation createdAt receivedAt freshShipment freshEvent freshOutbox writes =>
      rw [writes]
      simp only [Creation.writes, Database.writeAll_cons, Database.writeAll_nil,
        Database.shipment_insertOutbox, Database.shipment_insertEvent,
        Database.shipment_insertShipment]
      by_cases own : (creation.shipmentRow server.postgres).id = id
      · have same : creation.id = id := own
        rw [if_pos own, ← same, freshShipment]
        exact .created creation rfl
      · rw [if_neg own, Option.or_none]
        exact .same _
  | received reception reports lsn current found saved loaded identity handled payload
      reads freshEvent freshOutbox writes =>
      have read := Reception.selected reads
      rw [writes, Reception.writes, Database.writeAll_append, Reception.projection]
      split
      · exact .same _
      · simp only [Database.writeAll_cons, Database.writeAll_nil,
          Database.shipment_updateShipment, Database.shipment_insertOutbox,
          Database.shipment_insertEvent]
        by_cases own : id = reception.row.id
        · rw [if_pos own]
          cases present : (replay base wal).shipment id with
          | none => exact .same none
          | some row => exact .projected reception row own.symm read handled
        · rw [if_neg own]
          exact .same _
  | attempted attempt locked pending confirmed writes =>
      rw [writes]
      simp only [Attempt.writes, Database.writeAll_cons, Database.writeAll_nil,
        Database.shipment_updateOutbox]
      exact .same _

end Steps

/-! ## One projection -/

section Projection

variable {postgres : Postgres} {transaction : Transaction}
  {reception : Reception} {current before after : ShipmentModel} {id : UUID}

/-- The handler leaves the lifecycle timeline alone, or takes an edge from the status
that was read, at a time that is not late for the clock that was read. -/
theorem Reception.lifecycle (handled : ShipmentEventHandler.handle
      (ShipmentMapper.toDomain reception.row) reception.event =
        (.ok reception.status, reception.after)) :
    (reception.after.status = reception.row.status ∧
        reception.after.lastLifecycleAt = reception.row.lastLifecycleAt) ∨
      (ShipmentStateMachine.Edge reception.row.status reception.after.status ∧
        ShipmentEventHandler.isLate reception.row.lastLifecycleAt
          reception.event.occurredAt = .ok false ∧
        reception.after.lastLifecycleAt = some reception.event.occurredAt) := by
  obtain ⟨-, -, ⟨-, payload, -, ⟨-, equality, -⟩ | ⟨-, equality, -⟩⟩ |
    ⟨-, ⟨-, equality, -⟩ | ⟨-, late, next, edge, equality⟩⟩⟩ :=
      ShipmentEventHandler.handle_cases handled
  · exact .inl (by rw [equality]; exact ⟨rfl, rfl⟩)
  · exact .inl (by rw [equality]; exact ⟨rfl, rfl⟩)
  · exact .inl (by rw [equality]; exact ⟨rfl, rfl⟩)
  · rw [equality]
    exact .inr ⟨⟨_, edge⟩, late, rfl⟩

/-- It leaves the location timeline alone, or sets it to a time that is not late for the
clock that was read. -/
theorem Reception.location (handled : ShipmentEventHandler.handle
      (ShipmentMapper.toDomain reception.row) reception.event =
        (.ok reception.status, reception.after)) :
    reception.after.lastLocationAt = reception.row.lastLocationAt ∨
      (ShipmentEventHandler.isLate reception.row.lastLocationAt
          reception.event.occurredAt = .ok false ∧
        reception.after.lastLocationAt = some reception.event.occurredAt) := by
  obtain ⟨-, -, ⟨-, payload, -, ⟨-, equality, -⟩ | ⟨-, equality, late⟩⟩ |
    ⟨-, ⟨-, equality, -⟩ | ⟨-, late, next, edge, equality⟩⟩⟩ :=
      ShipmentEventHandler.handle_cases handled
  · exact .inl (by rw [equality]; rfl)
  · rw [equality]
    exact .inr ⟨late, rfl⟩
  · exact .inl (by rw [equality]; rfl)
  · exact .inl (by rw [equality]; rfl)

/-- A column of the row is left alone or set to what the handler has left. -/
theorem Reception.projected_columns (reception : Reception) (postgres : Postgres)
    (current : ShipmentModel) :
    let after := (postgres.shipmentPatch reception.patch).applyTo current
    (after.status = current.status ∨ after.status = reception.after.status) ∧
      (after.lastLifecycleAt = current.lastLifecycleAt ∨
        after.lastLifecycleAt =
          reception.after.lastLifecycleAt.map postgres.timestamptz) ∧
      (after.lastLocationAt = current.lastLocationAt ∨
        after.lastLocationAt = reception.after.lastLocationAt.map postgres.timestamptz) :=
  ⟨changedColumn_getD_cases _ _ _ _, changedColumn_map_getD_cases _ _ _ _ _,
    changedColumn_map_getD_cases _ _ _ _ _⟩

end Projection

/-! ## Timelines over a run -/

/-- The columns of a timeline are at the commit what the transaction has read. -/
def Undisputed {α : Type} (columns : ShipmentModel → α) (database : Database)
    (transaction : Transaction) : Prop :=
  ∀ entry ∈ transaction.selected, ∀ current ∈ database.shipment entry.2.id,
    columns current = columns entry.2

/-- Every commit in a stretch of the log finds the columns as its transaction has
read them. -/
def UndisputedBetween {α : Type} (columns : ShipmentModel → α) (base : Database)
    (wal : List Transaction) (first second : Nat) : Prop :=
  ∀ index < second, first ≤ index → ∀ transaction ∈ wal[index]?,
    Undisputed columns (replay base (wal.take index)) transaction

instance {α : Type} [DecidableEq α] (columns : ShipmentModel → α) (database : Database)
    (transaction : Transaction) : Decidable (Undisputed columns database transaction) :=
  inferInstanceAs (Decidable (∀ entry ∈ transaction.selected,
    ∀ current ∈ database.shipment entry.2.id, columns current = columns entry.2))

instance {α : Type} [DecidableEq α] (columns : ShipmentModel → α) (base : Database)
    (wal : List Transaction) (first second : Nat) :
    Decidable (UndisputedBetween columns base wal first second) :=
  inferInstanceAs (Decidable (∀ index < second, first ≤ index →
    ∀ transaction ∈ wal[index]?, Undisputed columns (replay base (wal.take index)) transaction))

/-- The lifecycle timeline. -/
def ShipmentModel.lifecycle (row : ShipmentModel) : ShipmentStatus × Option DateTime :=
  (row.status, row.lastLifecycleAt)

section Runs

variable {server : Server} {base : Database} {quiet : Prop}
  {requests : ProcessId → Request} {wal : List Transaction} {request : Request}
  {transaction : Transaction} {id : UUID} {before after : ShipmentModel}

/-- Step lemma: the clocks of a shipment stay aware. -/
theorem Effect.timestamped (effect : Effect server base quiet wal request transaction)
    (kept : Timestamped (replay base wal)) :
    Timestamped ((replay base wal).writeAll transaction.writes) := by
  intro id after left
  have step := effect.shipmentStep id
  rw [left] at step
  generalize found : (replay base wal).shipment id = row at step
  cases step with
  | same => exact kept id after found
  | created creation own =>
      constructor <;> intro value equality <;> cases equality
  | projected reception current own read handled =>
      obtain ⟨lifecycle, location⟩ := kept id current found
      have aware : ∀ clock : Option DateTime,
          AwareClock (clock.map server.postgres.timestamptz) := by
        intro clock value stored
        obtain ⟨given, -, rfl⟩ := Option.map_eq_some_iff.mp stored
        rfl
      obtain ⟨-, lifecycleAt, locationAt⟩ :=
        reception.projected_columns server.postgres current
      constructor
      · rcases lifecycleAt with same | written
        · rwa [same]
        · rw [written]
          exact aware _
      · rcases locationAt with same | written
        · rwa [same]
        · rw [written]
          exact aware _

/-- Run lemma: the clocks of every shipment stay aware. -/
theorem History.timestamped (history : History server base quiet requests wal)
    (stamped : Timestamped base) : Timestamped (replay base wal) := by
  induction history with
  | start => exact stamped
  | commit earlier effect first inductionHypothesis =>
      rw [replay_snoc]
      exact effect.timestamped inductionHypothesis

/-- Step lemma: a commit that finds the lifecycle timeline as it was read does not
move it backward. -/
theorem ShipmentStep.lifecycle_advances {postgres : Postgres} {database : Database}
    (step : ShipmentStep postgres transaction id (some before) (some after))
    (found : database.shipment id = some before) (stamped : Timestamped database)
    (undisputed : Undisputed ShipmentModel.lifecycle database transaction) :
    ClockLe postgres.localize before.lastLifecycleAt after.lastLifecycleAt ∧
      (after.status = before.status ∨
        ShipmentStateMachine.Edge before.status after.status) := by
  cases step with
  | same => exact ⟨.refl _ _, .inl rfl⟩
  | projected reception current own read handled =>
      obtain ⟨status, clock⟩ := Prod.mk.inj (undisputed _ read before (own ▸ found))
      obtain ⟨statusColumn, clockColumn, -⟩ := reception.projected_columns postgres before
      have advances : ClockLe postgres.localize before.lastLifecycleAt
            (reception.after.lastLifecycleAt.map postgres.timestamptz) ∧
          (reception.after.status = before.status ∨
            ShipmentStateMachine.Edge before.status reception.after.status) := by
        rcases Reception.lifecycle handled with ⟨sameStatus, sameClock⟩ |
          ⟨edge, late, moved⟩
        · rw [sameClock, sameStatus, clock, status]
          exact ⟨.timestamptz postgres _, .inl rfl⟩
        · rw [moved, status]
          rw [← clock] at late
          exact ⟨.of_isLate postgres (stamped id before found).1 late, .inr edge⟩
      constructor
      · rcases clockColumn with same | written
        · rw [same]
          exact .refl _ _
        · rw [written]
          exact advances.1
      · rcases statusColumn with same | written
        · exact .inl same
        · rw [written]
          exact advances.2

/-- Step lemma: the same of the location timeline. -/
theorem ShipmentStep.location_advances {postgres : Postgres} {database : Database}
    (step : ShipmentStep postgres transaction id (some before) (some after))
    (found : database.shipment id = some before) (stamped : Timestamped database)
    (undisputed : Undisputed ShipmentModel.lastLocationAt database transaction) :
    ClockLe postgres.localize before.lastLocationAt after.lastLocationAt := by
  cases step with
  | same => exact .refl _ _
  | projected reception current own read handled =>
      have clock : before.lastLocationAt = reception.row.lastLocationAt :=
        undisputed _ read before (own ▸ found)
      obtain ⟨-, -, same | written⟩ := reception.projected_columns postgres before
      · rw [same]
        exact .refl _ _
      · rw [written]
        rcases Reception.location handled with sameClock | ⟨late, moved⟩
        · rw [sameClock, clock]
          exact .timestamptz postgres _
        · rw [moved]
          rw [← clock] at late
          exact .of_isLate postgres (stamped id before found).2 late

/-- A delivered shipment has nowhere to go. -/
theorem delivered_of_reflTransGen {before after : ShipmentStatus}
    (path : Relation.ReflTransGen ShipmentStateMachine.Edge before after)
    (delivered : before = .delivered) : after = .delivered := by
  induction path with
  | refl => exact delivered
  | tail earlier edge inductionHypothesis =>
      rw [inductionHypothesis] at edge
      exact absurd edge (ShipmentStateMachine.not_edge_delivered _)

/-- Run lemma for the lifecycle timeline. -/
theorem History.lifecycle_advances (history : History server base quiet requests wal)
    (stamped : Timestamped base) {first second : Nat} (ordered : first ≤ second)
    (undisputed : UndisputedBetween ShipmentModel.lifecycle base wal first second)
    (found : (replay base (wal.take first)).shipment id = some before)
    (left : (replay base (wal.take second)).shipment id = some after) :
    ClockLe server.postgres.localize before.lastLifecycleAt after.lastLifecycleAt ∧
      Relation.ReflTransGen ShipmentStateMachine.Edge before.status after.status := by
  refine replay_shipment_induction
    (fun before after =>
      ClockLe server.postgres.localize before.lastLifecycleAt after.lastLifecycleAt ∧
        Relation.ReflTransGen ShipmentStateMachine.Edge before.status after.status)
    ordered (fun row => ⟨.refl _ _, .refl⟩)
    (fun one two three first second => ⟨first.1.trans second.1, first.2.trans second.2⟩)
    ?_ before after found left
  intro index low high transaction entry before after foundBefore foundAfter
  rw [replay_take_succ base entry] at foundAfter
  have step := (history.effect_of_getElem entry).shipmentStep id
  rw [foundBefore, foundAfter] at step
  obtain ⟨clock, same | edge⟩ := step.lifecycle_advances foundBefore
    ((history.take index).timestamped stamped) (undisputed index high low transaction entry)
  · exact ⟨clock, same ▸ .refl⟩
  · exact ⟨clock, .single edge⟩

/-- Run lemma for the location timeline. -/
theorem History.location_advances (history : History server base quiet requests wal)
    (stamped : Timestamped base) {first second : Nat} (ordered : first ≤ second)
    (undisputed : UndisputedBetween ShipmentModel.lastLocationAt base wal first second)
    (found : (replay base (wal.take first)).shipment id = some before)
    (left : (replay base (wal.take second)).shipment id = some after) :
    ClockLe server.postgres.localize before.lastLocationAt after.lastLocationAt := by
  refine replay_shipment_induction
    (fun before after =>
      ClockLe server.postgres.localize before.lastLocationAt after.lastLocationAt)
    ordered (fun row => .refl _ _) (fun one two three first second => first.trans second)
    ?_ before after found left
  intro index low high transaction entry before after foundBefore foundAfter
  rw [replay_take_succ base entry] at foundAfter
  have step := (history.effect_of_getElem entry).shipmentStep id
  rw [foundBefore, foundAfter] at step
  exact step.location_advances foundBefore ((history.take index).timestamped stamped)
    (undisputed index high low transaction entry)

end Runs

/-- The committed projection under any interleaving of any requests.  Over a
stretch of the log in which every commit finds the lifecycle timeline as its
transaction has read it, the lifecycle clock never decreases, a single commit
changes the status along an edge at most, and a delivered shipment stays
delivered.  The same holds of the location clock and the location timeline,
whatever happens to the other one. -/
theorem timelines_advance_undisputed (server : Server) (base : Database)
    (keyed : base.outboxKeys.Nodup) (stamped : Timestamped base)
    (requests : ProcessId → Request) (state : PlatformState)
    (reached : (platform server requests).Reachable { base := base } state) (id : UUID)
    (first second : Nat) (ordered : first ≤ second) (before after : ShipmentModel)
    (found : (replay base (state.world.wal.take first)).shipment id = some before)
    (left : (replay base (state.world.wal.take second)).shipment id = some after) :
    (UndisputedBetween ShipmentModel.lifecycle base state.world.wal first second →
      ClockLe server.postgres.localize before.lastLifecycleAt after.lastLifecycleAt ∧
        (second = first + 1 → after.status = before.status ∨
          ShipmentStateMachine.Edge before.status after.status) ∧
        Relation.ReflTransGen ShipmentStateMachine.Edge before.status after.status ∧
        (before.status = .delivered → after.status = .delivered)) ∧
      (UndisputedBetween ShipmentModel.lastLocationAt base state.world.wal first second →
        ClockLe server.postgres.localize before.lastLocationAt after.lastLocationAt) := by
  have kept : Invariant server base False requests state.world :=
    platform_invariant keyed reached
  refine ⟨fun undisputed => ?_, fun undisputed =>
    kept.history.location_advances stamped ordered undisputed found left⟩
  obtain ⟨clock, path⟩ :=
    kept.history.lifecycle_advances stamped ordered undisputed found left
  refine ⟨clock, ?_, path, delivered_of_reflTransGen path⟩
  rintro rfl
  cases entry : state.world.wal[first]? with
  | none =>
      rw [List.take_add_one, entry, Option.toList_none, List.append_nil, found] at left
      cases left
      exact .inl rfl
  | some transaction =>
      rw [replay_take_succ base entry] at left
      have step := (kept.history.effect_of_getElem entry).shipmentStep id
      rw [found, left] at step
      exact (step.lifecycle_advances found ((kept.history.take first).timestamped stamped)
        (undisputed first (Nat.lt_succ_self _) (Nat.le_refl _) transaction entry)).2

/-- Two reports about one shipment, with different event ids. -/
def deliveredAndDelayed : ProcessId → Request
  | 0 => .receiveEvent none (report 7 .delivered 20)
  | _ => .receiveEvent none (report 8 .delayDetected 15)

theorem onItsWay_timestamped : Timestamped onItsWay := by
  intro id row found
  have only : row = travelling := by
    have member := Table.mem_of_lookup found
    simpa [onItsWay] using member
  subst only
  exact ⟨fun value same => by cases same; rfl, fun value same => by cases same⟩

/-- The delivery is looked up after the delay has committed. -/
def orderlySchedule : List (Interaction.System.Action Choice) :=
  lookUp 1 ++ recordRest 1 101 ++ lookUp 0 ++ recordRest 0 100

/-- The status after each of the two commits, and whether each of them found the
timelines as they had been read. -/
theorem orderlySchedule_runs :
    (((platform Server.utc deliveredAndDelayed).run orderlySchedule
      ((platform Server.utc deliveredAndDelayed).initial { base := onItsWay })).map
        fun state =>
          (((replay onItsWay (state.world.wal.take 1)).shipment parcel).map
              ShipmentModel.lifecycle,
            ((replay onItsWay (state.world.wal.take 2)).shipment parcel).map
              ShipmentModel.lifecycle,
            decide (UndisputedBetween ShipmentModel.lifecycle onItsWay state.world.wal 1 2))) =
      some (some (.delayed, some (.utc 15)), some (.delivered, some (.utc 20)), true) := by
  decide +kernel

/-- From the delay to the delivery. -/
theorem orderly_timelines_advance :
    ∃ (state : PlatformState) (before after : ShipmentModel),
      (platform Server.utc deliveredAndDelayed).Reachable { base := onItsWay } state ∧
      before.lifecycle = (.delayed, some (.utc 15)) ∧
      after.lifecycle = (.delivered, some (.utc 20)) ∧
      ClockLe id before.lastLifecycleAt after.lastLifecycleAt ∧
      Relation.ReflTransGen ShipmentStateMachine.Edge before.status after.status := by
  obtain ⟨state, ran, shown⟩ := Option.map_eq_some_iff.mp orderlySchedule_runs
  obtain ⟨first, rest⟩ := Prod.mk.inj shown
  obtain ⟨second, undisputed⟩ := Prod.mk.inj rest
  obtain ⟨before, found, delayed⟩ := Option.map_eq_some_iff.mp first
  obtain ⟨after, left, delivered⟩ := Option.map_eq_some_iff.mp second
  have reached :
      (platform Server.utc deliveredAndDelayed).Reachable { base := onItsWay } state :=
    ⟨orderlySchedule, ran⟩
  obtain ⟨clock, -, path, -⟩ :=
    (timelines_advance_undisputed Server.utc onItsWay List.nodup_nil onItsWay_timestamped
      deliveredAndDelayed state reached parcel 1 2 (by decide) before after found left).1
      (of_decide_eq_true undisputed)
  exact ⟨state, before, after, reached, delayed, delivered, clock, path⟩

/-! ## An overlapping update -/

/-- Both requests look up the shipment before either of them commits. -/
def overlappingSchedule : List (Interaction.System.Action Choice) :=
  lookUp 0 ++ lookUp 1 ++ recordRest 0 100 ++ recordRest 1 101

/-- The committed lifecycle timeline after each of the two commits. -/
theorem overlappingSchedule_runs :
    (((platform Server.utc deliveredAndDelayed).run overlappingSchedule
      ((platform Server.utc deliveredAndDelayed).initial { base := onItsWay })).map
        fun state =>
          (((replay onItsWay (state.world.wal.take 1)).shipment travelling.id).map
              ShipmentModel.lifecycle,
            ((replay onItsWay (state.world.wal.take 2)).shipment travelling.id).map
              ShipmentModel.lifecycle)) =
      some (some (.delivered, some (.utc 20)), some (.delayed, some (.utc 15))) := by
  decide +kernel

/-- The committed projection can move backward: not every commit keeps the clocks
and takes an edge of the state machine. -/
theorem projection_moves_backward :
    ¬ ∀ state : PlatformState,
      (platform Server.utc deliveredAndDelayed).Reachable { base := onItsWay } state →
      ∀ (id : UUID) (index : Nat) (before after : ShipmentModel),
        (replay onItsWay (state.world.wal.take index)).shipment id = some before →
        (replay onItsWay (state.world.wal.take (index + 1))).shipment id = some after →
        ClockLe Server.utc.postgres.localize before.lastLifecycleAt after.lastLifecycleAt ∧
          ClockLe Server.utc.postgres.localize before.lastLocationAt after.lastLocationAt ∧
          (after.status = before.status ∨
            ShipmentStateMachine.Edge before.status after.status) := by
  intro claim
  obtain ⟨state, ran, shown⟩ := Option.map_eq_some_iff.mp overlappingSchedule_runs
  obtain ⟨first, second⟩ := Prod.mk.inj shown
  obtain ⟨before, found, lifecycle⟩ := Option.map_eq_some_iff.mp first
  obtain ⟨after, left, moved⟩ := Option.map_eq_some_iff.mp second
  have clock := (claim state ⟨overlappingSchedule, ran⟩ travelling.id 1 before after found
    left).1
  rw [(Prod.mk.inj lifecycle).2, (Prod.mk.inj moved).2] at clock
  have decreased : (20 : Int) ≤ 15 := clock
  exact absurd decreased (by decide)

end Freight
