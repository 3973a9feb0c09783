/-
Module: Freight.Proofs.ExactlyOnce
Purpose: Under any interleaving of requests, one event id has at most one event
  row, one outbox row and one transaction with an effect; the losers collide on
  the key of `shipment_events` and on nothing else.
Trusted boundary: none
Main exports:
  Request.Carries, Single, History.single, Effect.records_of_carries,
  History.writer_unique, duplicates_take_effect_once
-/
import Freight.Proofs.StoreWellFormed

namespace Freight

open Interaction (ProcessId)

/-- A request that reports an event under an id. -/
def Request.Carries (eventId : UUID) : Request → Prop
  | .receiveEvent _ reported => reported.eventId = eventId
  | .handleEvent _ event => event.eventId = eventId
  | _ => False

theorem Request.Carries.isReception {eventId : UUID} {request : Request}
    (carries : request.Carries eventId) : request.isReception = true := by
  cases request <;> first | rfl | cases carries

theorem Request.Reports.eventId {eventId : UUID} {request : Request}
    {correlationId : Option String} {event : ShipmentEvent}
    (reports : request.Reports correlationId event) (carries : request.Carries eventId) :
    event.eventId = eventId := by
  cases request with
  | receiveEvent _ reported =>
      obtain ⟨-, receivedAt, -, rfl⟩ := reports
      exact carries
  | handleEvent _ handled =>
      obtain ⟨-, rfl⟩ := reports
      exact carries
  | _ => cases reports

/-! ## Rows -/

/-- At most one event row and one outbox row for an event id. -/
structure Single (eventId : UUID) (database : Database) : Prop where
  event : (database.shipmentEvents.countP fun row => row.eventId = eventId) ≤ 1
  outbox : (database.outboxEvents.countP fun row => row.eventId = eventId) ≤ 1

section Rows

variable {eventId : UUID} {postgres : Postgres} {request : Request}
  {before after : Database}

/-- An event that is not recorded has no rows. -/
theorem countP_eq_zero_of_fresh (references : before.References)
    (fresh : before.event eventId = none) :
    (before.shipmentEvents.countP fun row => row.eventId = eventId) = 0 ∧
      (before.outboxEvents.countP fun row => row.eventId = eventId) = 0 := by
  have absent := Table.lookup_eq_none_iff.mp fresh
  constructor
  · rw [List.countP_eq_zero]
    intro row member same
    exact absent (of_decide_eq_true same ▸ List.mem_map_of_mem member)
  · rw [List.countP_eq_zero]
    intro row member same
    have recorded := references row member
    rw [of_decide_eq_true same, fresh] at recorded
    cases recorded

theorem countP_snapshots (rows : List OutboxEventModel) (eventId : UUID) :
    ((rows.map OutboxEventModel.snapshot).countP fun row => row.eventId = eventId) =
      rows.countP fun row => row.eventId = eventId := by
  rw [List.countP_map]
  rfl

/-- Adding an event row and its outbox row. -/
theorem Single.snoc (references : before.References) (kept : Single eventId before)
    {event : ShipmentEventModel} {outbox : OutboxEventModel}
    (fresh : before.event event.eventId = none) (same : outbox.eventId = event.eventId)
    (events : after.shipmentEvents = before.shipmentEvents ++ [event])
    (outboxEvents : after.outboxEvents = before.outboxEvents ++ [outbox]) :
    Single eventId after := by
  by_cases mine : event.eventId = eventId
  · obtain ⟨noEvent, noOutbox⟩ := countP_eq_zero_of_fresh references (mine ▸ fresh)
    constructor
    · rw [events, List.countP_append, noEvent]
      exact Nat.le_trans (Nat.le_of_eq (Nat.zero_add _)) List.countP_le_length
    · rw [outboxEvents, List.countP_append, noOutbox]
      exact Nat.le_trans (Nat.le_of_eq (Nat.zero_add _)) List.countP_le_length
  · constructor
    · rw [events, List.countP_append]
      simpa [mine] using kept.event
    · rw [outboxEvents, List.countP_append]
      simpa [same, mine] using kept.outbox

/-- Step lemma: no entry adds a second row. -/
theorem Entry.single (entry : Entry postgres request before after)
    (references : before.References) (kept : Single eventId before) :
    Single eventId after := by
  cases entry with
  | silent births events snapshots =>
      refine ⟨by rw [events]; exact kept.event, ?_⟩
      rw [← countP_snapshots, snapshots, countP_snapshots]
      exact kept.outbox
  | created recorded shipment event outbox announced freshShipment freshEvent created birth
      shipments events outboxEvents =>
      exact kept.snoc references freshEvent announced.eventId events outboxEvents
  | received recorded event outbox announced freshEvent received births events
      outboxEvents =>
      exact kept.snoc references freshEvent announced.eventId events outboxEvents

end Rows

section Runs

variable {server : Server} {base : Database} {quiet : Prop}
  {requests : ProcessId → Request} {wal : List Transaction} {eventId : UUID}
  {transaction : Transaction} {request : Request}

/-- Run lemma: a legal log keeps the rows of an event id single. -/
theorem History.single (history : History server base quiet requests wal)
    (references : base.References) (kept : Single eventId base) :
    Single eventId (replay base wal) := by
  induction history with
  | start => exact kept
  | @commit wal transaction earlier effect first inductionHypothesis =>
      rw [replay_snoc]
      exact effect.entry.single (earlier.references references) inductionHypothesis

/-! ## Transactions -/

/-- A transaction with an effect on behalf of an event id records that event,
which was not there. -/
theorem Effect.records_of_carries
    (effect : Effect server base quiet wal request transaction)
    (carries : request.Carries eventId) (written : transaction.writes ≠ []) :
    (replay base wal).event eventId = none ∧
      (((replay base wal).writeAll transaction.writes).event eventId).isSome := by
  cases effect with
  | nothing writes => exact absurd writes written
  | created => cases carries
  | received reception reports lsn current found saved loaded identity handled payload
      reads freshEvent freshOutbox writes =>
      rw [reports.eventId carries] at freshEvent
      refine ⟨freshEvent, ?_⟩
      have inserted : Write.insertEvent (reception.eventRow server.postgres) ∈
          reception.writes server.postgres := List.mem_cons_self
      have recorded : (((replay base wal).writeAll (reception.writes server.postgres)).event
          (reception.eventRow server.postgres).eventId).isSome :=
        Database.event_writeAll_of_inserted inserted
      have same : (reception.eventRow server.postgres).eventId = eventId :=
        reports.eventId carries
      rwa [same, ← writes] at recorded
  | attempted => cases carries

/-- What the log had recorded at one point it has recorded at every later one. -/
theorem replay_event_take_mono {first second : Nat} (ordered : first ≤ second)
    (recorded : ((replay base (wal.take first)).event eventId).isSome) :
    ((replay base (wal.take second)).event eventId).isSome := by
  obtain ⟨row, found⟩ := Option.isSome_iff_exists.mp recorded
  have shorter : wal.take first = (wal.take second).take first := by
    rw [List.take_take, Nat.min_eq_left ordered]
  rw [shorter] at found
  exact Option.isSome_iff_exists.mpr ⟨row, replay_event_of_take found⟩

/-- Of two transactions with an effect on behalf of one event id, none is later. -/
theorem History.writer_not_later (history : History server base quiet requests wal)
    {first second : Nat} {one two : Transaction} (foundOne : wal[first]? = some one)
    (foundTwo : wal[second]? = some two)
    (carriesOne : (requests one.process).Carries eventId)
    (carriesTwo : (requests two.process).Carries eventId) (writtenOne : one.writes ≠ [])
    (writtenTwo : two.writes ≠ []) : ¬ first < second := by
  intro ordered
  have recorded :=
    ((history.effect_of_getElem foundOne).records_of_carries carriesOne writtenOne).2
  rw [← replay_take_succ base foundOne] at recorded
  have free :=
    ((history.effect_of_getElem foundTwo).records_of_carries carriesTwo writtenTwo).1
  have still := replay_event_take_mono ordered recorded
  rw [free] at still
  cases still

/-- At most one transaction has an effect on behalf of one event id. -/
theorem History.writer_unique (history : History server base quiet requests wal)
    {first second : Nat} {one two : Transaction} (foundOne : wal[first]? = some one)
    (foundTwo : wal[second]? = some two)
    (carriesOne : (requests one.process).Carries eventId)
    (carriesTwo : (requests two.process).Carries eventId) (writtenOne : one.writes ≠ [])
    (writtenTwo : two.writes ≠ []) : first = second :=
  Nat.le_antisymm
    (Nat.not_lt.mp (history.writer_not_later foundTwo foundOne carriesTwo carriesOne
      writtenTwo writtenOne))
    (Nat.not_lt.mp (history.writer_not_later foundOne foundTwo carriesOne carriesTwo
      writtenOne writtenTwo))

end Runs

/-- Exactly-once effect under concurrent duplicates, among any other traffic and
with any rollbacks and crashes.  In every reachable state an event id has at most
one event row and one outbox row; at most one transaction carrying it has written
anything, and that one recorded the event; whatever constraint a carrier has been
told it violates is the key of `shipment_events`; and no HTTP request ends with an
integrity error. -/
theorem duplicates_take_effect_once (server : Server) (honest : server.Honest)
    (base : Database) (keyed : base.outboxKeys.Nodup) (references : base.References)
    (requests : ProcessId → Request) (eventId : UUID) (single : Single eventId base)
    (state : PlatformState)
    (reached : (platform server requests).Reachable { base := base } state) :
    Single eventId state.world.database ∧
      (∀ (index : Nat) transaction, state.world.wal[index]? = some transaction →
        (requests transaction.process).Carries eventId → transaction.writes ≠ [] →
        (replay base (state.world.wal.take index)).event eventId = none ∧
          ((replay base (state.world.wal.take (index + 1))).event eventId).isSome ∧
            ∀ (other : Nat) later, state.world.wal[other]? = some later →
              (requests later.process).Carries eventId → later.writes ≠ [] →
                other = index) ∧
      (∀ process, (requests process).Carries eventId → ∀ constraint text,
        .integrityError (some constraint) text ∈ state.world.raised process →
          constraint = "shipment_events_pkey") ∧
      (∀ process correlationId reported,
        requests process = .receiveEvent correlationId reported → ∀ error session,
        state.processes process = some (.done (.error error, session)) →
        ∀ constraintName text, error ≠ .integrityError constraintName text) := by
  have kept : Invariant server base False requests state.world :=
    platform_invariant keyed reached
  refine ⟨?_, ?_, ?_, ?_⟩
  · rw [World.database, kept.start]
    exact kept.history.single references single
  · intro index transaction found carries written
    have records := (kept.history.effect_of_getElem found).records_of_carries carries written
    rw [replay_take_succ base found]
    refine ⟨records.1, records.2, ?_⟩
    intro other later foundLater carriesLater writtenLater
    exact kept.history.writer_unique foundLater found carriesLater carries writtenLater
      written
  · intro process carries constraint text raised
    rcases kept.refusals process _ raised carries.isReception references constraint text rfl
      with faults | same
    · rw [honest] at faults
      cases faults
    · exact same
  · intro process correlationId reported requested error session finished
    have ended := platform_ended keyed reached finished
    rw [requested] at ended
    exact ended.2.1 honest references

/-! ## Two identical requests -/

/-- The shipment on its way. -/
def travelling : ShipmentModel where
  id := parcel
  referenceNumber := "FRT-1"
  origin := "Porto"
  destination := "Lyon"
  carrier := "carrier"
  status := .inTransit
  createdAt := .utc 0
  updatedAt := .utc 10
  currentLatitude := .null
  currentLongitude := .null
  lastLocationAt := none
  lastLifecycleAt := some (.utc 10)

/-- The tables before the two requests. -/
def onItsWay : Database := { shipments := [travelling] }

def deliveredTwice (_ : ProcessId) : Request := .receiveEvent none (report 7 .delivered 20)

/-- Neither request finds the event, and the second one inserts it after the first
has committed. -/
def collidingSchedule : List (Interaction.System.Action Choice) :=
  lookUp 0 ++ lookUp 1 ++ turns 1 [.proceed] ++ recordRest 0 100 ++
    turns 1 [.proceed, .proceed, .proceed, .uuid ⟨101#128⟩, .proceed]

theorem collidingSchedule_runs :
    (((platform Server.utc deliveredTwice).run collidingSchedule
      ((platform Server.utc deliveredTwice).initial { base := onItsWay })).map fun state =>
        ((state.world.raised 1).map PyError.typeName,
          (state.world.wal.map Transaction.process))) =
      some (["IntegrityError"], [0]) := by
  decide +kernel

/-- The tables after the collision. -/
theorem collision_takes_effect_once :
    ∃ state : PlatformState,
      (platform Server.utc deliveredTwice).Reachable { base := onItsWay } state ∧
      (state.world.raised 1).map PyError.typeName = ["IntegrityError"] ∧
      Single ⟨7#128⟩ state.world.database := by
  obtain ⟨state, ran, shown⟩ := Option.map_eq_some_iff.mp collidingSchedule_runs
  have reached : (platform Server.utc deliveredTwice).Reachable { base := onItsWay } state :=
    ⟨collidingSchedule, ran⟩
  refine ⟨state, reached, (Prod.mk.inj shown).1, ?_⟩
  exact (duplicates_take_effect_once Server.utc Server.utc_honest onItsWay List.nodup_nil
    (by simp [Database.References, onItsWay]) deliveredTwice ⟨7#128⟩
    ⟨by decide, by decide⟩ state reached).1

end Freight
