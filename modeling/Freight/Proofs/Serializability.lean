/-
Module: Freight.Proofs.Serializability
Purpose: Receptions that do not overlap on a shipment are serializable: whatever else was
  interleaved, they leave what the same requests leave when each is served alone, in the
  order of their commits.
Trusted boundary: none
Main exports:
  platform_sourced, recordedContents, Transaction.shipments, Apart, writers, receptions_serialize
-/
import Freight.Proofs.ProjectionReplay
import Freight.Proofs.Redelivery

namespace Freight

open Interaction (ProcessId)

/-! ## Sources

An event whose source is null is refused by its column, so a transaction that has recorded an
event knows its source. -/

/-- An event row comes with a source. -/
def Write.Sourced : Write → Prop
  | .insertEvent row => row.source ≠ .null
  | _ => True

/-- All writes so far, committed or not, do. -/
structure World.Sourced (world : World) : Prop where
  pending : ∀ process, ∀ write ∈ world.writes process, write.Sourced
  committed : ∀ transaction ∈ world.wal, ∀ write ∈ transaction.writes, write.Sourced

namespace World.Sourced

variable {world : World} {process : ProcessId}

theorem append (sourced : world.Sourced) {locks : List Lock} {write : Write}
    (own : write.Sourced) : ((world.hold process locks).append process write).Sourced where
  pending := by
    intro other
    rw [World.append, World.hold]
    by_cases same : other = process
    · subst same
      simpa [or_imp, forall_and, own] using sourced.pending other
    · simpa [same] using sourced.pending other
  committed := sourced.committed

theorem discard (sourced : world.Sourced) : (world.discard process).Sourced where
  pending := by
    intro other
    by_cases same : other = process
    · simp [World.discard, same]
    · simpa [World.discard, same] using sourced.pending other
  committed := sourced.committed

theorem commit (sourced : world.Sourced) : (world.commit process).Sourced where
  pending := sourced.discard.pending
  committed := by
    intro transaction member
    rcases List.mem_append.mp member with earlier | last
    · exact sourced.committed transaction earlier
    · cases List.mem_singleton.mp last
      exact sourced.pending process

/-- What touches no writes. -/
theorem of_eq (sourced : world.Sourced) {after : World} (writes : after.writes = world.writes)
    (wal : after.wal = world.wal) : after.Sourced :=
  ⟨by rw [writes]; exact sourced.pending, by rw [wal]; exact sourced.committed⟩

theorem settle (sourced : world.Sourced) {α : Type} {outcome : Except PyError α} :
    (world.settle process outcome).Sourced := by
  cases outcome <;> exact sourced.of_eq rfl rfl

theorem insertRow (sourced : world.Sourced) {keys : List UniqueKey}
    {references : List ForeignKey} {write : Write} {answer : Except PyError Unit} {after : World}
    (inserted : insertRow process keys references write world = some (answer, after))
    (own : write.Sourced) : after.Sourced := by
  unfold Freight.insertRow at inserted
  split at inserted
  · cases inserted
  · cases inserted
    exact sourced
  · split at inserted
    · cases inserted
      exact sourced
    · cases inserted
      exact sourced.append own

theorem updateRow (sourced : world.Sourced) {lock : Lock} {present : Bool} {write : Write}
    {answer : Except PyError Unit} {after : World}
    (updated : updateRow process lock present write world = some (answer, after))
    (own : write.Sourced) : after.Sourced := by
  unfold Freight.updateRow at updated
  split at updated
  · cases updated
  · split at updated
    · cases updated
      exact sourced.append own
    · cases updated
      exact sourced

variable {server : Server}

theorem proceed (sourced : world.Sourced) {statement : Statement}
    {answer : Except PyError (Reply statement)} {after : World}
    (proceeds : server.proceed process statement world = some (answer, after)) :
    after.Sourced := by
  cases statement with
  | selectShipment id => cases proceeds; exact sourced.of_eq rfl rfl
  | selectEventId eventId => cases proceeds; exact sourced.of_eq rfl rfl
  | insertShipment row =>
      simp only [Server.proceed] at proceeds
      exact sourced.insertRow proceeds trivial
  | insertEvent row =>
      simp only [Server.proceed, Server.insertEvent] at proceeds
      split at proceeds
      · cases proceeds
        exact sourced
      · rename_i source
        exact sourced.insertRow proceeds source
  | insertOutbox row => exact sourced.insertRow proceeds trivial
  | updateShipment id patch => exact sourced.updateRow proceeds trivial
  | claimOutbox now =>
      simp only [Server.proceed] at proceeds
      split at proceeds
      · cases proceeds
        exact sourced
      · cases proceeds
        exact sourced.of_eq rfl rfl
  | updateOutbox id patch => exact sourced.updateRow proceeds trivial
  | commit => cases proceeds; exact sourced.commit
  | rollback => cases proceeds; exact sourced.discard
  | observe => cases proceeds; exact sourced
  | publish message => cases proceeds; exact sourced.of_eq rfl rfl
  | respond response => cases proceeds; exact sourced.of_eq rfl rfl
  | uuid4 => cases proceeds
  | now => cases proceeds

/-- Step lemma: whatever a process asks of the server. -/
theorem perform (sourced : world.Sourced) {statement : Statement} {choice : Choice}
    {answer : Except PyError (Reply statement)} {after : World}
    (performed : server.perform process statement choice world = some (answer, after)) :
    after.Sourced := by
  obtain ⟨⟨reply, reached⟩, executed, settled⟩ := Option.map_eq_some_iff.mp performed
  cases settled
  apply settle
  cases choice with
  | proceed => exact sourced.proceed executed
  | uuid id =>
      cases statement with
      | uuid4 =>
          simp only [Server.execute, Server.drawUuid] at executed
          split at executed
          · cases executed
          · cases executed
            exact sourced.of_eq rfl rfl
      | _ => cases executed
  | time value =>
      cases statement with
      | now =>
          simp only [Server.execute, Server.readClock] at executed
          split at executed
          · cases executed
            exact sourced
          · cases executed
      | _ => cases executed
  | fault error =>
      simp only [Server.execute] at executed
      split at executed
      · cases executed
        cases statement with
        | rollback => exact sourced.discard
        | publish message => exact sourced.of_eq rfl rfl
        | _ => exact sourced
      · cases executed

end World.Sourced

/-- Run lemma. -/
theorem platform_sourced {server : Server} {base : Database} {requests : ProcessId → Request}
    {state : PlatformState}
    (reached : (platform server requests).Reachable { base := base } state) :
    state.world.Sourced := by
  obtain ⟨actions, ran⟩ := reached
  refine (platform server requests).run_induction
    (motive := fun state => state.world.Sourced) ?_ ?_ ran
  · intro action state next sourced stepped
    rcases (platform server requests).step_cases stepped with
      ⟨process, choice, op, resume, answer, after, rfl, found, acted, rfl⟩ |
        ⟨process, program, rfl, found, rfl⟩
    · exact sourced.perform acted
    · exact sourced.discard
  · constructor
    · intro process write member
      cases member
    · intro transaction member
      cases member

/-! ## What is recorded -/

/-- An outbox row as it was added, whatever relays have made of it since. -/
def OutboxEventModel.unattempted (row : OutboxEventModel) : OutboxEventModel :=
  { row with
    nextAttemptAt := .utc 0
    attempts := 0
    publishedAt := none
    lastError := none }

/-- What receptions have recorded: the contents of the tables, without what relays have made
of the outbox. -/
def recordedContents (clocked : UUID → Bool) (database : Database) : Database :=
  { contents clocked database with
    outboxEvents :=
      (contents clocked database).outboxEvents.map OutboxEventModel.unattempted }

section Recorded

variable {clocked : UUID → Bool} {first second firstAfter secondAfter : Database}

/-- Tables that record the same agree on what a verdict depends on. -/
theorem verdict_recorded_congr (postgres : Postgres) (event : ShipmentEvent)
    (same : recordedContents clocked first = recordedContents clocked second) :
    ReceiveShipmentEvent.verdict postgres first event =
      ReceiveShipmentEvent.verdict postgres second event := by
  have shipments : first.shipments = second.shipments :=
    show (recordedContents clocked first).shipments =
      (recordedContents clocked second).shipments by rw [same]
  have events : first.shipmentEvents.map (ShipmentEventModel.content clocked) =
      second.shipmentEvents.map (ShipmentEventModel.content clocked) :=
    show (recordedContents clocked first).shipmentEvents =
      (recordedContents clocked second).shipmentEvents by rw [same]
  have keys : first.shipmentEvents.map ShipmentEventModel.eventId =
      second.shipmentEvents.map ShipmentEventModel.eventId :=
    (contents_eventIds clocked first).symm.trans
      ((congrArg (List.map ShipmentEventModel.eventId) events).trans
        (contents_eventIds clocked second))
  apply verdict_congr
  · rw [Database.shipment, Database.shipment, shipments]
  · apply Bool.eq_iff_iff.mpr
    rw [Option.isSome_iff_exists, Option.isSome_iff_exists, Database.event, Database.event,
      Table.exists_lookup_iff, Table.exists_lookup_iff, keys]

/-- What a reception adds to what is recorded. -/
theorem recorded_writeAll (reception : Reception) (postgres : Postgres) (database : Database) :
    recordedContents clocked (database.writeAll (reception.writes postgres)) =
      { shipments :=
          Table.modify ShipmentModel.id (recordedContents clocked database).shipments
            reception.row.id (postgres.shipmentPatch reception.patch).applyTo
        shipmentEvents := (recordedContents clocked database).shipmentEvents ++
          [(reception.eventRow postgres).content clocked]
        outboxEvents := (recordedContents clocked database).outboxEvents ++
          [((reception.outboxRow postgres).content clocked).unattempted] } := by
  rw [recordedContents, contents_writeAll]
  simp [recordedContents, contents]

/-- Receptions on behalf of one request, from tables that record the same, record the
same. -/
theorem Receives.recorded_eq {postgres : Postgres} {request : Request}
    {reported : ShipmentEvent}
    (timed : ∀ correlationId reported, request = .receiveEvent correlationId reported →
      clocked reported.eventId = true)
    (one : Receives postgres request reported first firstAfter)
    (two : Receives postgres request reported second secondAfter)
    (same : recordedContents clocked first = recordedContents clocked second) :
    recordedContents clocked firstAfter = recordedContents clocked secondAfter := by
  obtain ⟨reception, reports, found, unmoved, -, handled, rfl⟩ := one
  obtain ⟨again, reportsToo, foundToo, unmovedToo, -, handledToo, rfl⟩ := two
  have shipments : first.shipments = second.shipments :=
    show (recordedContents clocked first).shipments =
      (recordedContents clocked second).shipments by rw [same]
  have row : reception.row = again.row := by
    rw [Database.shipment, shipments] at found
    exact Option.some.inj (found.symm.trans foundToo)
  rw [row, handledToo] at handled
  obtain ⟨status, shipment⟩ := Prod.mk.inj handled
  obtain ⟨events, outbox⟩ := Reception.content_congr postgres reports reportsToo
    (Except.ok.inj status).symm timed
  have patch : reception.patch = again.patch := by
    rw [Reception.Unmoved.patch unmoved, Reception.Unmoved.patch unmovedToo, row, shipment]
  rw [recorded_writeAll, recorded_writeAll, same, events, outbox, patch, row]

/-- Relays change nothing that receptions have recorded. -/
theorem recorded_updateOutbox (database : Database) (id : UUID) (patch : OutboxPatch) :
    recordedContents clocked (database.writeAll [.updateOutbox id patch]) =
      recordedContents clocked database := by
  have rows : ∀ rows : List OutboxEventModel,
      ((Table.modify OutboxEventModel.id rows id patch.applyTo).map
          (OutboxEventModel.content clocked)).map OutboxEventModel.unattempted =
        (rows.map (OutboxEventModel.content clocked)).map OutboxEventModel.unattempted := by
    intro rows
    simp only [Table.modify, List.map_map]
    refine List.map_congr_left fun row _ => ?_
    by_cases own : row.id = id
    · simp [own, OutboxPatch.applyTo, OutboxEventModel.content, OutboxEventModel.unattempted]
    · simp [own]
  rw [recordedContents, recordedContents]
  congr 1
  exact rows database.outboxEvents

end Recorded

/-! ## The serial order -/

/-- The shipments whose events a transaction records. -/
def Transaction.shipments (transaction : Transaction) : List UUID :=
  transaction.writes.filterMap fun
    | .insertEvent row => some row.shipmentId
    | _ => none

/-- No reception overlaps another one of its shipment. -/
def Apart (wal : List Transaction) : Prop :=
  ∀ transaction ∈ wal, ∀ id ∈ transaction.shipments, NonOverlapping wal id

instance (wal : List Transaction) : Decidable (Apart wal) :=
  inferInstanceAs (Decidable (∀ transaction ∈ wal, ∀ id ∈ transaction.shipments,
    NonOverlapping wal id))

section Serial

variable (requests : ProcessId → Request)

/-- Whether a reception has written something. -/
def wrote (transaction : Transaction) : Bool :=
  (requests transaction.process).reported.isSome && !transaction.writes.isEmpty

/-- The processes of the receptions that have, in the order of their commits. -/
def writers (wal : List Transaction) : List ProcessId :=
  (wal.filter (wrote requests)).map Transaction.process

variable {server : Server} {base : Database} {clocked : UUID → Bool}
  {wal skipped later : List Transaction} {transaction : Transaction}
  {reported : ShipmentEvent}

variable {requests}

/-- Step lemma: who has written nothing, and who has published something, leaves what is
recorded. -/
theorem Effect.recorded_eq
    (effect : Effect server base False wal (requests transaction.process) transaction)
    (role : (requests transaction.process).reported.isSome ∨
      ∃ retryDelay, requests transaction.process = .publishOne retryDelay)
    (silent : wrote requests transaction = false) :
    recordedContents clocked ((replay base wal).writeAll transaction.writes) =
      recordedContents clocked (replay base wal) := by
  generalize named : requests transaction.process = request at effect role
  cases effect with
  | nothing writes =>
      rw [writes]
      rfl
  | created creation =>
      rcases role with reports | ⟨retryDelay, relays⟩
      · cases reports
      · cases relays
  | attempted attempt locked pending confirmed writes =>
      rw [writes]
      exact recorded_updateOutbox _ _ _
  | received reception reports lsn current found saved loaded identity handled payload
      reads freshEvent freshOutbox writes =>
      obtain ⟨event, reporting, -⟩ := reports.exists_reported
      rw [wrote, named, reporting, writes] at silent
      cases silent

/-- Run lemma: so do all that stand between two writers. -/
theorem History.recorded_skipped
    (history : History server base False requests (wal ++ (skipped ++ later)))
    (roles : ∀ process, (requests process).reported.isSome ∨
      ∃ retryDelay, requests process = .publishOne retryDelay)
    (silent : ∀ transaction ∈ skipped, wrote requests transaction = false) :
    recordedContents clocked (replay base (wal ++ skipped)) =
      recordedContents clocked (replay base wal) := by
  induction skipped generalizing wal with
  | nil => rw [List.append_nil]
  | cons transaction skipped inductionHypothesis =>
      have stands : (wal ++ (transaction :: skipped ++ later))[wal.length]? =
          some transaction := by simp
      have effect := history.effect_of_getElem stands
      rw [List.take_left] at effect
      rw [List.cons_append, List.append_cons] at history
      rw [List.append_cons, inductionHypothesis history
        fun other member => silent other (List.mem_cons_of_mem _ member), replay_snoc]
      exact effect.recorded_eq (roles _) (silent transaction List.mem_cons_self)

/-- Step lemma: a reception that has committed apart from the others of its shipment is a
reception of the shipment as it then was, and so the verdict on its event at that moment. -/
theorem History.received_apart (history : History server base False requests (wal ++ later))
    (stands : later.head? = some transaction)
    (apart : Apart (wal ++ later))
    (sourced : ∀ write ∈ transaction.writes, write.Sourced)
    (names : (requests transaction.process).reported = some reported)
    (writes : transaction.writes ≠ []) :
    Receives server.postgres (requests transaction.process) reported (replay base wal)
        (replay base (wal ++ [transaction])) ∧
      ∃ row status after, ReceiveShipmentEvent.verdict server.postgres (replay base wal)
        reported = .recorded row status after := by
  obtain ⟨rest, rfl⟩ := List.head?_eq_some_iff.mp stands
  have here : (wal ++ transaction :: rest)[wal.length]? = some transaction := by simp
  have effect := history.effect_of_getElem here
  rw [List.take_left] at effect
  generalize named : requests transaction.process = request at effect names ⊢
  cases effect with
  | nothing empty => exact absurd empty writes
  | created creation => cases names
  | attempted attempt => cases names
  | received reception reports lsn current found saved loaded identity handled payload
      reads unrecorded freshOutbox written =>
      have inserted : Write.insertEvent (reception.eventRow server.postgres) ∈
          transaction.writes := by
        rw [written]
        exact List.mem_cons_self
      have alone : NonOverlapping (wal ++ transaction :: rest) reception.event.shipmentId :=
        apart transaction (by simp) _ (List.mem_filterMap.mpr ⟨_, inserted, rfl⟩)
      have silent : Unrecorded (wal ++ transaction :: rest) reception.event.shipmentId
          reception.lsn wal.length := by
        refine alone wal.length (by simp) transaction here ?_ (reception.lsn, reception.row)
          (Reception.selected reads)
        rw [Transaction.records, List.any_eq_true]
        exact ⟨_, inserted, by simp [Reception.eventRow, Postgres.eventRow, EventMapper.toModel,
          Reception.recorded]⟩
      have current := history.shipment_unrecorded lsn silent
        (by rw [List.take_append_of_le_length lsn]; exact found)
      have again := history.shipment_unrecorded saved.2
        (fun index high low => silent index high (Nat.le_trans saved.1 low))
        (by rw [List.take_append_of_le_length saved.2]; exact loaded)
      have unmoved : reception.Unmoved := Option.some.inj (again.symm.trans current)
      rw [List.take_left] at current
      have source : server.postgres.varchar reception.event.source ≠ .null :=
        sourced _ inserted
      have received := (ShipmentEventHandler.handle_cases handled).2.1
      have verdict := ReceiveShipmentEvent.verdict_of_handled received current unrecorded handled
        payload source
      obtain ⟨event, reporting, same⟩ := reports.exists_reported
      cases names.symm.trans reporting
      rw [same] at current unrecorded handled
      rw [same, ReceiveShipmentEvent.verdict_receivedAt] at verdict
      refine ⟨⟨reception, reports, current, unmoved, unrecorded, handled, ?_⟩, _, _, _, verdict⟩
      rw [replay_snoc, written]

/-- How far a serial order has got: its tables record what the log had recorded at some
point, and the processes that are to come are the writers after it. -/
def Behind (base : Database) (requests : ProcessId → Request) (clocked : UUID → Bool)
    (wal : List Transaction) (processes : List ProcessId) (database : Database) : Prop :=
  ∃ earlier later, wal = earlier ++ later ∧ writers requests later = processes ∧
    recordedContents clocked database = recordedContents clocked (replay base earlier)

/-- Step lemma: the next writer alone records what it has recorded in the log. -/
theorem Behind.step {process : ProcessId} {rest : List ProcessId} {before after : Database}
    {receivedAt : DateTime} (history : History server base False requests wal)
    (apart : Apart wal)
    (sourced : ∀ transaction ∈ wal, ∀ write ∈ transaction.writes, write.Sourced)
    (roles : ∀ process, (requests process).reported.isSome ∨
      ∃ retryDelay, requests process = .publishOne retryDelay)
    (timed : ∀ process correlationId reported,
      requests process = .receiveEvent correlationId reported →
        clocked reported.eventId = true)
    (behind : Behind base requests clocked wal (process :: rest) before)
    (names : (requests process).reported = some reported)
    (leaves : (ReceiveShipmentEvent.verdict server.postgres before
        { reported with receivedAt := receivedAt }).Leaves server.postgres (requests process)
      { reported with receivedAt := receivedAt } before after) :
    Behind base requests clocked wal rest after := by
  obtain ⟨earlier, later, rfl, writing, same⟩ := behind
  obtain ⟨transaction, _, found, rfl, rfl⟩ := List.map_eq_cons_iff.mp writing
  obtain ⟨skipped, following, rfl, silent, wrote, rfl⟩ := List.filter_eq_cons_iff.mp found
  have reached := (history.recorded_skipped roles
    fun other member => Bool.eq_false_iff.mpr (silent other member)).trans same.symm
  rw [← List.append_assoc] at history apart sourced
  obtain ⟨receives, row, status, shipment, verdict⟩ := history.received_apart rfl apart
    (sourced _ (by simp)) names (by simpa using (Bool.and_eq_true_iff.mp wrote).2)
  rw [verdict_recorded_congr server.postgres reported reached] at verdict
  have settling := leaves.settling
  simp only [Settling, verdict] at settling
  refine ⟨earlier ++ skipped ++ [transaction], following, ?_, rfl, ?_⟩
  · simp
  · exact settling.recorded_eq (fun correlationId reported => timed _ correlationId reported)
      receives reached.symm

end Serial

section Serializability

variable (server : Server) (base : Database) (requests : ProcessId → Request)

/-- Any run of receptions and relays, with whatever interleavings, faults and crashes, whose
receptions of one shipment do not overlap: those that have recorded something, each served
alone from the same tables in the order of their commits, leave the same records. -/
theorem receptions_serialize (references : base.References) (keyed : base.outboxKeys.Nodup)
    (roles : ∀ process, (requests process).reported.isSome ∨
      ∃ retryDelay, requests process = .publishOne retryDelay)
    (clocked : UUID → Bool)
    (timed : ∀ process correlationId reported,
      requests process = .receiveEvent correlationId reported →
        clocked reported.eventId = true)
    (state : PlatformState)
    (reached : (platform server requests).Reachable { base := base } state)
    (apart : Apart state.world.wal) :
    Sequence server.calm requests (writers requests state.world.wal)
      (fun final => recordedContents clocked final.database =
        recordedContents clocked state.world.database)
      { base := base } := by
  have kept := platform_invariant keyed reached
  have sourced := (platform_sourced reached).committed
  have unstarted : Unstarted server.calm base requests (writers requests state.world.wal)
      { base := base } :=
    { kept := Invariant.initial
      locks := rfl
      distinct := kept.history.processes_nodup.sublist (List.filter_sublist.map _)
      fresh := fun _ _ => rfl
      uncommitted := fun _ _ => by simp }
  have receptions : ∀ process ∈ writers requests state.world.wal,
      (requests process).reported.isSome := by
    intro process member
    obtain ⟨transaction, wrote, rfl⟩ := List.mem_map.mp member
    exact (Bool.and_eq_true_iff.mp (List.mem_filter.mp wrote).2).1
  have served := unstarted.sequence
    (motive := fun processes database =>
      Behind base requests clocked state.world.wal processes database)
    server.calm_faultless references
    (fun process rest reported receivedAt before after behind names leaves =>
      behind.step kept.history apart sourced roles timed names leaves)
    receptions ⟨[], state.world.wal, rfl, rfl, rfl⟩
  refine served.mono ?_
  rintro final ⟨earlier, later, log, nobody, same⟩
  have silent : ∀ transaction ∈ later, wrote requests transaction = false := by
    intro transaction member
    by_contra wrote
    have writer : transaction.process ∈ writers requests later :=
      List.mem_map_of_mem (List.mem_filter.mpr ⟨member, Bool.eq_true_of_not_eq_false wrote⟩)
    rw [nobody] at writer
    cases writer
  have history : History server base False requests (earlier ++ (later ++ [])) := by
    rw [List.append_nil, ← log]
    exact kept.history
  rw [same, World.database, kept.start, log]
  exact (history.recorded_skipped roles silent).symm

end Serializability

/-! ## Two shipments on their way -/

/-- Another shipment on its way. -/
def secondParcel : UUID := ⟨5#128⟩

/-- Two shipments, and no events. -/
def bothOnTheirWay : Database :=
  { shipments :=
      [travelling, { travelling with id := secondParcel, referenceNumber := "FRT-2" }] }

/-- A report about one, a message about the other, and relays. -/
def reportsOnBoth : ProcessId → Request
  | 0 => .receiveEvent none (report 7 .delivered 20)
  | 1 => .handleEvent none { located 8 25 with shipmentId := secondParcel }
  | _ => .publishOne 1000

/-- Both have read before either commits; the relay of the first event comes between. -/
def serializableSchedule : List (Interaction.System.Action Choice) :=
  turns 1 [.proceed, .proceed] ++ lookUp 0 ++ recordRest 0 100 ++ relayTurns 2 ++
    turns 1 [.proceed, .proceed, .proceed, .uuid ⟨101#128⟩, .proceed, .time (.utc 32), .proceed] ++
    turns 2 [.proceed, .time (.utc 41), .proceed, .proceed] ++
    turns 1 (List.replicate 4 .proceed)

theorem serializableSchedule_runs :
    (((platform Server.utc reportsOnBoth).run serializableSchedule
      ((platform Server.utc reportsOnBoth).initial { base := bothOnTheirWay })).map fun state =>
        (state.world.wal.map Transaction.process, writers reportsOnBoth state.world.wal,
          decide (Apart state.world.wal))) =
      some ([0, 2, 1], [0, 1], true) := by
  decide +kernel

/-- Served alone and one after the other, the report and the message leave the same. -/
theorem interleaved_reports_serialize :
    ∃ state : PlatformState,
      (platform Server.utc reportsOnBoth).Reachable { base := bothOnTheirWay } state ∧
        Sequence Server.utc.calm reportsOnBoth [0, 1]
          (fun final => recordedContents (fun id => id = ⟨7#128⟩) final.database =
            recordedContents (fun id => id = ⟨7#128⟩) state.world.database)
          { base := bothOnTheirWay } := by
  obtain ⟨state, ran, shown⟩ := Option.map_eq_some_iff.mp serializableSchedule_runs
  obtain ⟨-, shown⟩ := Prod.mk.inj shown
  obtain ⟨writing, apart⟩ := Prod.mk.inj shown
  have reached : (platform Server.utc reportsOnBoth).Reachable { base := bothOnTheirWay }
      state := ⟨serializableSchedule, ran⟩
  refine ⟨state, reached, ?_⟩
  rw [← writing]
  refine receptions_serialize Server.utc bothOnTheirWay reportsOnBoth
    (by simp [Database.References, bothOnTheirWay]) List.nodup_nil ?_ _ ?_ state reached
    (of_decide_eq_true apart)
  · rintro (_ | _ | process)
    · exact .inl rfl
    · exact .inl rfl
    · exact .inr ⟨1000, rfl⟩
  · rintro (_ | _ | process) correlationId reported requested
    · cases requested
      rfl
    · cases requested
    · cases requested

end Freight
