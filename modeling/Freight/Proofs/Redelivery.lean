/-
Module: Freight.Proofs.Redelivery
Purpose: A delivery whose event is recorded already, and one that was rejected, can be
  deleted from a sequence of deliveries: what the tables contain at its end is the same.
Trusted boundary: none
Main exports:
  Course, Delivery, Delivered, Rejected, Thinned, Served, contents, verdict_congr,
  Reception.content_congr, Receives, Settling, Delivered.step, Settling.contents_eq,
  Thinned.contents_eq, redelivery_invisible
-/
import Freight.Proofs.Admission
import Freight.Store.Sequence

namespace Freight

open Interaction (ProcessId Contract Computation Program)

/-! ## Deliveries -/

/-- How a delivery goes: the environment lets it be, an exception of the environment
aborts it before anything is committed, or such an exception interrupts it after the
writes have been. -/
inductive Course where
  | unhindered
  | aborted
  | interrupted
deriving DecidableEq, Repr

/-- A delivery of an event, over HTTP or by the worker, in a process of its own. -/
structure Delivery where
  process : ProcessId
  course : Course
deriving DecidableEq, Repr

section Definitions

variable (server : Server) (requests : ProcessId → Request)

/-- A delivery that nothing else overlaps has ended, with every lock released: how, and
the world before and after it. -/
def Delivered (delivery : Delivery) (outcome : Except PyError Unit) (before after : World) :
    Prop :=
  ∃ choices session,
    (requests delivery.process).program.run (server.perform delivery.process) choices before =
        some ((outcome, session), after) ∧
      after.locks = [] ∧
      match delivery.course with
      | .unhindered => before.Spare ∧ ∀ choice ∈ choices, choice.isFault = false
      | .aborted => after.database = before.database
      | .interrupted => ∃ transaction, after.wal = before.wal ++ [transaction] ∧
          transaction.writes ≠ []

/-- The event of a delivery has been recorded. -/
def AlreadyRecorded (delivery : Delivery) (world : World) : Prop :=
  ∃ event, (requests delivery.process).reported = some event ∧
    (world.database.event event.eventId).isSome

/-- A delivery was rejected: it raised, and not after its writes were committed. -/
def Rejected (delivery : Delivery) (outcome : Except PyError Unit) : Prop :=
  delivery.course ≠ .interrupted ∧ ∃ error, outcome = .error error

/-- Deliveries one after the other, from one world to another, and those of them that
are kept when some of those go whose event was recorded already, or which were
rejected. -/
inductive Thinned : World → List Delivery → World → List Delivery → Prop where
  | nil (world : World) : Thinned world [] world []
  | keep {delivery : Delivery} {rest kept : List Delivery} {outcome : Except PyError Unit}
      {before middle after : World}
      (delivered : Delivered server requests delivery outcome before middle)
      (thinned : Thinned middle rest after kept) :
      Thinned before (delivery :: rest) after (delivery :: kept)
  | drop {delivery : Delivery} {rest kept : List Delivery} {outcome : Except PyError Unit}
      {before middle after : World}
      (delivered : Delivered server requests delivery outcome before middle)
      (traceless : AlreadyRecorded requests delivery before ∨ Rejected delivery outcome)
      (thinned : Thinned middle rest after kept) :
      Thinned before (delivery :: rest) after kept

/-- Deliveries one after the other. -/
def Served (before : World) (deliveries : List Delivery) (after : World) : Prop :=
  Thinned server requests before deliveries after deliveries

/-- The event ids that some delivery reports over HTTP, so that a clock says when the
event was received. -/
def clocked (deliveries : List Delivery) (eventId : UUID) : Bool :=
  deliveries.any fun delivery =>
    match requests delivery.process with
    | .receiveEvent _ reported => decide (reported.eventId = eventId)
    | _ => false

end Definitions

/-! ## Contents -/

/-- A JSON object without some of its keys. -/
def Json.without (keys : List String) : Json → Json
  | .obj fields => .obj (fields.filter fun field => field.1 ∉ keys)
  | value => value

/-- An event row without the reading of a clock. -/
def ShipmentEventModel.content (clocked : UUID → Bool) (row : ShipmentEventModel) :
    ShipmentEventModel :=
  if clocked row.eventId then { row with receivedAt := .utc 0 } else row

/-- An outbox row without its message id and the readings of clocks. -/
def OutboxEventModel.content (clocked : UUID → Bool) (row : OutboxEventModel) :
    OutboxEventModel :=
  { row with
    id := ⟨0⟩
    payload := row.payload.without
      (if clocked row.eventId then ["message_id", "received_at"] else ["message_id"])
    createdAt := .utc 0
    nextAttemptAt := .utc 0 }

/-- What the tables contain, message ids and clock readings aside. -/
def contents (clocked : UUID → Bool) (database : Database) : Database where
  shipments := database.shipments
  shipmentEvents := database.shipmentEvents.map (ShipmentEventModel.content clocked)
  outboxEvents := database.outboxEvents.map (OutboxEventModel.content clocked)

section Contents

variable {clocked : UUID → Bool} {first second : Database}

theorem ShipmentEventModel.content_eventId (row : ShipmentEventModel) :
    (row.content clocked).eventId = row.eventId := by
  unfold content
  split <;> rfl

theorem contents_eventIds (clocked : UUID → Bool) (database : Database) :
    (contents clocked database).shipmentEvents.map ShipmentEventModel.eventId =
      database.shipmentEvents.map ShipmentEventModel.eventId := by
  simp only [contents, List.map_map]
  exact List.map_congr_left fun row _ => row.content_eventId

/-- Tables with equal contents have the same shipments and the same event ids. -/
theorem shipment_of_contents (same : contents clocked first = contents clocked second)
    (id : UUID) : first.shipment id = second.shipment id := by
  have tables : (contents clocked first).shipments = (contents clocked second).shipments := by
    rw [same]
  exact congrArg (fun rows => Table.lookup ShipmentModel.id rows id) tables

theorem event_of_contents (same : contents clocked first = contents clocked second)
    (eventId : UUID) :
    (first.event eventId).isSome = (second.event eventId).isSome := by
  have keys : first.shipmentEvents.map ShipmentEventModel.eventId =
      second.shipmentEvents.map ShipmentEventModel.eventId := by
    rw [← contents_eventIds clocked, same, contents_eventIds]
  apply Bool.eq_iff_iff.mpr
  rw [Option.isSome_iff_exists, Option.isSome_iff_exists]
  unfold Database.event
  rw [Table.exists_lookup_iff, Table.exists_lookup_iff, keys]

/-- The verdict on an event depends on its shipment and on whether it is recorded. -/
theorem verdict_congr {postgres : Postgres} {event : ShipmentEvent}
    (shipment : first.shipment event.shipmentId = second.shipment event.shipmentId)
    (recorded : (first.event event.eventId).isSome = (second.event event.eventId).isSome) :
    ReceiveShipmentEvent.verdict postgres first event =
      ReceiveShipmentEvent.verdict postgres second event := by
  simp only [ReceiveShipmentEvent.verdict, shipment, recorded]

/-- What a reception adds to the contents. -/
theorem contents_writeAll (reception : Reception) (postgres : Postgres) (database : Database) :
    contents clocked (database.writeAll (reception.writes postgres)) =
      { shipments :=
          Table.modify ShipmentModel.id database.shipments reception.row.id
            (postgres.shipmentPatch reception.patch).applyTo
        shipmentEvents := (contents clocked database).shipmentEvents ++
          [(reception.eventRow postgres).content clocked]
        outboxEvents := (contents clocked database).outboxEvents ++
          [(reception.outboxRow postgres).content clocked] } := by
  rw [Reception.writes, Database.writeAll_append, reception.writeAll_projection]
  simp [contents, Database.writeAll, Database.write]

/-- Two receptions on behalf of one request, of one verdict, record the same contents. -/
theorem Reception.content_congr (postgres : Postgres) {one two : Reception}
    {request : Request} (reportsOne : request.Reports one.correlationId one.event)
    (reportsTwo : request.Reports two.correlationId two.event) (status : one.status = two.status)
    (timed : ∀ correlationId reported, request = .receiveEvent correlationId reported →
      clocked reported.eventId = true) :
    (one.eventRow postgres).content clocked = (two.eventRow postgres).content clocked ∧
      (one.outboxRow postgres).content clocked = (two.outboxRow postgres).content clocked := by
  obtain ⟨_, event, _, _, _, _, _, _, _⟩ := one
  obtain ⟨_, other, _, _, _, _, _, _, _⟩ := two
  simp only at reportsOne reportsTwo status
  subst status
  cases request with
  | createShipment correlationId input => cases reportsOne
  | publishOne retryDelay => cases reportsOne
  | handleEvent correlationId handled =>
      obtain ⟨rfl, rfl⟩ := reportsOne
      obtain ⟨rfl, rfl⟩ := reportsTwo
      refine ⟨rfl, ?_⟩
      cases clock : clocked other.eventId <;>
        simp [OutboxEventModel.content, Reception.outboxRow, Postgres.outboxRow,
          SQLAlchemyOutboxRepository.model, Reception.message, Reception.recorded,
          RecordedEventMessage.envelope, Json.without, clock]
  | receiveEvent correlationId reported =>
      obtain ⟨rfl, receivedAt, -, rfl⟩ := reportsOne
      obtain ⟨rfl, receivedAgain, -, rfl⟩ := reportsTwo
      have clock := timed _ reported rfl
      constructor
      · simp [ShipmentEventModel.content, Reception.eventRow, Postgres.eventRow,
          Reception.recorded, EventMapper.toModel, ShipmentEventRequest.event, clock]
      · simp [OutboxEventModel.content, Reception.outboxRow, Postgres.outboxRow,
          SQLAlchemyOutboxRepository.model, Reception.message, Reception.recorded,
          RecordedEventMessage.envelope, Json.without, ShipmentEventRequest.event, clock]

end Contents

/-! ## One delivery -/

section Steps

variable {server : Server} {base : Database} {requests : ProcessId → Request}
  {delivery : Delivery} {rest : List ProcessId} {outcome : Except PyError Unit}
  {before after : World} {reported : ShipmentEvent}

/-- A reception on behalf of a request has turned one state of the tables into another. -/
def Receives (postgres : Postgres) (request : Request) (reported : ShipmentEvent)
    (before after : Database) : Prop :=
  ∃ reception : Reception, request.Reports reception.correlationId reception.event ∧
    before.shipment reported.shipmentId = some reception.row ∧ reception.Unmoved ∧
    before.event reported.eventId = none ∧
    ShipmentEventHandler.handle (ShipmentMapper.toDomain reception.row) reported =
      (.ok reception.status, reception.after) ∧
    after = before.writeAll (reception.writes postgres)

/-- What a delivery leaves in the tables, by its course. -/
def Settling (server : Server) (request : Request) (reported : ShipmentEvent)
    (before after : Database) : Course → Prop
  | .aborted => after = before
  | .interrupted => Receives server.postgres request reported before after
  | .unhindered =>
      match ReceiveShipmentEvent.verdict server.postgres before reported with
      | .recorded _ _ _ => Receives server.postgres request reported before after
      | _ => after = before

/-- What the verdict on a delivered event leaves. -/
theorem Verdict.Leaves.settling {request : Request} {receivedAt : DateTime}
    {first second : Database}
    (leaves : (ReceiveShipmentEvent.verdict server.postgres first
        { reported with receivedAt := receivedAt }).Leaves server.postgres request
      { reported with receivedAt := receivedAt } first second) :
    Settling server request reported first second .unhindered := by
  rw [ReceiveShipmentEvent.verdict_receivedAt] at leaves
  simp only [Settling]
  cases judged : ReceiveShipmentEvent.verdict server.postgres first reported with
  | rejected error =>
      rw [judged] at leaves
      exact leaves
  | known row =>
      rw [judged] at leaves
      exact leaves
  | recorded row status shipment =>
      rw [judged] at leaves
      obtain ⟨reception, reports, -, rfl, unmoved, rfl, rfl, written⟩ := leaves
      obtain ⟨found, unrecorded, handled⟩ := ReceiveShipmentEvent.verdict_recorded judged
      exact ⟨reception, reports, found, unmoved, unrecorded, handled, written⟩

/-- What a transaction with writes on behalf of a reception has done. -/
theorem Effect.receives {wal : List Transaction} {request : Request}
    {transaction : Transaction}
    (effect : Effect server base True wal request transaction)
    (names : request.reported = some reported) (writes : transaction.writes ≠ []) :
    Receives server.postgres request reported (replay base wal)
      ((replay base wal).writeAll transaction.writes) := by
  cases effect with
  | nothing empty published => exact absurd empty writes
  | created creation => cases names
  | attempted attempt => cases names
  | received reception reports lsn current found saved loaded identity handled payload
      reads unrecorded freshOutbox written =>
      obtain ⟨event, named, same⟩ := reports.exists_reported
      cases names.symm.trans named
      rw [same] at found loaded handled unrecorded
      have late : wal.length ≤ reception.saveLsn := current trivial ▸ saved.1
      rw [current trivial, List.take_length] at found
      rw [List.take_of_length_le late] at loaded
      have unmoved : reception.Unmoved := Option.some.inj (loaded.symm.trans found)
      exact ⟨reception, reports, found, unmoved, unrecorded, handled, by rw [written]⟩

/-- Step lemma: a delivery settles its event and leaves those after it unstarted, and one
that was rejected leaves the tables as they were. -/
theorem Delivered.step (references : base.References)
    (unstarted : Unstarted server base requests (delivery.process :: rest) before)
    (names : (requests delivery.process).reported = some reported)
    (delivered : Delivered server requests delivery outcome before after) :
    Unstarted server base requests rest after ∧
      Settling server (requests delivery.process) reported before.database after.database
        delivery.course ∧
      (Rejected delivery outcome → after.database = before.database) := by
  obtain ⟨choices, session, ran, released, conditions⟩ := delivered
  refine ⟨unstarted.tail names ran released, ?_⟩
  obtain ⟨process, course⟩ := delivery
  cases course with
  | aborted => exact ⟨conditions, fun _ => conditions⟩
  | interrupted =>
      obtain ⟨transaction, grown, writes⟩ := conditions
      obtain ⟨kept, -, log, logged, own⟩ := unstarted.ran_alone names ran
      refine ⟨?_, fun rejected => absurd rfl rejected.1⟩
      have last : after.wal[before.wal.length]? = some transaction := by simp [grown]
      have effect := kept.history.effect_of_getElem last
      rw [grown, List.take_left, own transaction] at effect
      · have recording := effect.receives names writes
        rw [← replay_snoc, ← grown] at recording
        rwa [World.database, unstarted.kept.start, World.database, kept.start]
      · rw [List.append_cancel_left (logged.symm.trans grown)]
        exact List.mem_singleton.mpr rfl
  | unhindered =>
      obtain ⟨spare, clean⟩ := conditions
      obtain ⟨-, receivedAt, leaves, answers⟩ :=
        unstarted.ran_clean references spare names clean ran
      refine ⟨leaves.settling, ?_⟩
      rintro ⟨_, error, raised⟩
      rw [raised] at answers
      obtain ⟨reason, verdict⟩ := answers.rejected
      rw [verdict] at leaves
      exact leaves

/-- A delivery of a recorded event leaves the tables as they were. -/
theorem Settling.recorded {request : Request} {course : Course} {earlier later : Database}
    (settling : Settling server request reported earlier later course)
    (recorded : (earlier.event reported.eventId).isSome) : later = earlier := by
  have impossible : ¬ Receives server.postgres request reported earlier later := by
    intro ⟨_, _, _, _, unrecorded, _⟩
    rw [unrecorded] at recorded
    cases recorded
  cases course with
  | aborted => exact settling
  | interrupted => exact absurd settling impossible
  | unhindered =>
      simp only [Settling] at settling
      split at settling
      · exact absurd settling impossible
      · exact settling

/-- Receptions on behalf of one request, from tables with equal contents, leave tables
with equal contents. -/
theorem Receives.contents_eq {clocked : UUID → Bool} {postgres : Postgres}
    {request : Request} {first second firstAfter secondAfter : Database}
    (timed : ∀ correlationId reported, request = .receiveEvent correlationId reported →
      clocked reported.eventId = true)
    (one : Receives postgres request reported first firstAfter)
    (two : Receives postgres request reported second secondAfter)
    (same : contents clocked first = contents clocked second) :
    contents clocked firstAfter = contents clocked secondAfter := by
  obtain ⟨reception, reports, found, unmoved, -, handled, rfl⟩ := one
  obtain ⟨again, reportsToo, foundToo, unmovedToo, -, handledToo, rfl⟩ := two
  have row : reception.row = again.row := by
    rw [shipment_of_contents same, foundToo] at found
    exact (Option.some.inj found).symm
  rw [row, handledToo] at handled
  obtain ⟨status, shipment⟩ := Prod.mk.inj handled
  obtain ⟨events, outbox⟩ := Reception.content_congr postgres reports reportsToo
    (Except.ok.inj status).symm timed
  have tables : first.shipments = second.shipments :=
    show (contents clocked first).shipments = (contents clocked second).shipments by rw [same]
  have patch : reception.patch = again.patch := by
    rw [Reception.Unmoved.patch unmoved, Reception.Unmoved.patch unmovedToo, row, shipment]
  rw [contents_writeAll, contents_writeAll, same, tables, events, outbox, patch, row]

/-- Step lemma: one delivery to tables with equal contents leaves tables with equal
contents. -/
theorem Settling.contents_eq {clocked : UUID → Bool} {request : Request} {course : Course}
    {first second firstAfter secondAfter : Database}
    (timed : ∀ correlationId reported, request = .receiveEvent correlationId reported →
      clocked reported.eventId = true)
    (one : Settling server request reported first firstAfter course)
    (two : Settling server request reported second secondAfter course)
    (same : contents clocked first = contents clocked second) :
    contents clocked firstAfter = contents clocked secondAfter := by
  cases course with
  | aborted =>
      rw [show firstAfter = first from one, show secondAfter = second from two, same]
  | interrupted => exact Receives.contents_eq timed one two same
  | unhindered =>
      simp only [Settling] at one two
      rw [verdict_congr (shipment_of_contents same _) (event_of_contents same _)] at one
      split at one
      · rename_i judged
        rw [judged] at two
        exact Receives.contents_eq timed one two same
      · rename_i unrecorded
        split at two
        · rename_i judged
          exact absurd judged (unrecorded _ _ _)
        · rw [one, two, same]

end Steps

/-! ## Whole sequences -/

section Sequences

variable {server : Server} {base : Database} {requests : ProcessId → Request}
  {deliveries kept : List Delivery} {start final : World}

/-- What is kept is some of the deliveries. -/
theorem Thinned.sublist (thinned : Thinned server requests start deliveries final kept) :
    kept.Sublist deliveries := by
  induction thinned with
  | nil world => exact List.Sublist.refl []
  | keep delivered thinned inductionHypothesis => exact inductionHypothesis.cons_cons _
  | drop delivered traceless thinned inductionHypothesis => exact inductionHypothesis.cons _

/-- Run lemma: from worlds with equal contents, all deliveries and those that are kept
lead to worlds with equal contents. -/
theorem Thinned.contents_eq {clocked : UUID → Bool} (references : base.References)
    (thinned : Thinned server requests start deliveries final kept)
    (receptions : ∀ delivery ∈ deliveries, (requests delivery.process).reported.isSome)
    (timed : ∀ delivery ∈ deliveries, ∀ correlationId reported,
      requests delivery.process = .receiveEvent correlationId reported →
        clocked reported.eventId = true)
    (unstarted : Unstarted server base requests (deliveries.map Delivery.process) start) :
    ∀ {again finalAgain : World},
      Unstarted server base requests (kept.map Delivery.process) again →
      contents clocked start.database = contents clocked again.database →
      Served server requests again kept finalAgain →
      contents clocked final.database = contents clocked finalAgain.database := by
  induction thinned with
  | nil world =>
      intro again finalAgain unstartedAgain same served
      cases served with
      | nil world => exact same
  | @keep delivery rest kept outcome before middle after delivered thinned
      inductionHypothesis =>
      intro again finalAgain unstartedAgain same served
      obtain ⟨reported, names⟩ :=
        Option.isSome_iff_exists.mp (receptions delivery List.mem_cons_self)
      obtain ⟨next, settling, -⟩ := delivered.step references unstarted names
      cases served with
      | keep deliveredAgain servedAfter =>
          obtain ⟨nextAgain, settlingAgain, -⟩ :=
            deliveredAgain.step references unstartedAgain names
          exact inductionHypothesis (fun other member => receptions other (.tail _ member))
            (fun other member => timed other (.tail _ member)) next nextAgain
            (settling.contents_eq (timed delivery List.mem_cons_self) settlingAgain same)
            servedAfter
      | drop deliveredAgain traceless servedAfter =>
          -- a list is no part of its own tail
          have shorter := servedAfter.sublist.length_le
          exact absurd shorter (Nat.not_succ_le_self _)
  | @drop delivery rest kept outcome before middle after delivered traceless thinned
      inductionHypothesis =>
      intro again finalAgain unstartedAgain same served
      obtain ⟨reported, names⟩ :=
        Option.isSome_iff_exists.mp (receptions delivery List.mem_cons_self)
      obtain ⟨next, settling, unchanged⟩ := delivered.step references unstarted names
      have untouched : middle.database = before.database := by
        rcases traceless with ⟨event, named, recorded⟩ | rejected
        · cases names.symm.trans named
          exact settling.recorded recorded
        · exact unchanged rejected
      refine inductionHypothesis (fun other member => receptions other (.tail _ member))
        (fun other member => timed other (.tail _ member)) next unstartedAgain ?_ served
      rw [untouched, same]

end Sequences

/-! ## Redelivery -/

section Redelivery

variable (server : Server) (base : Database) (requests : ProcessId → Request)

/-- Deliveries one after the other, from any tables: without those whose event had been
recorded, and without any of those that were rejected, the tables end with the same
contents; and a delivery that is rejected changes nothing. -/
theorem redelivery_invisible (references : base.References)
    (deliveries kept : List Delivery) (start final finalKept : World)
    (receptions : ∀ delivery ∈ deliveries, (requests delivery.process).reported.isSome)
    (unstarted : Unstarted server base requests (deliveries.map Delivery.process) start)
    (thinned : Thinned server requests start deliveries final kept)
    (served : Served server requests start kept finalKept) :
    contents (clocked requests deliveries) final.database =
        contents (clocked requests deliveries) finalKept.database ∧
      ∀ delivery ∈ deliveries, ∀ before after outcome,
        Unstarted server base requests [delivery.process] before →
        Delivered server requests delivery outcome before after →
        Rejected delivery outcome → after.database = before.database := by
  have timed : ∀ delivery ∈ deliveries, ∀ correlationId reported,
      requests delivery.process = .receiveEvent correlationId reported →
        clocked requests deliveries reported.eventId = true := by
    intro delivery member correlationId reported requested
    rw [clocked, List.any_eq_true]
    exact ⟨delivery, member, by simp [requested]⟩
  constructor
  · exact thinned.contents_eq references receptions timed unstarted
      (unstarted.sublist (thinned.sublist.map _)) rfl served
  · intro delivery member before after outcome alone delivered rejected
    obtain ⟨reported, names⟩ := Option.isSome_iff_exists.mp (receptions delivery member)
    obtain ⟨-, -, unchanged⟩ := delivered.step references alone names
    exact unchanged rejected

end Redelivery

/-! ## A redelivery -/

/-- A location by the worker, and a delivery over HTTP under the same event id. -/
def redelivered : ProcessId → Request
  | 0 => .handleEvent none (located 8 25)
  | _ => .receiveEvent none (report 8 .delivered 20)

/-- The statements of an HTTP request that finds its event recorded. -/
def knownChoices : List Choice := .time (.utc 40) :: List.replicate 6 .proceed

/-- The second body under a recorded event id leaves nothing. -/
theorem redelivery_without_effect :
    ∃ final finalKept : World,
      Thinned Server.utc redelivered { base := onItsWay } [⟨0, .unhindered⟩, ⟨1, .unhindered⟩]
        final [⟨0, .unhindered⟩] ∧
      Served Server.utc redelivered { base := onItsWay } [⟨0, .unhindered⟩] finalKept ∧
      contents (clocked redelivered [⟨0, .unhindered⟩, ⟨1, .unhindered⟩]) final.database =
        contents (clocked redelivered [⟨0, .unhindered⟩, ⟨1, .unhindered⟩])
          finalKept.database := by
  have shown : ((redelivered 0).program.run (Server.utc.perform 0) recordingChoices
      { base := onItsWay }).bind (fun first =>
        ((redelivered 1).program.run (Server.utc.perform 1) knownChoices first.2).map
          fun second =>
            (first.2.database.event ⟨8#128⟩).isSome && !first.2.issued ⟨0#128⟩ &&
              first.2.locks.isEmpty && second.2.locks.isEmpty) =
      some true := by
    decide +kernel
  obtain ⟨⟨⟨outcome, session⟩, middle⟩, recorded, later⟩ := Option.bind_eq_some_iff.mp shown
  obtain ⟨⟨⟨outcomeAgain, sessionAgain⟩, final⟩, known, facts⟩ :=
    Option.map_eq_some_iff.mp later
  simp only [Bool.and_eq_true, List.isEmpty_iff, Bool.not_eq_true'] at facts
  obtain ⟨⟨⟨present, spare⟩, released⟩, releasedAgain⟩ := facts
  have first : Delivered Server.utc redelivered ⟨0, .unhindered⟩ outcome
      { base := onItsWay } middle :=
    ⟨recordingChoices, session, recorded, released, ⟨⟨0#128⟩, by decide⟩, by decide⟩
  have second : Delivered Server.utc redelivered ⟨1, .unhindered⟩ outcomeAgain middle final :=
    ⟨knownChoices, sessionAgain, known, releasedAgain, ⟨⟨0#128⟩, spare⟩, by decide⟩
  have thinned : Thinned Server.utc redelivered { base := onItsWay }
      [⟨0, .unhindered⟩, ⟨1, .unhindered⟩] final [⟨0, .unhindered⟩] :=
    .keep first (.drop second (.inl ⟨_, rfl, present⟩) (.nil final))
  have served : Served Server.utc redelivered { base := onItsWay } [⟨0, .unhindered⟩] middle :=
    .keep first (.nil middle)
  refine ⟨final, middle, thinned, served, ?_⟩
  refine (redelivery_invisible Server.utc onItsWay redelivered onItsWay_references _ _ _ _ _
    (by decide) ?_ thinned served).1
  exact
    { kept := Invariant.initial
      locks := rfl
      distinct := by decide
      fresh := fun _ _ => rfl
      uncommitted := fun _ _ => by simp }

end Freight
