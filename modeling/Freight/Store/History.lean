/-
Module: Freight.Store.History
Purpose: What the log of committed transactions may look like: every entry is
  the effect of one request on the tables its predecessors left.
Trusted boundary: none
Main exports:
  Creation, Reception, Attempt, Request.Reports, Effect, History,
  History.effect_of_getElem, History.take, replay_event_of_take,
  replay_outbox_of_take, replay_shipment_induction
-/
import Freight.Application.EntryPoints

namespace Freight

open Interaction (ProcessId)

/-! ## The three effects

Each structure gathers what a transaction drew from its environment; the writes
follow from it. -/

/-- A committed creation. -/
structure Creation where
  correlationId : Option String
  input : CreateShipmentInput
  id : UUID
  eventId : UUID
  messageId : UUID
  createdAt : DateTime
  receivedAt : DateTime
  enqueuedAt : DateTime

namespace Creation

variable (creation : Creation)

def shipment : Shipment :=
  Shipment.create creation.id creation.input.referenceNumber creation.input.origin
    creation.input.destination creation.input.carrier creation.createdAt

def event : ShipmentEvent :=
  CreateShipment.createdEvent creation.eventId creation.shipment creation.createdAt
    creation.receivedAt

def message : RecordedEventMessage where
  messageId := creation.messageId
  eventId := creation.eventId
  shipmentId := creation.id
  body := RecordedEventMessage.envelope creation.messageId creation.event (.obj [])
  correlationId := creation.correlationId

/-- The rows of a creation, in the order of the inserts. -/
def shipmentRow (postgres : Postgres) : ShipmentModel :=
  postgres.shipmentRow (ShipmentMapper.toModel creation.shipment)

def eventRow (postgres : Postgres) : ShipmentEventModel :=
  postgres.eventRow (EventMapper.toModel creation.event)

def outboxRow (postgres : Postgres) : OutboxEventModel :=
  postgres.outboxRow (SQLAlchemyOutboxRepository.model creation.message creation.enqueuedAt)

def writes (postgres : Postgres) : List Write :=
  [.insertShipment (creation.shipmentRow postgres), .insertEvent (creation.eventRow postgres),
    .insertOutbox (creation.outboxRow postgres)]

end Creation

/-- A committed reception: the event, the projection it was handled against, the
projection that was loaded to be saved over, and the numbers of transactions that
had committed when these were read. -/
structure Reception where
  correlationId : Option String
  event : ShipmentEvent
  lsn : Nat
  row : ShipmentModel
  existsLsn : Nat
  status : ShipmentEventProcessingStatus
  after : Shipment
  saveLsn : Nat
  loaded : ShipmentModel
  messageId : UUID
  enqueuedAt : DateTime

namespace Reception

variable (reception : Reception)

/-- The event as it is recorded. -/
def recorded : ShipmentEvent :=
  { reception.event with processingStatus := reception.status }

def message : RecordedEventMessage where
  messageId := reception.messageId
  eventId := reception.event.eventId
  shipmentId := reception.event.shipmentId
  body :=
    RecordedEventMessage.envelope reception.messageId reception.recorded
      reception.event.payload.plain
  correlationId := reception.correlationId

def eventRow (postgres : Postgres) : ShipmentEventModel :=
  postgres.eventRow (EventMapper.toModel reception.recorded)

def outboxRow (postgres : Postgres) : OutboxEventModel :=
  postgres.outboxRow
    (SQLAlchemyOutboxRepository.model reception.message reception.enqueuedAt)

/-- What it has read, latest first. -/
def reads : List Read :=
  [.shipment reception.saveLsn (some reception.loaded), .event reception.existsLsn false,
    .shipment reception.lsn (some reception.row)]

/-- The changed columns of the projection, as it was loaded to be saved over. -/
def patch : ShipmentPatch :=
  ShipmentPatch.between reception.loaded (ShipmentMapper.toModel reception.after)

/-- Between the two reads of a reception nothing has happened to the row. -/
def Unmoved : Prop := reception.loaded = reception.row

theorem Unmoved.patch {reception : Reception} (unmoved : reception.Unmoved) :
    reception.patch =
      ShipmentPatch.between reception.row (ShipmentMapper.toModel reception.after) := by
  rw [Reception.patch, unmoved]

/-- The update of the projection, when a column changed. -/
def projection (postgres : Postgres) : List Write :=
  if reception.patch = {} then []
  else [.updateShipment reception.row.id (postgres.shipmentPatch reception.patch)]

def writes (postgres : Postgres) : List Write :=
  [.insertEvent (reception.eventRow postgres), .insertOutbox (reception.outboxRow postgres)] ++
    reception.projection postgres

end Reception

/-- A committed attempt to publish a claimed row. -/
structure Attempt where
  row : OutboxEventModel
  lsn : Nat
  confirmed : Bool
  now : DateTime
  retryDelay : Int
  failure : Option PyError

namespace Attempt

variable (attempt : Attempt)

/-- The claimed row with the relay's changes. -/
def marked : OutboxEventModel :=
  match attempt.failure with
  | none => SQLAlchemyOutboxRepository.published attempt.now attempt.row
  | some error =>
      SQLAlchemyOutboxRepository.failed (attempt.now.add attempt.retryDelay)
        (SQLAlchemyOutboxRepository.truncated error.typeName) attempt.row

def patch : OutboxPatch := OutboxPatch.between attempt.row attempt.marked

def writes (postgres : Postgres) : List Write :=
  [.updateOutbox attempt.row.id (postgres.outboxPatch attempt.patch)]

/-- The one call of the publisher. -/
def publication (process : ProcessId) : Publication where
  process := process
  message := SQLAlchemyOutboxRepository.message attempt.row
  confirmed := attempt.confirmed
  lsn := attempt.lsn

end Attempt

/-- The columns of a shipment that nothing changes once it is there. -/
def ShipmentModel.identity (row : ShipmentModel) :
    UUID × String × String × String × String × DateTime :=
  (row.id, row.referenceNumber, row.origin, row.destination, row.carrier, row.createdAt)

/-! ## Legal histories -/

/-- The events that a request can turn into, and the correlation id it records
them under. -/
def Request.Reports : Request → Option String → ShipmentEvent → Prop
  | .receiveEvent correlationId request, reported, event =>
      reported = correlationId ∧
        ∃ receivedAt : DateTime, receivedAt.utcoffset = some 0 ∧
          event = request.event receivedAt
  | .handleEvent correlationId handled, reported, event =>
      reported = correlationId ∧ event = handled
  | _, _, _ => False

section Effects

variable (server : Server) (base : Database) (quiet : Prop)

/-- The effect of one committed transaction on the tables that the log `wal` has
left.  When the rest of the system is quiet, a projection that was read is the
current one. -/
inductive Effect (wal : List Transaction) : Request → Transaction → Prop where
  | nothing {request : Request} {transaction : Transaction}
      (writes : transaction.writes = [])
      (published : transaction.published = []) :
      Effect wal request transaction
  | created {transaction : Transaction} (creation : Creation)
      (createdAt : creation.createdAt.utcoffset = some 0)
      (receivedAt : creation.receivedAt.utcoffset = some 0)
      (freshShipment : (replay base wal).shipment creation.id = none)
      (freshEvent : (replay base wal).event creation.eventId = none)
      (freshOutbox : (replay base wal).outbox creation.messageId = none)
      (writes : transaction.writes = creation.writes server.postgres)
      (raised : transaction.raised = [])
      (published : transaction.published = []) :
      Effect wal (.createShipment creation.correlationId creation.input) transaction
  | received {request : Request} {transaction : Transaction} (reception : Reception)
      (reports : request.Reports reception.correlationId reception.event)
      (lsn : reception.lsn ≤ wal.length)
      (current : quiet → reception.lsn = wal.length)
      (found : (replay base (wal.take reception.lsn)).shipment reception.event.shipmentId =
        some reception.row)
      (saved : reception.lsn ≤ reception.saveLsn ∧ reception.saveLsn ≤ wal.length)
      (loaded : (replay base (wal.take reception.saveLsn)).shipment
        reception.event.shipmentId = some reception.loaded)
      (identity : reception.loaded.identity = reception.row.identity)
      (handled : ShipmentEventHandler.handle (ShipmentMapper.toDomain reception.row)
        reception.event = (.ok reception.status, reception.after))
      (payload : reception.event.payload.plain.isDict = true)
      (reads : transaction.reads = reception.reads)
      (freshEvent : (replay base wal).event reception.event.eventId = none)
      (freshOutbox : (replay base wal).outbox reception.messageId = none)
      (writes : transaction.writes = reception.writes server.postgres)
      (raised : transaction.raised = [])
      (published : transaction.published = []) :
      Effect wal request transaction
  | attempted {transaction : Transaction} (attempt : Attempt)
      (locked : (replay base wal).outbox attempt.row.id = some attempt.row)
      (pending : attempt.row.publishedAt = none)
      (confirmed : attempt.failure = none → attempt.confirmed = true)
      (writes : transaction.writes = attempt.writes server.postgres)
      (published : transaction.published = [attempt.publication transaction.process]) :
      Effect wal (.publishOne attempt.retryDelay) transaction

/-- A legal log: every entry is the effect of its process's request, and no
process commits twice. -/
inductive History (requests : ProcessId → Request) : List Transaction → Prop where
  | start : History requests []
  | commit {wal : List Transaction} {transaction : Transaction}
      (earlier : History requests wal)
      (effect : Effect server base quiet wal (requests transaction.process) transaction)
      (first : transaction.process ∉ wal.map Transaction.process) :
      History requests (wal ++ [transaction])

end Effects

namespace History

variable {server : Server} {base : Database} {quiet : Prop}
  {requests : ProcessId → Request} {wal : List Transaction}

/-- No process has two entries. -/
theorem processes_nodup (history : History server base quiet requests wal) :
    (wal.map Transaction.process).Nodup := by
  induction history with
  | start => exact List.nodup_nil
  | commit earlier effect first inductionHypothesis =>
      rw [List.map_append, List.nodup_append]
      refine ⟨inductionHypothesis, by simp, ?_⟩
      intro process member other single
      simp only [List.map_cons, List.map_nil, List.mem_singleton] at single
      rintro rfl
      exact first (single ▸ member)

/-- A process commits at one place. -/
theorem index_unique (history : History server base quiet requests wal) {first second : Nat}
    {one two : Transaction} (firstStands : wal[first]? = some one)
    (secondStands : wal[second]? = some two) (same : one.process = two.process) :
    first = second := by
  have inside := (List.getElem?_eq_some_iff.mp firstStands).1
  refine (List.getElem?_inj (by simpa using inside) history.processes_nodup).mp ?_
  rw [List.getElem?_map, List.getElem?_map, firstStands, secondStands]
  exact congrArg some same

/-- Every entry is legal where it stands. -/
theorem effect_of_getElem (history : History server base quiet requests wal)
    {index : Nat} {transaction : Transaction} (found : wal[index]? = some transaction) :
    Effect server base quiet (wal.take index) (requests transaction.process)
      transaction := by
  induction history with
  | start => simp at found
  | @commit wal last earlier effect first inductionHypothesis =>
      rcases Nat.lt_trichotomy index wal.length with inside | same | beyond
      · rw [List.getElem?_append_left inside] at found
        rw [List.take_append_of_le_length (Nat.le_of_lt inside)]
        exact inductionHypothesis found
      · subst same
        simp only [List.getElem?_concat_length, Option.some.injEq] at found
        subst found
        simpa using effect
      · rw [List.getElem?_eq_none (by simpa using Nat.succ_le_of_lt beyond)] at found
        cases found

/-- A prefix of a legal log is legal. -/
theorem take (history : History server base quiet requests wal) (count : Nat) :
    History server base quiet requests (wal.take count) := by
  induction history with
  | start => simpa using History.start
  | @commit wal last earlier effect first inductionHypothesis =>
      by_cases inside : count ≤ wal.length
      · rw [List.take_append_of_le_length inside]
        exact inductionHypothesis
      · rw [List.take_of_length_le (by simp; omega)]
        exact .commit earlier effect first

end History

/-! ## Keys and references -/

section Tables

variable {server : Server} {base : Database} {quiet : Prop}
  {requests : ProcessId → Request} {wal : List Transaction}

/-- Step lemma: a transaction records the event that its outbox row refers to. -/
theorem Effect.references {request : Request} {transaction : Transaction}
    (effect : Effect server base quiet wal request transaction)
    (kept : (replay base wal).References) :
    ((replay base wal).writeAll transaction.writes).References := by
  cases effect with
  | nothing writes published =>
      rw [writes]
      exact kept
  | created creation createdAt receivedAt freshShipment freshEvent freshOutbox writes =>
      rw [writes]
      refine ((kept.write (.insertShipment (creation.shipmentRow server.postgres)) ?_).write
        (.insertEvent (creation.eventRow server.postgres)) ?_).write
        (.insertOutbox (creation.outboxRow server.postgres)) ?_
      · simp
      · simp
      · rintro row equality
        cases equality
        simp [Creation.eventRow, Creation.outboxRow, Postgres.eventRow, Postgres.outboxRow,
          EventMapper.toModel, SQLAlchemyOutboxRepository.model, Creation.message,
          Creation.event, CreateShipment.createdEvent]
  | received reception reports lsn current found saved loaded identity handled payload
      reads freshEvent freshOutbox writes =>
      rw [writes, Reception.writes, Database.writeAll_append]
      have recorded :
          (((replay base wal).write (.insertEvent (reception.eventRow server.postgres))).write
            (.insertOutbox (reception.outboxRow server.postgres))).References := by
        refine (kept.write _ ?_).write _ ?_
        · simp
        · rintro row equality
          cases equality
          simp [Reception.eventRow, Reception.outboxRow, Postgres.eventRow,
            Postgres.outboxRow, EventMapper.toModel, SQLAlchemyOutboxRepository.model,
            Reception.message, Reception.recorded]
      unfold Reception.projection
      split
      · exact recorded
      · exact recorded.write (.updateShipment _ _) (by simp)
  | attempted attempt locked pending confirmed writes =>
      rw [writes]
      exact kept.write (.updateOutbox _ _) (by simp)

/-- Step lemma: a transaction inserts an outbox row only under a free key. -/
theorem Effect.outboxKeys_nodup {request : Request} {transaction : Transaction}
    (effect : Effect server base quiet wal request transaction)
    (keyed : (replay base wal).outboxKeys.Nodup) :
    ((replay base wal).writeAll transaction.writes).outboxKeys.Nodup := by
  cases effect with
  | nothing writes published =>
      rw [writes]
      exact keyed
  | created creation createdAt receivedAt freshShipment freshEvent freshOutbox writes =>
      rw [writes]
      simp only [Creation.writes, Database.writeAll_cons, Database.writeAll_nil,
        Database.outboxKeys_insertOutbox, Database.outboxKeys_insertEvent,
        Database.outboxKeys_insertShipment]
      exact List.nodup_append_comm.mp
        (List.nodup_cons.mpr ⟨Database.outbox_eq_none_iff.mp freshOutbox, keyed⟩)
  | received reception reports lsn current found saved loaded identity handled payload
      reads freshEvent freshOutbox writes =>
      have keys : ((replay base wal).writeAll transaction.writes).outboxKeys =
          (replay base wal).outboxKeys ++ [reception.messageId] := by
        rw [writes, Reception.writes, Database.writeAll_append, Reception.projection]
        split <;> simp [Reception.outboxRow, Postgres.outboxRow,
          SQLAlchemyOutboxRepository.model, Reception.message]
      rw [keys]
      exact List.nodup_append_comm.mp
        (List.nodup_cons.mpr ⟨Database.outbox_eq_none_iff.mp freshOutbox, keyed⟩)
  | attempted attempt locked pending confirmed writes =>
      rw [writes]
      simpa [Attempt.writes] using keyed

/-- The references of the tables survive every legal log. -/
theorem History.references (history : History server base quiet requests wal)
    (kept : base.References) : (replay base wal).References := by
  induction history with
  | start => exact kept
  | commit earlier effect first inductionHypothesis =>
      rw [replay_snoc]
      exact effect.references inductionHypothesis

/-- The primary key of the outbox survives every legal log. -/
theorem History.outboxKeys_nodup (history : History server base quiet requests wal)
    (keyed : base.outboxKeys.Nodup) : (replay base wal).outboxKeys.Nodup := by
  induction history with
  | start => exact keyed
  | commit earlier effect first inductionHypothesis =>
      rw [replay_snoc]
      exact effect.outboxKeys_nodup inductionHypothesis

end Tables

/-! ## What a log keeps -/

section Persistence

variable {base : Database} {wal : List Transaction} {id : UUID}

theorem replay_event_of_some {row : ShipmentEventModel} :
    ∀ {base : Database}, base.event id = some row →
      (replay base wal).event id = some row := by
  induction wal with
  | nil => exact fun found => found
  | cons first rest inductionHypothesis =>
      intro base found
      exact inductionHypothesis (Database.event_writeAll_of_some first.writes found)

theorem replay_shipment_isSome :
    ∀ {base : Database}, (base.shipment id).isSome → ((replay base wal).shipment id).isSome := by
  induction wal with
  | nil => exact fun found => found
  | cons first rest inductionHypothesis =>
      intro base found
      exact inductionHypothesis (Database.shipment_writeAll_isSome first.writes found)

theorem replay_outbox_of_some :
    ∀ {base : Database} {row : OutboxEventModel}, base.outbox id = some row →
      ∃ after, (replay base wal).outbox id = some after ∧ after.snapshot = row.snapshot := by
  induction wal with
  | nil => exact fun {_ row} found => ⟨row, found, rfl⟩
  | cons first rest inductionHypothesis =>
      intro base row found
      obtain ⟨middle, foundMiddle, sameMiddle⟩ :=
        Database.outbox_writeAll_of_some first.writes found
      obtain ⟨after, foundAfter, sameAfter⟩ := inductionHypothesis foundMiddle
      exact ⟨after, foundAfter, sameAfter.trans sameMiddle⟩

/-- What a prefix of the log has recorded, the whole log has recorded. -/
theorem replay_event_of_take {row : ShipmentEventModel} {count : Nat}
    (found : (replay base (wal.take count)).event id = some row) :
    (replay base wal).event id = some row := by
  rw [← List.take_append_drop count wal, replay_append]
  exact replay_event_of_some found

theorem replay_shipment_of_take {count : Nat}
    (found : ((replay base (wal.take count)).shipment id).isSome) :
    ((replay base wal).shipment id).isSome := by
  rw [← List.take_append_drop count wal, replay_append]
  exact replay_shipment_isSome found

/-- What the log has of a shipment at one point it has at every later one. -/
theorem replay_shipment_take_mono {first second : Nat} (ordered : first ≤ second)
    (present : ((replay base (wal.take first)).shipment id).isSome) :
    ((replay base (wal.take second)).shipment id).isSome := by
  have shorter : wal.take first = (wal.take second).take first := by
    rw [List.take_take, Nat.min_eq_left ordered]
  rw [shorter] at present
  exact replay_shipment_of_take present

/-- A relation between the rows of a shipment over every single entry of a stretch
of the log holds over the whole stretch. -/
theorem replay_shipment_induction (related : ShipmentModel → ShipmentModel → Prop)
    {first second : Nat} (ordered : first ≤ second) (refl : ∀ row, related row row)
    (trans : ∀ one two three, related one two → related two three → related one three)
    (step : ∀ index, first ≤ index → index < second → ∀ transaction,
      wal[index]? = some transaction → ∀ before after,
      (replay base (wal.take index)).shipment id = some before →
      (replay base (wal.take (index + 1))).shipment id = some after →
        related before after) :
    ∀ before after, (replay base (wal.take first)).shipment id = some before →
      (replay base (wal.take second)).shipment id = some after → related before after := by
  induction ordered with
  | refl =>
      intro before after found left
      rw [found] at left
      cases left
      exact refl before
  | @step second ordered inductionHypothesis =>
      intro before after found left
      have present : ((replay base (wal.take second)).shipment id).isSome :=
        replay_shipment_take_mono ordered (by rw [found]; rfl)
      obtain ⟨middle, foundMiddle⟩ := Option.isSome_iff_exists.mp present
      have earlier := inductionHypothesis
        (fun index low high => step index low (Nat.lt_succ_of_lt high))
        before middle found foundMiddle
      cases entry : wal[second]? with
      | none =>
          rw [List.take_add_one, entry, Option.toList_none, List.append_nil,
            foundMiddle] at left
          cases left
          exact earlier
      | some transaction =>
          exact trans _ _ _ earlier
            (step second ordered (Nat.lt_succ_self second) transaction entry middle after
              foundMiddle left)

theorem replay_outbox_of_take {row : OutboxEventModel} {count : Nat}
    (found : (replay base (wal.take count)).outbox id = some row) :
    ∃ after, (replay base wal).outbox id = some after ∧ after.snapshot = row.snapshot := by
  rw [← List.take_append_drop count wal, replay_append]
  exact replay_outbox_of_some found

end Persistence

end Freight
