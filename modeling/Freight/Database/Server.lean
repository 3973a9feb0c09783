/-
Module: Freight.Database.Server
Purpose: The shared world of the HTTP requests, ingestion deliveries and relays:
  a READ COMMITTED database with key and row locks, the outbound exchange, and
  the operations a process can perform on them.
Trusted boundary: none
Main exports:
  Statement, Reply, Choice, World, World.database, Server, Server.perform,
  World.discard
-/
import Freight.Application.RecordedEventMessage
import Freight.Database.Models
import Freight.Interaction.Concurrency

namespace Freight

open Interaction (ProcessId)

/-! ## Operations -/

/-- What an HTTP client is answered: a status code, and the projection of a
successful answer. -/
structure HttpResponse where
  statusCode : Nat
  shipment : Option Shipment := none
  detail : String := ""
deriving DecidableEq, Repr

/-- The operations of a process: SQL statements, and the calls that leave the
process in some other way.  `observe` stands for work that touches nothing
shared, such as logging, metrics or a call into the ORM's own state; it is named
because it may raise. -/
inductive Statement where
  | selectShipment (id : UUID)
  | selectEventId (eventId : UUID)
  | insertShipment (row : ShipmentModel)
  | insertEvent (row : ShipmentEventModel)
  | insertOutbox (row : OutboxEventModel)
  | updateShipment (id : UUID) (patch : ShipmentPatch)
  | claimOutbox (now : DateTime)
  | updateOutbox (id : UUID) (patch : OutboxPatch)
  | commit
  | rollback
  | uuid4
  | now
  | observe
  | publish (message : RecordedEventMessage)
  | respond (response : HttpResponse)
deriving DecidableEq, Repr

/-- What a statement returns when it does not raise. -/
def Reply : Statement → Type
  | .selectShipment _ => Option ShipmentModel
  | .selectEventId _ => Option UUID
  | .claimOutbox _ => Option OutboxEventModel
  | .uuid4 => UUID
  | .now => DateTime
  | _ => Unit

/-- How the environment resolves what a statement leaves open. -/
inductive Choice where
  | proceed
  | fault (error : PyError)
  | uuid (id : UUID)
  | time (value : DateTime)
deriving DecidableEq, Repr

/-! ## The world -/

/-- What a transaction may hold until it ends: the unique keys it has inserted
and the rows it has locked. -/
inductive Lock where
  | shipmentKey (id : UUID)
  | referenceNumber (reference : String)
  | eventKey (eventId : UUID)
  | outboxKey (id : UUID)
  | outboxEventType (eventId : UUID) (messageType : String)
  | shipmentRow (id : UUID)
  | outboxRow (id : UUID)
deriving DecidableEq, Repr

/-- Something a process was shown, with the number of transactions that had
committed at that moment. -/
inductive Read where
  | shipment (lsn : Nat) (row : Option ShipmentModel)
  | event (lsn : Nat) (found : Bool)
  | claimed (lsn : Nat) (row : OutboxEventModel)
deriving DecidableEq, Repr

/-- A call of the outbound publisher, whether it returned, and the number of
transactions that had committed when it was made. -/
structure Publication where
  process : ProcessId
  message : RecordedEventMessage
  confirmed : Bool
  lsn : Nat
deriving DecidableEq, Repr

/-- One process seen from the server: the uncommitted writes of its open
transaction, and what it has read, been refused, published and answered so
far, latest first. -/
structure Connection where
  writes : List Write := []
  reads : List Read := []
  raised : List PyError := []
  published : List Publication := []
  response : Option HttpResponse := none
deriving DecidableEq, Repr

/-- A committed transaction: the connection as it was when the server
committed. -/
structure Transaction extends Connection where
  process : ProcessId
deriving DecidableEq, Repr

/-- The tables after a log of committed transactions. -/
def replay (base : Database) (wal : List Transaction) : Database :=
  wal.foldl (fun database transaction => database.writeAll transaction.writes) base

@[simp] theorem replay_nil (base : Database) : replay base [] = base := rfl

theorem replay_append (base : Database) (wal more : List Transaction) :
    replay base (wal ++ more) = replay (replay base wal) more := by
  simp [replay]

@[simp] theorem replay_snoc (base : Database) (wal : List Transaction)
    (transaction : Transaction) :
    replay base (wal ++ [transaction]) = (replay base wal).writeAll transaction.writes := by
  simp [replay]

/-- The shared world.  The committed tables are what the log of committed
transactions makes of the tables at the start; what concerns one process is kept
apart, one column for each field of its connection. -/
structure World where
  base : Database := {}
  wal : List Transaction := []
  locks : List (ProcessId × Lock) := []
  uuids : List (ProcessId × UUID) := []
  publications : List Publication := []
  writes : ProcessId → List Write := fun _ => []
  reads : ProcessId → List Read := fun _ => []
  raised : ProcessId → List PyError := fun _ => []
  published : ProcessId → List Publication := fun _ => []
  response : ProcessId → Option HttpResponse := fun _ => none

namespace World

/-- The committed tables. -/
def database (world : World) : Database := replay world.base world.wal

/-- The tables as a process sees them: committed rows and its own writes. -/
def visible (world : World) (process : ProcessId) : Database :=
  world.database.writeAll (world.writes process)

/-- One process seen from the server. -/
def connection (world : World) (process : ProcessId) : Connection where
  writes := world.writes process
  reads := world.reads process
  raised := world.raised process
  published := world.published process
  response := world.response process

/-- Whether an identifier has been in use or handed out before. -/
def issued (world : World) (id : UUID) : Bool :=
  (world.base.shipment id).isSome || (world.base.outbox id).isSome ||
    world.uuids.any fun entry => entry.2 = id

/-- Whether another open transaction holds a lock. -/
def heldByOther (world : World) (process : ProcessId) (lock : Lock) : Bool :=
  world.locks.any fun held => held.2 = lock && held.1 ≠ process

/-- Take locks until the end of the transaction. -/
def hold (process : ProcessId) (locks : List Lock) (world : World) : World :=
  { world with locks := locks.map (process, ·) ++ world.locks }

/-- End the transaction of a process without its writes. -/
def discard (process : ProcessId) (world : World) : World :=
  { world with
    writes := Function.update world.writes process []
    locks := world.locks.filter fun held => held.1 ≠ process }

/-- End the transaction of a process with its writes. -/
def commit (process : ProcessId) (world : World) : World :=
  { world.discard process with
    wal := world.wal ++ [{ toConnection := world.connection process, process := process }] }

/-- Add a write to the open transaction. -/
def append (process : ProcessId) (write : Write) (world : World) : World :=
  { world with
    writes := Function.update world.writes process (world.writes process ++ [write]) }

/-- Note something a process was shown. -/
def note (process : ProcessId) (read : Read) (world : World) : World :=
  { world with
    reads := Function.update world.reads process (read :: world.reads process) }

/-- Note an exception that a statement raised. -/
def raise (process : ProcessId) (error : PyError) (world : World) : World :=
  { world with
    raised := Function.update world.raised process (error :: world.raised process) }

/-- Note the exception of an operation that raised one. -/
def settle {α : Type} (process : ProcessId) (outcome : Except PyError α) (world : World) :
    World :=
  match outcome with
  | .ok _ => world
  | .error error => world.raise process error

/-- Note an answer. -/
def answer (process : ProcessId) (response : HttpResponse) (world : World) : World :=
  { world with response := Function.update world.response process (some response) }

/-- Note a call of the publisher. -/
def publish (process : ProcessId) (message : RecordedEventMessage) (confirmed : Bool)
    (world : World) : World :=
  let publication : Publication :=
    { process := process
      message := message
      confirmed := confirmed
      lsn := world.wal.length }
  { world with
    publications := publication :: world.publications
    published :=
      Function.update world.published process (publication :: world.published process) }

/-- Hand out an identifier. -/
def issue (process : ProcessId) (id : UUID) (world : World) : World :=
  { world with uuids := (process, id) :: world.uuids }

end World

/-! ## Unique keys and foreign keys -/

/-- A unique key of a row about to be inserted: its lock, whether a visible row
already has it, and the name of the constraint. -/
structure UniqueKey where
  lock : Lock
  present : Bool
  constraint : String

/-- A reference of a row about to be inserted: whether its target is visible,
and the name of the constraint. -/
structure ForeignKey where
  present : Bool
  constraint : String

/-- The outcome of checking the unique keys of a row. -/
inductive KeyCheck where
  | free
  | waits
  | violates (constraint : String)
deriving DecidableEq, Repr

/-- Check unique keys in index order: a key held by another open transaction has
to be waited for, a key that is taken is a violation. -/
def checkKeys (world : World) (process : ProcessId) : List UniqueKey → KeyCheck
  | [] => .free
  | key :: keys =>
      if world.heldByOther process key.lock then .waits
      else if key.present then .violates key.constraint
      else checkKeys world process keys

/-- The integrity error of a violated constraint. -/
def violation (constraint : String) : PyError :=
  .integrityError (some constraint)
    ("insert or update violates constraint \"" ++ constraint ++ "\"")

/-- `INSERT`: unique keys first, then references, then the write itself. -/
def insertRow (process : ProcessId) (keys : List UniqueKey) (references : List ForeignKey)
    (write : Write) (world : World) : Option (Except PyError Unit × World) :=
  match checkKeys world process keys with
  | .waits => none
  | .violates constraint => some (.error (violation constraint), world)
  | .free =>
      match references.find? fun reference => !reference.present with
      | some reference => some (.error (violation reference.constraint), world)
      | none =>
          some (.ok (), (world.hold process (keys.map UniqueKey.lock)).append process write)

/-- `UPDATE` of one row by its key, which waits for the row's lock. -/
def updateRow (process : ProcessId) (lock : Lock) (present : Bool) (write : Write)
    (world : World) : Option (Except PyError Unit × World) :=
  if world.heldByOther process lock then none
  else if present then some (.ok (), (world.hold process [lock]).append process write)
  else some (.error (.exception "StaleDataError" "UPDATE statement matched no row"), world)

/-- The unique keys of `shipments`. -/
def shipmentKeys (database : Database) (row : ShipmentModel) : List UniqueKey :=
  [{ lock := .shipmentKey row.id
     present := (database.shipment row.id).isSome
     constraint := "shipments_pkey" },
   { lock := .referenceNumber row.referenceNumber
     present := database.shipments.any fun other =>
       other.referenceNumber == row.referenceNumber
     constraint := "ix_shipments_reference_number" }]

/-- The unique key of `shipment_events`. -/
def eventKeys (database : Database) (row : ShipmentEventModel) : List UniqueKey :=
  [{ lock := .eventKey row.eventId
     present := (database.event row.eventId).isSome
     constraint := "shipment_events_pkey" }]

/-- The reference of `shipment_events`. -/
def eventReferences (database : Database) (row : ShipmentEventModel) : List ForeignKey :=
  [{ present := (database.shipment row.shipmentId).isSome
     constraint := "shipment_events_shipment_id_fkey" }]

/-- The unique keys of `outbox_events`. -/
def outboxKeys (database : Database) (row : OutboxEventModel) : List UniqueKey :=
  [{ lock := .outboxKey row.id
     present := (database.outbox row.id).isSome
     constraint := "outbox_events_pkey" },
   { lock := .outboxEventType row.eventId row.messageType
     present := database.outboxEvents.any fun other =>
       other.eventId = row.eventId && other.messageType == row.messageType
     constraint := "uq_outbox_event_type" }]

/-- The reference of `outbox_events`. -/
def outboxReferences (database : Database) (row : OutboxEventModel) : List ForeignKey :=
  [{ present := (database.event row.eventId).isSome
     constraint := "outbox_events_event_id_fkey" }]

/-! ## Statements -/

/-- The environment's part of the model: the server's conversions, and the
exceptions that an operation may raise for reasons of its own. -/
structure Server where
  postgres : Postgres
  faults : PyError → Bool

namespace Server

variable (server : Server)

/-- `ORDER BY next_attempt_at, created_at, id`. -/
def precedes (first second : OutboxEventModel) : Bool :=
  let instant := DateTime.instant server.postgres.localize
  let due := (instant first.nextAttemptAt, instant second.nextAttemptAt)
  let created := (instant first.createdAt, instant second.createdAt)
  if due.1 ≠ due.2 then due.1 < due.2
  else if created.1 ≠ created.2 then created.1 < created.2
  else first.id.int.toNat < second.id.int.toNat

/-- `LIMIT 1` after that order. -/
def first : List OutboxEventModel → Option OutboxEventModel
  | [] => none
  | row :: rows =>
      match first rows with
      | none => some row
      | some other => if server.precedes other row then some other else some row

/-- The rows that `claim_next` may take: unpublished, due and, because of
`FOR UPDATE SKIP LOCKED`, not locked by another transaction. -/
def claimable (world : World) (process : ProcessId) (now : DateTime) :
    List OutboxEventModel :=
  (world.visible process).outboxEvents.filter fun row =>
    row.publishedAt.isNone &&
      decide (row.nextAttemptAt.instant server.postgres.localize ≤
        now.instant server.postgres.localize) &&
      !world.heldByOther process (.outboxRow row.id)

/-- `INSERT INTO shipment_events`: the source must not be null. -/
def insertEvent (process : ProcessId) (row : ShipmentEventModel) (world : World) :
    Option (Except PyError Unit × World) :=
  if row.source = .null then
    some (.error (.integrityError none "null value in column \"source\""), world)
  else
    insertRow process (eventKeys (world.visible process) row)
      (eventReferences (world.visible process) row) (.insertEvent row) world

/-- What is left behind by a statement that raises for reasons of its own.  A
rollback that raises has lost the connection, and a publication that raised may
have reached the broker.  A `COMMIT` that raises has not taken effect. -/
def faulted (process : ProcessId) (statement : Statement) (world : World) : World :=
  match statement with
  | .rollback => world.discard process
  | .publish message => world.publish process message false
  | _ => world

/-- The effect of a statement that goes through.  `none` means that it waits,
or that its answer is not the server's to give. -/
def proceed (server : Server) (process : ProcessId) : (statement : Statement) → World →
    Option (Except PyError (Reply statement) × World)
  | .selectShipment id, world =>
      let row := (world.visible process).shipment id
      some (.ok row, world.note process (.shipment world.wal.length row))
  | .selectEventId eventId, world =>
      let row := (world.visible process).event eventId
      some (.ok (row.map ShipmentEventModel.eventId),
        world.note process (.event world.wal.length row.isSome))
  | .insertShipment row, world =>
      let row := server.postgres.shipmentRow row
      insertRow process (shipmentKeys (world.visible process) row) []
        (.insertShipment row) world
  | .insertEvent row, world => insertEvent process (server.postgres.eventRow row) world
  | .insertOutbox row, world =>
      let row := server.postgres.outboxRow row
      insertRow process (outboxKeys (world.visible process) row)
        (outboxReferences (world.visible process) row) (.insertOutbox row) world
  | .updateShipment id patch, world =>
      updateRow process (.shipmentRow id) ((world.visible process).shipment id).isSome
        (.updateShipment id (server.postgres.shipmentPatch patch)) world
  | .claimOutbox now, world =>
      match server.first (server.claimable world process now) with
      | none => some (.ok none, world)
      | some row =>
          some (.ok (some row),
            (world.hold process [.outboxRow row.id]).note process
              (.claimed world.wal.length row))
  | .updateOutbox id patch, world =>
      updateRow process (.outboxRow id) ((world.visible process).outbox id).isSome
        (.updateOutbox id (server.postgres.outboxPatch patch)) world
  | .commit, world => some (.ok (), world.commit process)
  | .rollback, world => some (.ok (), world.discard process)
  | .observe, world => some (.ok (), world)
  | .publish message, world => some (.ok (), world.publish process message true)
  | .respond response, world => some (.ok (), world.answer process response)
  | .uuid4, _ => none
  | .now, _ => none

/-- `uuid4()`: an identifier that is not in use. -/
def drawUuid (process : ProcessId) (id : UUID) : (statement : Statement) → World →
    Option (Except PyError (Reply statement) × World)
  | .uuid4, world =>
      if world.issued id then none else some (.ok id, world.issue process id)
  | _, _ => none

/-- `datetime.now(UTC)`: some time in UTC; clocks need not agree or advance. -/
def readClock (value : DateTime) : (statement : Statement) → World →
    Option (Except PyError (Reply statement) × World)
  | .now, world => if value.utcoffset = some 0 then some (.ok value, world) else none
  | _, _ => none

/-- The effect of one statement of a process.  `none` means that it waits, or
that the choice does not fit the statement. -/
def execute (server : Server) (process : ProcessId) (statement : Statement)
    (choice : Choice) (world : World) :
    Option (Except PyError (Reply statement) × World) :=
  match choice with
  | .proceed => server.proceed process statement world
  | .uuid id => drawUuid process id statement world
  | .time value => readClock value statement world
  | .fault error =>
      if server.faults error then some (.error error, faulted process statement world)
      else none

/-- A statement, with the exception that it raises noted. -/
def perform (server : Server) (process : ProcessId) :
    Interaction.Program.Interpreter Statement (fun op => Except PyError (Reply op))
      World Choice :=
  fun statement choice world =>
    (server.execute process statement choice world).map fun outcome =>
      (outcome.1, outcome.2.settle process outcome.1)

end Server

end Freight
