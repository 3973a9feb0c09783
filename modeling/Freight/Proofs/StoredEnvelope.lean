/-
Module: Freight.Proofs.StoredEnvelope
Purpose: The body that a claim returns is, character for character, the body that was written
  when the event was recorded.
Trusted boundary: none
Main exports:
  Enqueuing, History.enqueuing, SerializedMessage.body_of_reloaded,
  stored_envelope_is_published, paired_keys_not_republished
-/
import Freight.Messaging.SerializedMessage
import Freight.Proofs.OutboxLedger
import Freight.Text.CodePoints

namespace Freight

open Interaction (ProcessId)

/-! ## Where an outbox row comes from -/

/-- A transaction records an event, and enqueues a message about it. -/
structure Enqueuing (server : Server) (transaction : Transaction) (event : ShipmentEvent)
    (message : RecordedEventMessage) (enqueuedAt : DateTime) : Prop where
  built : RecordedEventMessage.fromEvent message.messageId event message.correlationId =
    .ok message
  recorded : .insertEvent (server.postgres.eventRow (EventMapper.toModel event)) ∈
    transaction.writes
  enqueued : .insertOutbox (server.postgres.outboxRow
    (SQLAlchemyOutboxRepository.model message enqueuedAt)) ∈ transaction.writes

section Provenance

variable {server : Server} {base : Database} {quiet : Prop}
  {requests : ProcessId → Request} {wal : List Transaction}

/-- Step lemma: a row is enqueued together with the event that it is about. -/
theorem Effect.enqueuing {request : Request} {transaction : Transaction}
    (effect : Effect server base quiet wal request transaction) {row : OutboxEventModel}
    (inserted : .insertOutbox row ∈ transaction.writes) :
    ∃ event message enqueuedAt, Enqueuing server transaction event message enqueuedAt ∧
      row = server.postgres.outboxRow
        (SQLAlchemyOutboxRepository.model message enqueuedAt) := by
  cases effect with
  | nothing writes published =>
      rw [writes] at inserted
      cases inserted
  | created creation createdAt receivedAt freshShipment freshEvent freshOutbox writes =>
      rw [writes] at inserted
      have same : row = creation.outboxRow server.postgres := by
        simpa [Creation.writes] using inserted
      refine ⟨creation.event, creation.message, creation.enqueuedAt, ⟨rfl, ?_, ?_⟩, same⟩
      · rw [writes]
        simp [Creation.writes, Creation.eventRow]
      · rw [writes]
        simp [Creation.writes, Creation.outboxRow]
  | received reception reports lsn current found saved loaded identity handled payload
      reads freshEvent freshOutbox writes =>
      rw [writes] at inserted
      have same : row = reception.outboxRow server.postgres := by
        unfold Reception.writes Reception.projection at inserted
        split at inserted <;> simpa using inserted
      refine ⟨reception.recorded, reception.message, reception.enqueuedAt, ⟨?_, ?_, ?_⟩, same⟩
      · have object : reception.recorded.payload.plain.isDict = true := payload
        simp only [RecordedEventMessage.fromEvent, object, if_true]
        rfl
      · rw [writes]
        simp [Reception.writes, Reception.eventRow]
      · rw [writes]
        simp [Reception.writes, Reception.outboxRow]
  | attempted attempt locked pending confirmed writes =>
      rw [writes] at inserted
      simp [Attempt.writes] at inserted

/-- Run lemma: a row that is there has been enqueued, and nothing that was written then has
changed. -/
theorem History.enqueuing (history : History server base quiet requests wal)
    (empty : base.outboxEvents = []) {row : OutboxEventModel}
    (present : row ∈ (replay base wal).outboxEvents) :
    ∃ (index : Nat) (transaction : Transaction) (event : ShipmentEvent)
      (message : RecordedEventMessage) (enqueuedAt : DateTime),
      wal[index]? = some transaction ∧
      Enqueuing server transaction event message enqueuedAt ∧
      row.snapshot = (server.postgres.outboxRow
        (SQLAlchemyOutboxRepository.model message enqueuedAt)).snapshot := by
  induction history generalizing row with
  | start =>
      rw [replay_nil, empty] at present
      cases present
  | @commit wal last earlier effect first inductionHypothesis =>
      rw [replay_snoc] at present
      rcases Database.mem_outboxEvents_writeAll present with
        ⟨inserted, member, same⟩ | ⟨before, there, same⟩
      · obtain ⟨event, message, enqueuedAt, enqueuing, rfl⟩ := effect.enqueuing member
        exact ⟨wal.length, last, event, message, enqueuedAt, by simp, enqueuing, same.symm⟩
      · obtain ⟨index, transaction, event, message, enqueuedAt, stands, enqueuing, kept⟩ :=
          inductionHypothesis there
        refine ⟨index, transaction, event, message, enqueuedAt, ?_, enqueuing,
          same.symm.trans kept⟩
        rw [List.getElem?_append_left (List.getElem?_eq_some_iff.mp stands).1]
        exact stands

/-- A row that has been enqueued keeps what was written then. -/
theorem History.snapshot (history : History server base quiet requests wal)
    (empty : base.outboxEvents = []) {index count : Nat} {transaction : Transaction}
    {event : ShipmentEvent} {message : RecordedEventMessage} {enqueuedAt : DateTime}
    (stands : wal[index]? = some transaction)
    (enqueuing : Enqueuing server transaction event message enqueuedAt)
    {row : OutboxEventModel} (present : row ∈ (replay base (wal.take count)).outboxEvents)
    (same : row.id = message.messageId) :
    row.snapshot = (server.postgres.outboxRow
      (SQLAlchemyOutboxRepository.model message enqueuedAt)).snapshot := by
  have keyed : base.outboxKeys.Nodup := by
    rw [Database.outboxKeys, empty]
    exact List.nodup_nil
  -- both rows are in the tables that the whole log leaves, under one key
  have found := Database.outbox_of_mem ((history.take count).outboxKeys_nodup keyed) present
  obtain ⟨final, foundFinal, kept⟩ := replay_outbox_of_take found
  obtain ⟨inserted, there, insertedSnapshot⟩ : ∃ inserted,
      inserted ∈ (replay base (wal.take (index + 1))).outboxEvents ∧
        inserted.snapshot = (server.postgres.outboxRow
          (SQLAlchemyOutboxRepository.model message enqueuedAt)).snapshot := by
    rw [replay_take_succ base stands]
    exact Database.exists_snapshot_of_insertOutbox enqueuing.enqueued
  have foundThere := Database.outbox_of_mem
    ((history.take (index + 1)).outboxKeys_nodup keyed) there
  obtain ⟨last, foundLast, keptThere⟩ := replay_outbox_of_take foundThere
  have key : inserted.id = row.id := by
    have ids : inserted.snapshot.id = message.messageId := by rw [insertedSnapshot]; rfl
    rw [same]
    exact ids
  rw [key, foundFinal] at foundLast
  cases foundLast
  rw [← kept, keptThere, insertedSnapshot]

end Provenance

/-! ## The text -/

/-- A body that is written from a column is the body that was parsed for it, in whatever order
the column has put the keys. -/
theorem SerializedMessage.body_of_reloaded {recorder worker : Interpreter}
    {messageId : UUID} {event : ShipmentEvent} {correlationId : Option String}
    {message published : SerializedMessage} {now : DateTime}
    {stored reloaded : OutboxEventModel} (source : event.source.Wire)
    (payload : event.payload.plain.Wire)
    (built : SerializedMessage.fromEvent recorder messageId event correlationId = .ok message)
    (added : message.model recorder now = .ok stored)
    (preserved : Json.Reordered stored.payload reloaded.payload)
    (claimed : SerializedMessage.ofModel worker reloaded = .ok published) :
    published.body = message.body := by
  obtain ⟨document, -, envelope, written, -⟩ := fromEvent_ok built
  have wire : document.body.Wire := by
    rw [envelope]
    exact envelope_wire source payload
  have column := (model_ok wire written added).1
  have again := (ofModel_ok claimed).1
  have sorted := Json.wellFormed_sortKeys wire
  rw [← column] at sorted
  rw [← JsonText.dumps_reordered sorted preserved, column,
    ← JsonText.dumps_reordered wire (Json.reordered_sortKeys document.body)] at again
  exact JsonText.dumps_unique written again

/-- The same process can always write the column again. -/
theorem SerializedMessage.ofModel_reloaded {recorder : Interpreter} {messageId : UUID}
    {event : ShipmentEvent} {correlationId : Option String} {message : SerializedMessage}
    {now : DateTime} {stored reloaded : OutboxEventModel} (source : event.source.Wire)
    (payload : event.payload.plain.Wire)
    (built : SerializedMessage.fromEvent recorder messageId event correlationId = .ok message)
    (added : message.model recorder now = .ok stored)
    (preserved : Json.Reordered stored.payload reloaded.payload) :
    ∃ published, SerializedMessage.ofModel recorder reloaded = .ok published := by
  obtain ⟨document, -, envelope, written, -⟩ := fromEvent_ok built
  have wire : document.body.Wire := by
    rw [envelope]
    exact envelope_wire source payload
  have column := (model_ok wire written added).1
  have sorted := Json.wellFormed_sortKeys wire
  rw [← column] at sorted
  have again : JsonText.dumps recorder reloaded.payload = .ok message.body := by
    rw [← JsonText.dumps_reordered sorted preserved, column,
      ← JsonText.dumps_reordered wire (Json.reordered_sortKeys document.body), written]
  simp only [SerializedMessage.ofModel, again]
  exact ⟨_, rfl⟩

/-! ## Canonical texts -/

namespace JsonText

/-- The sorted compact serialisation is canonical: values that differ in the order of keys have
one text, and a text that has been read is written again as it was. -/
structure Canonical : Prop where
  reordered : ∀ (interpreter : Interpreter) (left right : Json), left.Wire →
    Json.Reordered left right → dumps interpreter left = dumps interpreter right
  again : ∀ (interpreter other : Interpreter) (value : Json) (body : String), value.Wire →
    dumps interpreter value = .ok body →
      (interpreter.encodeDepth ≤ interpreter.decodeDepth →
        ∃ read, loads interpreter body = .ok read) ∧
      ∀ read, loads other body = .ok read → dumps interpreter read = .ok body

theorem canonical : Canonical where
  reordered _ _ _ wire reordered := dumps_reordered wire reordered
  again _ _ _ _ wire written :=
    ⟨fun deeper => ⟨_, loads_dumps_ok wire written deeper⟩,
      fun _ decoded => dumps_loads wire written decoded⟩

end JsonText

namespace Relay

/-- In a run that begins with an empty outbox, among any traffic, faults and crashes: a claim
of a recorded event's row, whenever it comes, finds everything that was enqueued, and the body
that is made of the column, in whatever order the column holds the keys, is the one that was
written when the event was recorded. -/
theorem stored_envelope_is_published (server : Server) (base : Database)
    (empty : base.outboxEvents = []) (requests : ProcessId → Request) (state : RelayingState)
    (reached : (relaying server requests).Reachable { world := { base := base } } state)
    {index : Nat} {transaction : Transaction} {event : ShipmentEvent}
    {document : RecordedEventMessage} {enqueuedAt : DateTime}
    (stands : state.world.world.wal[index]? = some transaction)
    (enqueuing : Enqueuing server transaction event document enqueuedAt)
    (source : event.source.Wire) (payload : event.payload.plain.Wire)
    {recorder : Interpreter} {message : SerializedMessage} {stored : OutboxEventModel}
    (built : SerializedMessage.fromEvent recorder document.messageId event
      document.correlationId = .ok message)
    (added : message.model recorder enqueuedAt = .ok stored)
    {earlier : Log} {process : ProcessId} {entry : LogEntry} {now : DateTime}
    {row : OutboxEventModel} (inside : earlier ++ [(process, entry)] <+: state.world.log)
    (claims : entry.exchange = some ⟨.statement (.claimOutbox now), .ok (some row)⟩)
    (same : row.id = document.messageId) {column : Json}
    (preserved : Json.Reordered stored.payload column) :
    JsonText.Canonical ∧
      row.snapshot = (server.postgres.outboxRow
        (SQLAlchemyOutboxRepository.model document enqueuedAt)).snapshot ∧
      (∃ published,
        SerializedMessage.ofModel recorder { row with payload := column } = .ok published) ∧
      ∀ worker published,
        SerializedMessage.ofModel worker { row with payload := column } = .ok published →
          published.body = message.body ∧ published.messageId = message.messageId ∧
            published.eventId = message.eventId ∧ published.shipmentId = message.shipmentId := by
  have keyed : base.outboxKeys.Nodup := by
    rw [Database.outboxKeys, empty]
    exact List.nodup_nil
  obtain ⟨processes, projected⟩ := platform_of_relaying reached
  have history := (platform_invariant keyed projected).history
  have present := (claimed_first (relaying_lawful reached) (relaying_faithful reached) inside
    claims).1
  have kept := history.snapshot empty stands enqueuing present same
  refine ⟨JsonText.canonical, kept,
    SerializedMessage.ofModel_reloaded source payload built added preserved, ?_⟩
  intro worker published claimed
  obtain ⟨-, messageId, eventId, shipmentId⟩ := SerializedMessage.ofModel_ok claimed
  obtain ⟨-, -, -, -, ownId, ownEvent, ownShipment, -⟩ := SerializedMessage.fromEvent_ok built
  obtain ⟨-, shape⟩ := RecordedEventMessage.fromEvent_ok enqueuing.built
  have rowEvent : row.eventId = document.eventId :=
    congrArg OutboxEventModel.eventId kept
  have rowShipment : row.shipmentId = document.shipmentId :=
    congrArg OutboxEventModel.shipmentId kept
  refine ⟨SerializedMessage.body_of_reloaded source payload built added preserved claimed,
    ?_, ?_, ?_⟩
  · rw [messageId, ownId]
    exact same
  · rw [eventId, ownEvent]
    exact rowEvent.trans (by rw [shape])
  · rw [shipmentId, ownShipment]
    exact rowShipment.trans (by rw [shape])

/-! ## A row that is claimed twice -/

/-- An event with a nested payload. -/
def nestedEvent : ShipmentEvent where
  eventId := ⟨8⟩
  shipmentId := parcel
  eventType := .pickupScheduled
  source := .str "carrier"
  occurredAt := .utc 25
  receivedAt := .utc 26
  payload := .json (.obj
    [("legs", .arr [.obj [("to", .str "Lyon"), ("from", .str "Porto")], .null]),
      ("km", .float (.finite false 5629499534213120 (-51)))])

/-- It is recorded after the creation, and three relays call. -/
def republications : ProcessId → Request
  | 0 => journey 0
  | 1 => .handleEvent none nestedEvent
  | _ => .publishOne 5

/-- The first relay publishes the creation, the second one cannot publish the event, and the
third one claims it again. -/
def republicationsSchedule : List (Interaction.System.Action Choice) :=
  createTurns 0 ++
    turns 1 [.proceed, .proceed, .proceed, .proceed, .proceed, .uuid ⟨101#128⟩, .proceed,
      .time (.utc 27), .proceed, .proceed, .proceed, .proceed, .proceed] ++
    turns 2 [.time (.utc 30), .proceed, .proceed, .proceed, .time (.utc 31), .proceed, .proceed,
      .proceed, .proceed] ++
    turns 3 [.time (.utc 40), .proceed, .fault brokerDown, .proceed, .time (.utc 41), .proceed,
      .proceed, .proceed, .proceed] ++
    turns 4 [.time (.utc 50), .proceed]

/-- The message about the event. -/
def nestedMessage : RecordedEventMessage where
  messageId := ⟨101⟩
  eventId := nestedEvent.eventId
  shipmentId := nestedEvent.shipmentId
  body := RecordedEventMessage.envelope ⟨101⟩ nestedEvent nestedEvent.payload.plain

/-- Its row, when it is claimed again. -/
def nestedRow : OutboxEventModel :=
  { SQLAlchemyOutboxRepository.model nestedMessage (.utc 27) with
    nextAttemptAt := .utc 46
    attempts := 1
    lastError := some "OperationalError" }

/-- The claim. -/
def secondClaim : ProcessId × LogEntry :=
  (4,
    { stamp := 4
      exchange := some ⟨.statement (.claimOutbox (.utc 50)), .ok (some nestedRow)⟩ })

theorem republicationsSchedule_runs :
    (((relaying Server.flaky republications).run republicationsSchedule
      ((relaying Server.flaky republications).initial { world := {} })).map fun state =>
        (state.world.world.wal[1]?.map fun transaction => transaction.writes.take 2,
          state.world.log.getLast?)) =
      some (some [.insertEvent (EventMapper.toModel nestedEvent),
          .insertOutbox (SQLAlchemyOutboxRepository.model nestedMessage (.utc 27))],
        some secondClaim) := by
  decide +kernel

theorem nested_wire : nestedEvent.payload.plain.Wire := by
  have float : (Double.finite false 5629499534213120 (-51)).Finite :=
    .inr ⟨by norm_num, by norm_num, by norm_num, by norm_num⟩
  exact ⟨by decide, ⟨⟨by decide, trivial, trivial, trivial⟩, trivial, trivial⟩, float, trivial⟩

theorem nested_written :
    ∃ message stored,
      SerializedMessage.fromEvent Interpreter.usual ⟨101⟩ nestedEvent none = .ok message ∧
      message.model Interpreter.usual (.utc 27) = .ok stored ∧
      stored.payload = nestedMessage.body.sortKeys := by
  have within : JsonText.refusal Interpreter.usual.encoding Interpreter.usual.encodeDepth
      nestedMessage.body.sortKeys = none := by decide +kernel
  have written := JsonText.dumps_ok_iff.mpr ⟨within, rfl⟩
  exact SerializedMessage.exists_stored (.utc 27) rfl trivial nested_wire written (by decide)

/-- The column of the row, with its keys the other way round. -/
def reversed : Json → Json
  | .obj fields => .obj fields.reverse
  | value => value

/-- The third relay would send the body that was written at first. -/
theorem nested_is_republished :
    ∃ (state : RelayingState) (message : SerializedMessage) (stored : OutboxEventModel),
      (relaying Server.flaky republications).Reachable { world := {} } state ∧
      state.world.log.getLast? = some secondClaim ∧
      SerializedMessage.fromEvent Interpreter.usual ⟨101⟩ nestedEvent none = .ok message ∧
      message.model Interpreter.usual (.utc 27) = .ok stored ∧
      ∃ published,
        SerializedMessage.ofModel Interpreter.usual
          { nestedRow with payload := reversed stored.payload } = .ok published ∧
        published.body = message.body := by
  obtain ⟨state, ran, shown⟩ := Option.map_eq_some_iff.mp republicationsSchedule_runs
  obtain ⟨writes, claimed⟩ := Prod.mk.inj shown
  obtain ⟨transaction, stands, front⟩ := Option.map_eq_some_iff.mp writes
  obtain ⟨message, stored, built, added, column⟩ := nested_written
  have reached : (relaying Server.flaky republications).Reachable { world := {} } state :=
    ⟨republicationsSchedule, ran⟩
  have enqueuing : Enqueuing Server.flaky transaction nestedEvent nestedMessage (.utc 27) := by
    refine ⟨rfl, List.mem_of_mem_take (i := 2) ?_, List.mem_of_mem_take (i := 2) ?_⟩
    · rw [front]
      exact List.mem_cons_self
    · rw [front]
      exact List.mem_cons_of_mem _ List.mem_cons_self
  have preserved : Json.Reordered stored.payload (reversed stored.payload) := by
    rw [column]
    exact .permute (List.reverse_perm _).symm
  have inside : state.world.log.dropLast ++ [secondClaim] <+: state.world.log := by
    rw [List.dropLast_append_getLast? _ claimed]
  obtain ⟨-, -, ⟨published, sent⟩, same⟩ :=
    stored_envelope_is_published Server.flaky {} rfl republications state reached stands
      enqueuing trivial nested_wire built added inside rfl rfl preserved
  exact ⟨state, message, stored, reached, claimed, built, added, published, sent,
    (same Interpreter.usual published sent).1⟩

/-! ## Keys with surrogates -/

/-- The envelope of an event whose payload has any strings. -/
def pythonEnvelope (messageId : UUID) (event : ShipmentEvent) (payload : PyJson) : PyJson :=
  (PyJson.ofJson (RecordedEventMessage.envelope messageId event (.obj []))).replace "payload"
    payload

/-- A body is not always written again as it was: two surrogates in a key come after the last
code point of the first plane once they are read as one. -/
theorem paired_keys_not_republished :
    ¬ ∀ (messageId : UUID) (event : ShipmentEvent) (payload column : PyJson),
        PyJson.loads (PyJson.dumps (pythonEnvelope messageId event payload)) = some column →
        PyJson.dumps column = PyJson.dumps (pythonEnvelope messageId event payload) := by
  intro canonical
  let envelope := pythonEnvelope ⟨101⟩ nestedEvent
    (.obj [PyJson.paired (.int 1), ([0xffff], .int 2)])
  have shown : (PyJson.read (PyJson.write envelope.sortKeys)).map (fun column =>
      decide (PyJson.write column.sortKeys = PyJson.write envelope.sortKeys)) =
        some false := by
    decide +kernel
  rw [← PyJson.loads_dumps] at shown
  obtain ⟨column, read, other⟩ := Option.map_eq_some_iff.mp shown
  have same := String.ofList_injective (canonical _ _ _ column read)
  exact of_decide_eq_false other same

end Relay

end Freight
