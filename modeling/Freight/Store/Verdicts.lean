/-
Module: Freight.Store.Verdicts
Purpose: What becomes of a reported event is a function of the tables: the verdict
  on it.  A reception that is alone and meets no fault ends, in that verdict,
  over HTTP and by the worker alike.
Trusted boundary: none
Main exports:
  Verdict, ReceiveShipmentEvent.verdict, Verdict.reception, Verdict.Ended,
  Idle, ends_execute, ends_handleEvent, ends_receiveEvent
-/
import Freight.Store.Alone
import Freight.Store.Verified

namespace Freight

open Interaction (ProcessId Contract Computation)

/-! ## The verdict -/

/-- What `ReceiveShipmentEvent.execute` and the commit after it make of an event. -/
inductive Verdict where
  | rejected (error : PyError)
  | known (row : ShipmentModel)
  | recorded (row : ShipmentModel) (status : ShipmentEventProcessingStatus)
      (after : Shipment)

/-- The verdict on an event, given the committed tables.  A null source is the one
value that a column refuses. -/
def ReceiveShipmentEvent.verdict (postgres : Postgres) (database : Database)
    (event : ShipmentEvent) : Verdict :=
  if event.eventType = .shipmentCreated then
    .rejected (.invalidShipmentEvent event.eventType.value)
  else
    match database.shipment event.shipmentId with
    | none => .rejected (.value ("Shipment " ++ event.shipmentId.str ++ " not found."))
    | some row =>
        if (database.event event.eventId).isSome then .known row
        else
          match ShipmentEventHandler.handle (ShipmentMapper.toDomain row) event with
          | (.error error, _) => .rejected error
          | (.ok status, after) =>
              if event.payload.plain.isDict = false then
                .rejected (.value "Recorded-event payload must be an object")
              else if postgres.varchar event.source = .null then
                .rejected (.integrityError none "null value in column \"source\"")
              else .recorded row status after

/-- A verdict of `recorded` was reached on a shipment that is there and an event that
is not. -/
theorem ReceiveShipmentEvent.verdict_recorded {postgres : Postgres} {database : Database}
    {event : ShipmentEvent} {row : ShipmentModel}
    {status : ShipmentEventProcessingStatus} {after : Shipment}
    (recorded : verdict postgres database event = .recorded row status after) :
    database.shipment event.shipmentId = some row ∧ database.event event.eventId = none ∧
      ShipmentEventHandler.handle (ShipmentMapper.toDomain row) event =
        (.ok status, after) := by
  unfold verdict at recorded
  split at recorded
  · cases recorded
  split at recorded
  · cases recorded
  rename_i found
  split at recorded
  · cases recorded
  rename_i unknown
  split at recorded
  · cases recorded
  rename_i handled
  split at recorded
  · cases recorded
  split at recorded
  · cases recorded
  · cases recorded
    exact ⟨found, by simpa using unknown, handled⟩

/-- What is recorded: a new event that the handler accepts, with an object and a source. -/
theorem ReceiveShipmentEvent.verdict_of_handled {postgres : Postgres} {database : Database}
    {event : ShipmentEvent} {row : ShipmentModel} {status : ShipmentEventProcessingStatus}
    {after : Shipment} (received : event.eventType ≠ .shipmentCreated)
    (found : database.shipment event.shipmentId = some row)
    (unrecorded : database.event event.eventId = none)
    (handled : ShipmentEventHandler.handle (ShipmentMapper.toDomain row) event =
      (.ok status, after))
    (object : event.payload.plain.isDict = true)
    (source : postgres.varchar event.source ≠ .null) :
    verdict postgres database event = .recorded row status after := by
  simp [verdict, received, found, unrecorded, handled, object, source]

/-- The moment of reception has no part in the verdict. -/
theorem ReceiveShipmentEvent.verdict_receivedAt (postgres : Postgres) (database : Database)
    (event : ShipmentEvent) (receivedAt : DateTime) :
    verdict postgres database { event with receivedAt := receivedAt } =
      verdict postgres database event := rfl

/-- The reception that a verdict of `recorded` leads to. -/
def Verdict.reception (start : World) (correlationId : Option String)
    (event : ShipmentEvent) (row : ShipmentModel) (status : ShipmentEventProcessingStatus)
    (after : Shipment) (messageId : UUID) (enqueuedAt : DateTime) : Reception where
  correlationId := correlationId
  event := event
  lsn := start.wal.length
  existsLsn := start.wal.length
  row := row
  status := status
  after := after
  saveLsn := start.wal.length
  loaded := row
  messageId := messageId
  enqueuedAt := enqueuedAt

/-- How a process that is alone ends under a verdict: what it raises or returns,
and the transaction it has committed, if any. -/
def Verdict.Ended {α : Type} (verdict : Verdict) (server : Server) (start : World)
    (process : ProcessId) (correlationId : Option String) (event : ShipmentEvent)
    (refuse : PyError → PyError) (answer : Shipment → α) (outcome : Except PyError α)
    (world : World) : Prop :=
  match verdict with
  | .rejected error => outcome = .error (refuse error) ∧ Closed start process [] world
  | .known row =>
      outcome = .ok (answer (ShipmentMapper.toDomain row)) ∧
        ∃ connection : Connection, connection.writes = [] ∧
          Closed start process [{ toConnection := connection, process := process }] world
  | .recorded row status after =>
      outcome = .ok (answer after) ∧
        ∃ (connection : Connection) (messageId : UUID) (enqueuedAt : DateTime),
          connection.writes =
            (Verdict.reception start correlationId event row status after messageId
              enqueuedAt).writes server.postgres ∧
          Closed start process [{ toConnection := connection, process := process }] world

/-- A process that has not started, in a world without open transactions, whose tables
keep their references and whose identifiers have not run out. -/
structure Idle (process : ProcessId) (start : World) : Prop where
  references : start.database.References
  unissued : ∀ id, start.issued id = false → start.database.outbox id = none
  fresh : start.connection process = {}
  locks : start.locks = []
  spare : ∃ id, start.issued id = false

section Idle

variable {process : ProcessId} {start : World}

namespace Idle

/-- The invariant provides for the tables. -/
theorem of_invariant {server : Server} {base : Database} {quiet : Prop}
    {requests : ProcessId → Request} (kept : Invariant server base quiet requests start)
    (references : base.References) (fresh : start.connection process = {})
    (locks : start.locks = []) (spare : ∃ id, start.issued id = false) :
    Idle process start where
  references := by
    rw [World.database, kept.start]
    exact kept.history.references references
  unissued := by
    intro id unused
    simp only [World.issued, Bool.or_eq_false_iff, List.any_eq_false, decide_eq_true_eq]
      at unused
    obtain ⟨⟨-, free⟩, drawn⟩ := unused
    refine replay_outbox_of_none ?_ (Option.not_isSome_iff_eq_none.mp (by simp [free]))
    intro transaction member row inserted same
    have theirs := kept.ownership.outboxEvents member inserted
    exact drawn _ theirs same
  fresh := fresh
  locks := locks
  spare := spare

theorem alone (idle : Idle process start) : Alone start process [] {} start where
  base := rfl
  wal := rfl
  uuids := rfl
  connection := idle.fresh
  locks := by simp [idle.locks]

/-- Nothing announces an event that is not recorded. -/
theorem unannounced (idle : Idle process start) {eventId : UUID}
    (unrecorded : start.database.event eventId = none) :
    ∀ row ∈ start.database.outboxEvents, row.eventId ≠ eventId := by
  intro row member same
  have recorded := idle.references row member
  rw [same, unrecorded] at recorded
  cases recorded

end Idle

end Idle

/-! ## Execution -/

/-- Where `execute` leaves the session and the connection under a verdict. -/
def Verdict.Pending (verdict : Verdict) (server : Server) (start : World)
    (process : ProcessId) (correlationId : Option String) (event : ShipmentEvent)
    (outcome : Except PyError Shipment) (session : Session) (world : World) : Prop :=
  match verdict with
  | .rejected error =>
      outcome = .error error ∧
        ∃ drawn connection, Alone start process drawn connection world
  | .known row =>
      outcome = .ok (ShipmentMapper.toDomain row) ∧ session = {} ∧
        ∃ drawn connection, connection.writes = [] ∧
          Alone start process drawn connection world
  | .recorded row status after =>
      outcome = .ok after ∧
        ∃ (drawn : List (ProcessId × UUID)) (connection : Connection) (messageId : UUID)
            (enqueuedAt : DateTime),
          let reception :=
            Verdict.reception start correlationId event row status after messageId enqueuedAt
          session =
            { shipments :=
                [{ loaded := row, assigned := some (ShipmentMapper.toModel after) }]
              newOutboxEvents :=
                [SQLAlchemyOutboxRepository.model reception.message enqueuedAt] } ∧
          connection.writes = [.insertEvent (reception.eventRow server.postgres)] ∧
          start.issued messageId = false ∧ after.id = row.id ∧
          start.database.event event.eventId = none ∧
          start.database.shipment event.shipmentId = some row ∧ row.id = event.shipmentId ∧
          Alone start process drawn connection world

section Rules

variable {server : Server} {process : ProcessId} {start world : World}
  {correlationId : Option String} {event : ShipmentEvent}

/-- The `SELECT` of a shipment in a session that holds none. -/
theorem ends_scalarShipment {id : UUID} {session : Session} {connection : Connection}
    {drawn : List (ProcessId × UUID)}
    {post : Contract.Post PyError Session World (Option (Tracked ShipmentModel))}
    (faultless : server.Faultless) (empty : session.shipments = [])
    (alone : Alone start process drawn connection world)
    (clean : connection.writes = [])
    (established : ∀ after,
      Alone start process drawn
        (connection.note (.shipment start.wal.length (start.database.shipment id))) after →
      post (.ok ((start.database.shipment id).map ({ loaded := · }))) session after) :
    (Session.scalarShipment id).ends (server.perform process) post session world := by
  apply Computation.ends_bind
  refine ends_selectShipment faultless alone ?_
  intro selected read
  rw [clean, Database.writeAll_nil] at read ⊢
  have shown := established selected read
  cases found : start.database.shipment id with
  | none =>
      rw [found] at shown
      exact shown
  | some row =>
      rw [found] at shown
      apply Computation.ends_bind
      apply Computation.ends_read
      simp only [Contract.Post.on, Session.trackedShipment_nil empty, Option.getD_none]
      apply Computation.ends_pure
      exact shown

/-- From an accepted event to its insert. -/
theorem ends_record (faultless : server.Faultless) {row : ShipmentModel}
    {status : ShipmentEventProcessingStatus} {after : Shipment} {connection : Connection}
    (spare : ∃ id, start.issued id = false)
    (clean : connection.writes = []) (same : after.id = row.id)
    (unrecorded : start.database.event event.eventId = none)
    (found : start.database.shipment event.shipmentId = some row)
    (alone : Alone start process [] connection world) :
    (do
        let recordedEvent := { event with processingStatus := status }
        SQLAlchemyShipmentEventRepository.save recordedEvent
        SQLAlchemyShipmentRepository.save after
        let message ← RecordedEventMessage.record recordedEvent correlationId
        SQLAlchemyOutboxRepository.add message
        pure after : Py Shipment).ends (server.perform process)
      (Verdict.Pending
        (if event.payload.plain.isDict = false then
          .rejected (.value "Recorded-event payload must be an object")
        else if server.postgres.varchar event.source = .null then
          .rejected (.integrityError none "null value in column \"source\"")
        else .recorded row status after)
        server start process correlationId event)
      {} world := by
  have house : row.id = event.shipmentId := Database.shipment_id found
  apply Computation.ends_bind
  apply Computation.ends_bind
  refine ends_observe faultless ?_
  apply Computation.ends_modify
  apply Computation.ends_bind
  apply Computation.ends_bind
  refine ends_observe faultless ?_
  simp only [Contract.Post.on]
  apply Computation.ends_bind
  apply Computation.ends_bind
  apply Computation.ends_read
  refine ends_scalarShipment faultless rfl alone clean ?_
  intro selected read
  rw [same, house, found] at read ⊢
  apply Computation.ends_modify
  rw [Session.assignShipment_single rfl]
  apply Computation.ends_bind
  apply Computation.ends_bind
  have unissued : ∃ id, selected.issued id = false := by
    obtain ⟨id, unused⟩ := spare
    refine ⟨id, ?_⟩
    simpa [World.issued, read.base, read.uuids] using unused
  refine ends_uuid4 faultless read unissued ?_
  intro messageId drawnWorld unused drawn
  have unused : start.issued messageId = false := by
    simpa [World.issued, read.base, read.uuids] using unused
  apply Computation.ends_ofExcept
  cases object : event.payload.plain.isDict with
  | false =>
    simp only [RecordedEventMessage.fromEvent, object, Bool.false_eq_true, if_false, if_true,
      Contract.Post.on]
    exact ⟨rfl, _, _, drawn⟩
  | true =>
    simp only [RecordedEventMessage.fromEvent, object, Bool.true_eq_false, if_false, if_true,
      Contract.Post.on]
    apply Computation.ends_bind
    apply Computation.ends_bind
    apply ends_flushNewShipments_nil rfl
    apply Computation.ends_bind
    apply Computation.ends_bind
    apply Computation.ends_read
    apply Computation.ends_bind
    apply Computation.ends_forEach_cons
    by_cases source : server.postgres.varchar event.source = .null
    · refine ends_insertEvent_null faultless drawn source ?_
      intro refused connection alone
      rw [if_pos source]
      exact ⟨rfl, _, _, alone⟩
    · rw [if_neg source]
      refine ends_insertEvent faultless drawn source ?_ ?_ ?_
      · rw [Connection.note, clean]
        exact unrecorded
      · rw [Connection.note, clean]
        exact Option.isSome_iff_exists.mpr ⟨row, found⟩
      · intro inserted alone
        apply Computation.ends_forEach_nil
        apply Computation.ends_modify
        apply Computation.ends_bind
        refine ends_now faultless ?_
        intro enqueuedAt _
        apply Computation.ends_modify
        apply Computation.ends_pure
        exact ⟨rfl, _, _, messageId, enqueuedAt, rfl,
          by rw [Connection.append, Connection.note, clean]; rfl,
          unused, same, unrecorded, found, house, alone⟩

/-- `ReceiveShipmentEvent.execute` alone. -/
theorem ends_execute (faultless : server.Faultless)
    (idle : Idle process start)
    (alone : Alone start process [] {} world) :
    (ReceiveShipmentEvent.execute correlationId event).ends (server.perform process)
      (Verdict.Pending
        (ReceiveShipmentEvent.verdict server.postgres start.database event) server start
        process correlationId event)
      {} world := by
  unfold ReceiveShipmentEvent.execute ReceiveShipmentEvent.verdict
  by_cases created : event.eventType = .shipmentCreated
  · rw [if_pos created, if_pos created]
    exact Computation.ends_raise ⟨rfl, _, _, alone⟩
  rw [if_neg created, if_neg created]
  apply Computation.ends_bind
  apply Computation.ends_bind
  refine ends_scalarShipment faultless rfl alone rfl ?_
  intro selected read
  cases found : start.database.shipment event.shipmentId with
  | none => exact ⟨rfl, _, _, read⟩
  | some row =>
      rw [found] at read
      apply Computation.ends_pure
      have plain : ({ loaded := row } : Tracked ShipmentModel).current = row := rfl
      rw [Option.map_some, Option.map_some, plain]
      apply Computation.ends_bind
      apply Computation.ends_bind
      refine ends_selectEventId faultless read ?_
      intro checked shown
      simp only [Connection.note, Database.writeAll_nil, Contract.Post.on] at shown ⊢
      apply Computation.ends_pure
      cases known : start.database.event event.eventId with
      | some record =>
          simp only [Contract.Post.on, Option.map_some, Option.isSome_some, if_true]
          exact ⟨rfl, rfl, _, _, rfl, shown⟩
      | none =>
          simp only [Contract.Post.on, Option.map_none, Option.isSome_none, Bool.false_eq_true,
            if_false]
          rcases handled : ShipmentEventHandler.handle (ShipmentMapper.toDomain row) event with
            ⟨error | status, after⟩
          · exact ⟨rfl, _, _, shown⟩
          · apply Computation.ends_bind
            apply Computation.ends_ofExcept
            have same : after.id = row.id := ShipmentEventHandler.handle_id handled
            exact ends_record faultless idle.spare rfl same known found shown

/-- The flush of a recorded event: the outbox row, and the projection where a column
has changed. -/
theorem ends_flush_recorded (faultless : server.Faultless)
    (idle : Idle process start) (reception : Reception)
    (unmoved : reception.Unmoved)
    {drawn : List (ProcessId × UUID)} {connection : Connection}
    {post : Contract.Post PyError Session World Unit}
    (inserted : connection.writes = [.insertEvent (reception.eventRow server.postgres)])
    (unused : start.issued reception.messageId = false)
    (unrecorded : start.database.event reception.event.eventId = none)
    (found : start.database.shipment reception.row.id = some reception.row)
    (alone : Alone start process drawn connection world)
    (established : ∀ session after connection, session.Clean →
      connection.writes = reception.writes server.postgres →
      Alone start process drawn connection after → post (.ok ()) session after) :
    Session.flush.ends (server.perform process) post
      { shipments :=
          [{ loaded := reception.row
             assigned := some (ShipmentMapper.toModel reception.after) }]
        newOutboxEvents :=
          [SQLAlchemyOutboxRepository.model reception.message reception.enqueuedAt] }
      world := by
  have event : (reception.eventRow server.postgres).eventId = reception.event.eventId := rfl
  apply Computation.ends_bind
  apply Computation.ends_read
  apply Computation.ends_bind
  apply Computation.ends_forEach_nil
  apply Computation.ends_bind
  apply Computation.ends_bind
  apply Computation.ends_read
  apply Computation.ends_bind
  apply Computation.ends_forEach_cons
  refine ends_insertOutbox faultless alone ?_ ?_ ?_ ?_
  · rw [inserted]
    exact idle.unissued _ unused
  · rw [inserted]
    exact idle.unannounced unrecorded
  · rw [inserted]
    simp only [Database.writeAll_cons, Database.writeAll_nil, Database.event_insertEvent]
    rw [event]
    simp [SQLAlchemyOutboxRepository.model, Reception.message]
  intro announced sent
  apply Computation.ends_forEach_nil
  apply Computation.ends_modify
  apply Computation.ends_bind
  apply Computation.ends_forEach_cons
  have close : ∀ {reached : World} {connection : Connection},
      connection.writes = reception.writes server.postgres →
      Alone start process drawn connection reached →
      (Interaction.Computation.forEach Session.updateShipment []).ends (server.perform process)
        (Contract.Post.on
          (fun _ => (do
            Session.flushNewShipments
            Session.flushNewEvents
            Interaction.Computation.modify fun session : Session =>
              { session with
                shipments := []
                outboxEvents := session.outboxEvents.map Tracked.flushed } : Py Unit).ends
            (server.perform process) post)
          (fun error => post (.error error)))
        { shipments :=
            [{ loaded := reception.row
               assigned := some (ShipmentMapper.toModel reception.after) }]
          outboxEvents :=
            [{ loaded :=
                SQLAlchemyOutboxRepository.model reception.message reception.enqueuedAt }] }
        reached := by
    intro reached connection written alone
    apply Computation.ends_forEach_nil
    apply Computation.ends_bind
    apply ends_flushNewShipments_nil rfl
    apply Computation.ends_bind
    apply ends_flushNewEvents_nil rfl
    apply Computation.ends_modify
    refine established _ _ _ ⟨rfl, ?_, rfl, rfl, rfl⟩ written alone
    simp [Tracked.flushed]
  have announcedWrites : (connection.append (.insertOutbox (server.postgres.outboxRow
      (SQLAlchemyOutboxRepository.model reception.message reception.enqueuedAt)))).writes =
      [.insertEvent (reception.eventRow server.postgres),
        .insertOutbox (reception.outboxRow server.postgres)] := by
    rw [Connection.append, inserted]
    rfl
  by_cases unchanged : reception.patch = {}
  · have silent : Session.updateShipment
        { loaded := reception.row, assigned := some (ShipmentMapper.toModel reception.after) } =
        pure () := by
      rw [← unmoved]
      exact if_pos unchanged
    rw [silent]
    apply Computation.ends_pure
    refine close ?_ sent
    rw [announcedWrites, Reception.writes, Reception.projection, if_pos unchanged,
      List.append_nil]
  · have statement : Session.updateShipment
        { loaded := reception.row, assigned := some (ShipmentMapper.toModel reception.after) } =
        call (.updateShipment reception.row.id reception.patch) := by
      rw [← unmoved]
      exact if_neg unchanged
    rw [statement]
    refine ends_updateShipment faultless sent ?_ ?_
    · rw [announcedWrites]
      simp [found]
    · intro updated projected
      refine close ?_ projected
      rw [Connection.append, announcedWrites, Reception.writes, Reception.projection,
        if_neg unchanged]

/-- The ingestion worker's `handle_event` alone. -/
theorem ends_handleEvent (faultless : server.Faultless)
    (idle : Idle process start) :
    (handleEvent correlationId event).ends (server.perform process)
      (fun outcome _ after =>
        (ReceiveShipmentEvent.verdict server.postgres start.database event).Ended server start
          process correlationId event id (fun _ => ()) outcome after)
      {} start := by
  apply ends_transaction faultless
  apply Computation.ends_bind
  refine Computation.ends_mono (ends_execute faultless idle idle.alone) ?_
  intro outcome session world pending
  cases verdict : ReceiveShipmentEvent.verdict server.postgres start.database event with
  | rejected error =>
      rw [verdict] at pending
      obtain ⟨rfl, drawn, connection, alone⟩ := pending
      exact ⟨drawn, connection, alone, fun _ _ closed => ⟨rfl, closed⟩⟩
  | known row =>
      rw [verdict] at pending
      obtain ⟨rfl, rfl, drawn, connection, clean, alone⟩ := pending
      apply Computation.ends_pure
      refine ends_flush_clean ⟨by simp, by simp, rfl, rfl, rfl⟩ ?_
      exact ⟨drawn, connection, alone, fun _ _ closed => ⟨rfl, connection, clean, closed⟩⟩
  | recorded row status after =>
      rw [verdict] at pending
      obtain ⟨rfl, drawn, connection, messageId, enqueuedAt, rfl, inserted, unused, same,
        unrecorded, found, house, alone⟩ := pending
      apply Computation.ends_pure
      refine ends_flush_recorded faultless idle
        (Verdict.reception start correlationId event row status after messageId enqueuedAt)
        rfl inserted unused unrecorded (by rw [← house] at found; exact found) alone ?_
      intro flushed reached final _ written closing
      exact ⟨drawn, final, closing, fun _ _ closed =>
        ⟨rfl, final, messageId, enqueuedAt, written, closed⟩⟩

/-- The status that the route turns a rejection into. -/
def refusal (error : PyError) : PyError :=
  match error with
  | .valueError _ _ => .httpException 404 error.str
  | .invalidStateTransition _ _ => .httpException 409 error.str
  | .invalidShipmentEvent _ => .httpException 422 error.str
  | _ => error

theorem recoverEvent_eq_raise {error : PyError}
    (other : ∀ constraintName text, error ≠ .integrityError constraintName text) :
    recoverEvent event error = Interaction.Computation.raise (refusal error) := by
  cases error with
  | integrityError constraintName text => exact absurd rfl (other constraintName text)
  | _ => rfl

/-- A verdict on an event with a string for a source meets no integrity error. -/
theorem ReceiveShipmentEvent.verdict_rejected {postgres : Postgres} {database : Database}
    {error : PyError} (source : postgres.varchar event.source ≠ .null)
    (rejected : ReceiveShipmentEvent.verdict postgres database event = .rejected error) :
    ∀ constraintName text, error ≠ .integrityError constraintName text := by
  unfold ReceiveShipmentEvent.verdict at rejected
  split at rejected
  · cases rejected
    exact fun _ _ equality => by cases equality
  split at rejected
  · cases rejected
    exact fun _ _ equality => by cases equality
  split at rejected
  · cases rejected
  split at rejected
  · rename_i handled
    cases rejected
    exact (ShipmentEventHandler.handle_error handled).2
  split at rejected
  · cases rejected
    exact fun _ _ equality => by cases equality
  · cases rejected

/-- `POST /events` alone: some `received_at` in UTC, and the verdict on the event
with it. -/
theorem ends_receiveEvent {reported : ShipmentEventRequest} (faultless : server.Faultless)
    (idle : Idle process start) :
    (receiveEvent correlationId reported).ends (server.perform process)
      (fun outcome _ after => ∃ receivedAt : DateTime, receivedAt.utcoffset = some 0 ∧
        (ReceiveShipmentEvent.verdict server.postgres start.database
          (reported.event receivedAt)).Ended server start process correlationId
            (reported.event receivedAt) refusal id outcome after)
      {} start := by
  apply ends_transaction faultless
  apply Computation.ends_bind
  refine ends_now faultless ?_
  intro receivedAt utc
  apply Computation.ends_bind
  apply Computation.ends_tryExcept
  apply Computation.ends_bind
  refine Computation.ends_mono (ends_execute faultless idle idle.alone) ?_
  intro outcome session world pending
  cases verdict : ReceiveShipmentEvent.verdict server.postgres start.database
      (reported.event receivedAt) with
  | rejected error =>
      rw [verdict] at pending
      obtain ⟨rfl, drawn, connection, alone⟩ := pending
      have source : server.postgres.varchar (reported.event receivedAt).source ≠ .null := by
        simp [ShipmentEventRequest.event, server.postgres.varchar_str]
      simp only [Contract.Post.on,
        recoverEvent_eq_raise (ReceiveShipmentEvent.verdict_rejected source verdict)]
      apply Computation.ends_raise
      exact ⟨drawn, connection, alone, fun _ _ closed =>
        ⟨receivedAt, utc, by rw [verdict]; exact ⟨rfl, closed⟩⟩⟩
  | known row =>
      rw [verdict] at pending
      obtain ⟨rfl, rfl, drawn, connection, clean, alone⟩ := pending
      apply Computation.ends_bind
      refine ends_flush_clean ⟨by simp, by simp, rfl, rfl, rfl⟩ ?_
      apply Computation.ends_pure
      apply Computation.ends_bind
      refine ends_respond faultless alone ?_
      intro answered responded
      apply Computation.ends_pure
      refine ends_flush_clean ⟨by simp, by simp, rfl, rfl, rfl⟩ ?_
      refine ⟨drawn, _, responded, fun _ _ closed => ⟨receivedAt, utc, ?_⟩⟩
      rw [verdict]
      refine ⟨rfl, _, ?_, closed⟩
      exact clean
  | recorded row status after =>
      rw [verdict] at pending
      obtain ⟨rfl, drawn, connection, messageId, enqueuedAt, rfl, inserted, unused, same,
        unrecorded, found, house, alone⟩ := pending
      apply Computation.ends_bind
      refine ends_flush_recorded faultless idle
        (Verdict.reception start correlationId (reported.event receivedAt) row status after
          messageId enqueuedAt)
        rfl inserted unused unrecorded (by rw [← house] at found; exact found) alone ?_
      intro flushed reached final clean written closing
      apply Computation.ends_pure
      apply Computation.ends_bind
      refine ends_respond faultless closing ?_
      intro answered responded
      apply Computation.ends_pure
      refine ends_flush_clean clean ?_
      refine ⟨drawn, _, responded, fun _ _ closed => ⟨receivedAt, utc, ?_⟩⟩
      rw [verdict]
      refine ⟨rfl, _, messageId, enqueuedAt, ?_, closed⟩
      exact written

end Rules

end Freight
