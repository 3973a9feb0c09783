/-
Module: Freight.Store.Receiving
Purpose: The specification of the reception of one event, over HTTP and by the
  worker: what it has read and written when it returns, and what an integrity
  error says when it raises one.
Trusted boundary: none
Main exports:
  Reception.Sound, Received, Collision, Refused, holds_receive,
  holds_flush_received, holds_handleEvent, holds_receiveEvent
-/
import Freight.Store.Entries
import Freight.Store.Repositories

namespace Freight

open Interaction (ProcessId Contract)

section Definitions

variable (server : Server) (base : Database) (quiet : Prop) (requests : ProcessId → Request)
  (process : ProcessId) (start : List Transaction)

/-- A projection that was read at a point of the log. -/
def ReadAt (lsn : Nat) (shipmentId : UUID) (row : ShipmentModel)
    (wal : List Transaction) : Prop :=
  lsn ≤ wal.length ∧ (replay base (wal.take lsn)).shipment shipmentId = some row

/-- A recorded event that was found at a point of the log. -/
def FoundAt (lsn : Nat) (eventId : UUID) (event : ShipmentEventModel)
    (wal : List Transaction) : Prop :=
  lsn ≤ wal.length ∧ (replay base (wal.take lsn)).event eventId = some event

/-- An event that was looked for in vain at a point of the log. -/
def AbsentAt (lsn : Nat) (eventId : UUID) (wal : List Transaction) : Prop :=
  lsn ≤ wal.length ∧ (replay base (wal.take lsn)).event eventId = none

/-- What a reception knows of its own values. -/
structure Reception.Sound (reception : Reception) : Prop where
  reports : (requests process).Reports reception.correlationId reception.event
  current : quiet → reception.lsn = start.length
  saved : reception.lsn ≤ reception.saveLsn
  identity : reception.loaded.identity = reception.row.identity
  handled : ShipmentEventHandler.handle (ShipmentMapper.toDomain reception.row)
    reception.event = (.ok reception.status, reception.after)
  payload : reception.event.payload.plain.isDict = true

/-- The two projections that a reception reads: the one that it handles, and the one
that it loads to be saved over. -/
def Reception.HasRead (reception : Reception) (wal : List Transaction) : Prop :=
  ReadAt base reception.lsn reception.event.shipmentId reception.row wal ∧
    ReadAt base reception.saveLsn reception.event.shipmentId reception.loaded wal

/-- What a reception may assert while its transaction is open. -/
def Recording (reception : Reception) (world : World) : Prop :=
  (Untouched quiet process start world.wal ∧ reception.HasRead base world.wal) ∧
    (process, reception.messageId) ∈ world.uuids ∧
      (process, .eventKey reception.event.eventId) ∈ world.locks

/-- The two ways in which `ReceiveShipmentEvent.execute` returns: the event was
known, or it has been inserted and the rest is pending in the session. -/
inductive Received (event : ShipmentEvent) : Shipment → Session → World → Prop where
  | known {existsLsn lsn : Nat} {row : ShipmentModel} {record : ShipmentEventModel}
      {world : World} (ordered : lsn ≤ existsLsn)
      (mine : Mine process
        { reads := [.event existsLsn true, .shipment lsn (some row)] }
        (fun world => (Untouched quiet process start world.wal ∧
            ReadAt base lsn event.shipmentId row world.wal) ∧
          FoundAt base existsLsn event.eventId record world.wal) world) :
      Received event (ShipmentMapper.toDomain row) {} world
  | recorded (reception : Reception) {world : World} (same : reception.event = event)
      (sound : reception.Sound quiet requests process start)
      (mine : Mine process
        { writes := [.insertEvent (reception.eventRow server.postgres)]
          reads := reception.reads }
        (Recording base quiet process start reception) world) :
      Received event reception.after
        { shipments :=
            [{ loaded := reception.loaded
               assigned := some (ShipmentMapper.toModel reception.after) }]
          newOutboxEvents :=
            [SQLAlchemyOutboxRepository.model reception.message reception.enqueuedAt] }
        world

/-- What an integrity error says about a reported event: its source is null, it
has been recorded by another transaction, or the tables were inconsistent from
the start. -/
inductive Collision (event : ShipmentEvent) (reads : List Read) (wal : List Transaction) :
    Option String → Prop where
  | nullSource (null : server.postgres.varchar event.source = .null) :
      Collision event reads wal none
  | duplicate {saveLsn existsLsn lsn : Nat} {loaded before : Option ShipmentModel}
      (read : reads =
        [.shipment saveLsn loaded, .event existsLsn false, .shipment lsn before])
      (absent : AbsentAt base existsLsn event.eventId wal)
      (record : ∃ row, (replay base wal).event event.eventId = some row)
      (shipped : ((replay base wal).shipment event.shipmentId).isSome) :
      Collision event reads wal (some "shipment_events_pkey")
  | inconsistent {constraint : String} (other : constraint ≠ "shipment_events_pkey")
      (missing : ¬ base.References) :
      Collision event reads wal (some constraint)

/-- The event has been recorded by another transaction since it was looked for. -/
def Duplicated (event : ShipmentEvent) (reads : List Read) (wal : List Transaction) : Prop :=
  (∃ saveLsn loaded existsLsn lsn before,
      reads = [.shipment saveLsn loaded, .event existsLsn false, .shipment lsn before] ∧
        AbsentAt base existsLsn event.eventId wal) ∧
    (∃ row, (replay base wal).event event.eventId = some row) ∧
      ((replay base wal).shipment event.shipmentId).isSome

/-- How a reception ends, once flushed: ready to answer and to commit. -/
inductive Stored (event : ShipmentEvent) (shipment : Shipment) (session : Session)
    (world : World) : Prop where
  | intro (connection : Connection) (assertion : World → Prop)
      (lasting : Lasting base quiet process assertion)
      (mine : Mine process connection assertion world)
      (untouched : ∀ reached, assertion reached → Untouched quiet process start reached.wal)
      (clean : session.Clean)
      (effect : ∀ response reached, assertion reached →
        reached.connection process = { connection with response := response } →
        Invariant server base quiet requests reached →
        Effect server base quiet reached.wal (requests process)
          { toConnection := { connection with response := response }, process := process })
      (answers : server.Honest → ∀ reported : ShipmentEventRequest,
        event.eventId = reported.eventId → event.shipmentId = reported.shipmentId →
        ∀ reached, assertion reached →
          Answered base reached.wal reported connection.reads shipment)
      (recorded : (∀ correlationId reported,
          requests process ≠ .receiveEvent correlationId reported) →
        ∀ response reached, assertion reached → ∃ row,
          (replay base (reached.wal ++
            [{ toConnection := { connection with response := response }
               process := process }])).event event.eventId = some row)

/-- How a reception raises: nothing is committed, published or answered, and an
integrity error is one of the collisions. -/
inductive Refused (event : ShipmentEvent) (error : PyError) (world : World) : Prop where
  | intro (connection : Connection) (assertion : World → Prop)
      (lasting : Lasting base quiet process assertion)
      (mine : Mine process connection assertion world)
      (untouched : ∀ reached, assertion reached → Untouched quiet process start reached.wal)
      (published : connection.published = [])
      (silent : connection.response = none)
      (collision : server.Honest → ∀ constraintName text,
        error = .integrityError constraintName text →
          Collision server base event connection.reads world.wal constraintName)

/-- An exception that is not the integrity error of a duplicate, when those say
what they seem to. -/
def NoDuplicate (error : PyError) : Prop :=
  server.Honest → base.References → ∀ constraintName text,
    error ≠ .integrityError constraintName text

end Definitions

section Archives

variable {server : Server} {base : Database} {quiet : Prop} {requests : ProcessId → Request}
  {process : ProcessId} {start : List Transaction}

theorem ReadAt.archival {lsn : Nat} {shipmentId : UUID} {row : ShipmentModel} :
    Archival quiet process (ReadAt base lsn shipmentId row) :=
  Archival.at lsn fun database => database.shipment shipmentId = some row

theorem FoundAt.archival {lsn : Nat} {eventId : UUID} {event : ShipmentEventModel} :
    Archival quiet process (FoundAt base lsn eventId event) :=
  Archival.at lsn fun database => database.event eventId = some event

theorem AbsentAt.archival {lsn : Nat} {eventId : UUID} :
    Archival quiet process (AbsentAt base lsn eventId) :=
  Archival.at lsn fun database => database.event eventId = none

/-- A projection that has just been read. -/
theorem ReadAt.now {shipmentId : UUID} {row : ShipmentModel} {wal : List Transaction}
    (found : (replay base wal).shipment shipmentId = some row) :
    ReadAt base wal.length shipmentId row wal :=
  ⟨Nat.le_refl _, by rwa [List.take_length]⟩

theorem FoundAt.now {eventId : UUID} {event : ShipmentEventModel} {wal : List Transaction}
    (found : (replay base wal).event eventId = some event) :
    FoundAt base wal.length eventId event wal :=
  ⟨Nat.le_refl _, by rwa [List.take_length]⟩

theorem AbsentAt.now {eventId : UUID} {wal : List Transaction}
    (missing : (replay base wal).event eventId = none) :
    AbsentAt base wal.length eventId wal :=
  ⟨Nat.le_refl _, by rwa [List.take_length]⟩

theorem Duplicated.archival {event : ShipmentEvent} {reads : List Read} :
    Archival quiet process (Duplicated base event reads) := by
  rintro wal more others still
    ⟨⟨saveLsn, loaded, existsLsn, lsn, before, read, absent⟩, recorded, shipped⟩
  exact ⟨⟨saveLsn, loaded, existsLsn, lsn, before, read,
      AbsentAt.archival wal more others still absent⟩,
    Archival.recorded _ wal more others still recorded,
    Archival.shipped _ wal more others still shipped⟩

/-- The shipment that was read is still there. -/
theorem ReadAt.shipped {lsn : Nat} {shipmentId : UUID} {row : ShipmentModel}
    {wal : List Transaction} (read : ReadAt base lsn shipmentId row wal) :
    ((replay base wal).shipment shipmentId).isSome :=
  replay_shipment_of_take (by rw [read.2]; rfl)

theorem Reception.HasRead.archival (reception : Reception) :
    Archival quiet process (reception.HasRead base) :=
  ReadAt.archival.and ReadAt.archival

theorem Recording.lasting (reception : Reception) :
    Lasting base quiet process (Recording base quiet process start reception) :=
  ((Untouched.archival.and (Reception.HasRead.archival reception)).lasting).and
    ((Lasting.uuid _).and (Lasting.lock _))

theorem Request.Reports.isReception {request : Request} {correlationId : Option String}
    {event : ShipmentEvent} (reports : request.Reports correlationId event) :
    request.isReception = true := by
  cases request <;> first | rfl | cases reports

/-- An exception of the environment's own refuses a reception. -/
theorem Refused.of_fault {event : ShipmentEvent} {error : PyError} {connection : Connection}
    {assertion : World → Prop} {world : World} (faults : server.faults error = true)
    (lasting : Lasting base quiet process assertion)
    (mine : Mine process connection assertion world)
    (untouched : ∀ reached, assertion reached → Untouched quiet process start reached.wal)
    (published : connection.published = []) (silent : connection.response = none) :
    Refused server base quiet process start event error world := by
  refine .intro connection assertion lasting mine untouched published silent ?_
  rintro honest constraintName text rfl
  rw [honest] at faults
  cases faults

/-- So does an exception that is no integrity error. -/
theorem Refused.of_ne {event : ShipmentEvent} {error : PyError} {connection : Connection}
    {assertion : World → Prop} {world : World}
    (other : ∀ constraintName text, error ≠ .integrityError constraintName text)
    (lasting : Lasting base quiet process assertion)
    (mine : Mine process connection assertion world)
    (untouched : ∀ reached, assertion reached → Untouched quiet process start reached.wal)
    (published : connection.published = []) (silent : connection.response = none) :
    Refused server base quiet process start event error world :=
  .intro connection assertion lasting mine untouched published silent
    fun _ constraintName text equality => absurd equality (other constraintName text)

end Archives

section Rules

variable {server : Server} {base : Database} {quiet : Prop} {requests : ProcessId → Request}
  {process : ProcessId} {start : List Transaction} {connection : Connection} {world : World}
  {assertion : World → Prop} {session : Session}

/-- From an accepted event to its insert: what follows the handler. -/
theorem holds_record (reception : Reception)
    (reports : (requests process).Reports reception.correlationId reception.event)
    (current : quiet → reception.lsn = start.length)
    (handled : ShipmentEventHandler.handle (ShipmentMapper.toDomain reception.row)
      reception.event = (.ok reception.status, reception.after))
    (mine : Mine process
      { reads := [.event reception.existsLsn false,
          .shipment reception.lsn (some reception.row)] }
      (fun world => Untouched quiet process start world.wal ∧
        ReadAt base reception.lsn reception.event.shipmentId reception.row world.wal ∧
        AbsentAt base reception.existsLsn reception.event.eventId world.wal)
      world) :
    (storeContract server base quiet requests process).holds
      (do
        SQLAlchemyShipmentEventRepository.save reception.recorded
        SQLAlchemyShipmentRepository.save reception.after
        let message ← RecordedEventMessage.record reception.recorded reception.correlationId
        SQLAlchemyOutboxRepository.add message
        pure reception.after : Py Shipment)
      (Contract.Post.on
        (fun shipment =>
          Received server base quiet requests process start reception.event shipment)
        (fun error _ => Refused server base quiet process start reception.event error))
      {} world := by
  have lasting : Lasting base quiet process fun world =>
      Untouched quiet process start world.wal ∧
        ReadAt base reception.lsn reception.event.shipmentId reception.row world.wal ∧
        AbsentAt base reception.existsLsn reception.event.eventId world.wal :=
    (Untouched.archival.and (ReadAt.archival.and AbsentAt.archival)).lasting
  have same : reception.after.id = reception.event.shipmentId :=
    (ShipmentEventHandler.handle_id handled).trans
      (ShipmentEventHandler.handle_cases handled).1.symm
  have refused : ∀ {assertion : World → Prop} {connection : Connection} error after,
      server.faults error = true → Lasting base quiet process assertion →
      Mine process (connection.raise error) assertion after →
      (∀ reached, assertion reached → Untouched quiet process start reached.wal) →
      connection.published = [] → connection.response = none →
      Refused server base quiet process start reception.event error after :=
    fun error after faults lasting held untouched published silent =>
      Refused.of_fault faults lasting held untouched published silent
  apply Contract.holds_bind
  refine holds_saveEvent lasting mine ?_ ?_
  swap
  · exact fun error after faults held =>
      refused error after faults lasting held (fun _ holds => holds.1) rfl rfl
  intro saved held
  -- the row of the shipment is selected a second time
  apply Contract.holds_bind
  refine holds_saveShipment_present rfl lasting held rfl rfl ?_ ?_ ?_
  · intro reached holds
    rw [same]
    exact holds.2.1.shipped
  swap
  · exact fun error after faults held =>
      refused error after faults lasting held (fun _ holds => holds.1) rfl rfl
  intro loaded selected kept there held
  rw [same] at there
  have identity : loaded.identity = reception.row.identity := by
    refine kept.history.identity held.lasts.2.1.1 held.lasts.2.1.2 ?_
    rw [List.take_length]
    exact there
  have reading : Lasting base quiet process fun world =>
      (Untouched quiet process start world.wal ∧
        ({ reception with saveLsn := selected.wal.length, loaded } : Reception).HasRead base
          world.wal) ∧
        AbsentAt base reception.existsLsn reception.event.eventId world.wal :=
    ((Untouched.archival.and (Reception.HasRead.archival _)).and AbsentAt.archival).lasting
  have ordered : reception.lsn ≤ selected.wal.length := held.lasts.2.1.1
  have held : Mine process _ (fun world => (Untouched quiet process start world.wal ∧
        ({ reception with saveLsn := selected.wal.length, loaded } : Reception).HasRead base
          world.wal) ∧
        AbsentAt base reception.existsLsn reception.event.eventId world.wal) selected :=
    held.weaken fun holds => ⟨⟨holds.1, holds.2.1, ReadAt.now there⟩, holds.2.2⟩
  apply Contract.holds_bind
  refine holds_recordMessage reading held ?_ ?_ ?_
  rotate_left
  · intro after held
    refine Refused.of_ne ?_ reading held (fun _ holds => holds.1.1) rfl rfl
    intro constraintName text equality
    cases equality
  · exact fun error after faults held =>
      refused error after faults reading held (fun _ holds => holds.1.1) rfl rfl
  intro messageId drawn payload held
  have drawing := reading.and (Lasting.uuid messageId)
  -- the event is inserted before its outbox row is added
  apply Contract.holds_bind
  apply Contract.holds_bind
  apply holds_flushNewShipments_nil rfl
  apply Contract.holds_bind
  refine holds_flushNewEvents_single rfl (holds_insertEvent drawing held ?_ ?_ ?_)
  · exact fun _ before holds => holds.1.1.2.1.shipped
  · intro flushed held
    apply Contract.holds_bind
    have inserting := drawing.and (Lasting.lock (.eventKey reception.event.eventId))
    refine holds_now inserting held ?_ ?_
    · intro enqueuedAt reached _ held
      apply Contract.holds_modify
      apply Contract.holds_pure
      exact .recorded
        { reception with saveLsn := selected.wal.length, loaded, messageId, enqueuedAt } rfl
        ⟨reports, current, ordered, identity, handled, payload⟩
        (held.weaken fun holds => ⟨holds.1.1.1, holds.1.2, holds.2⟩)
    · exact fun error after faults held =>
        refused error after faults inserting held (fun _ holds => holds.1.1.1.1) rfl rfl
  · intro error after refusal held
    refine .intro _ _ drawing held (fun _ holds => holds.1.1.1) rfl rfl ?_
    intro honest constraintName text equality
    cases refusal with
    | fault faults =>
        rw [equality, honest] at faults
        cases faults
    | nullSource null =>
        cases equality
        exact .nullSource null
    | duplicate recorded =>
        cases equality
        exact .duplicate rfl held.lasts.1.2 (Option.isSome_iff_exists.mp recorded)
          held.lasts.1.1.2.1.shipped
    | orphan missing =>
        have shipped := held.lasts.1.1.2.1.shipped
        rw [show ((replay base after.wal).shipment reception.event.shipmentId).isSome = false
          from missing] at shipped
        cases shipped

/-- `ReceiveShipmentEvent.execute`. -/
theorem holds_receive {correlationId : Option String} {event : ShipmentEvent}
    (reports : (requests process).Reports correlationId event)
    (mine : Mine process {} (fun world => Untouched quiet process start world.wal) world) :
    (storeContract server base quiet requests process).holds
      (ReceiveShipmentEvent.execute correlationId event)
      (Contract.Post.on
        (fun shipment => Received server base quiet requests process start event shipment)
        (fun error _ => Refused server base quiet process start event error))
      {} world := by
  have lasting : Lasting base quiet process fun world =>
      Untouched quiet process start world.wal := Untouched.archival.lasting
  unfold ReceiveShipmentEvent.execute
  split
  · apply Contract.holds_raise
    refine Refused.of_ne ?_ lasting mine (fun _ holds => holds) rfl rfl
    intro constraintName text equality
    cases equality
  apply Contract.holds_bind
  refine holds_get rfl lasting mine rfl rfl ?_ ?_ ?_
  · intro after _ held
    refine Refused.of_ne ?_ lasting held (fun _ holds => holds) rfl rfl
    intro constraintName text equality
    cases equality
  · intro row read found held
    have current : quiet → read.wal.length = start.length := by
      intro calm
      rw [held.lasts.2 calm]
    have reading : Lasting base quiet process fun world =>
        Untouched quiet process start world.wal ∧
          ReadAt base read.wal.length event.shipmentId row world.wal :=
      (Untouched.archival.and ReadAt.archival).lasting
    have held : Mine process _ (fun world => Untouched quiet process start world.wal ∧
        ReadAt base read.wal.length event.shipmentId row world.wal) read :=
      held.weaken fun untouched => ⟨untouched, ReadAt.now found⟩
    simp only [Contract.Post.on]
    apply Contract.holds_bind
    apply Contract.holds_bind
    refine holds_selectEventId reading held rfl rfl ?_ ?_
    · intro record checked seen held
      apply Contract.holds_pure
      cases record with
      | some record =>
          simp only [Contract.Post.on, Option.map_some, Option.isSome_some, if_true]
          apply Contract.holds_pure
          have ordered := held.lasts.2.1
          exact .known ordered
            (held.weaken fun holds => ⟨holds, FoundAt.now seen.symm⟩)
      | none =>
          simp only [Contract.Post.on, Option.map_none, Option.isSome_none,
            Bool.false_eq_true, if_false]
          cases handled : ShipmentEventHandler.handle (ShipmentMapper.toDomain row) event with
          | mk result after =>
              apply Contract.holds_bind
              apply Contract.holds_ofExcept
              cases result with
              | error error =>
                  exact Refused.of_ne (ShipmentEventHandler.handle_error handled).2 reading
                    held (fun _ holds => holds.1) rfl rfl
              | ok status =>
                  -- the row to be saved over, and the identifier and the time of the
                  -- outbox row, are still to come
                  exact holds_record
                    { correlationId, event, lsn := read.wal.length, row
                      existsLsn := checked.wal.length, status, after
                      saveLsn := read.wal.length, loaded := row
                      messageId := event.eventId, enqueuedAt := event.occurredAt }
                    reports current handled
                    (held.weaken fun holds => ⟨holds.1, holds.2, AbsentAt.now seen.symm⟩)
    · exact fun error after faults held =>
        Refused.of_fault faults reading held (fun _ holds => holds.1) rfl rfl
  · exact fun error after faults held =>
      Refused.of_fault faults lasting held (fun _ holds => holds) rfl rfl

/-! ## The flush -/

/-- The effect of a reception whose rows have been flushed. -/
theorem Recording.effect {reception : Reception}
    (sound : reception.Sound quiet requests process start)
    (recording : Recording base quiet process start reception world)
    {response : Option HttpResponse}
    (connected : world.connection process =
      { writes := reception.writes server.postgres
        reads := reception.reads
        response := response })
    (kept : Invariant server base quiet requests world) :
    Effect server base quiet world.wal (requests process)
      { writes := reception.writes server.postgres
        reads := reception.reads
        response := response
        process := process } := by
  have writes : world.writes process = reception.writes server.postgres :=
    congrArg Connection.writes connected
  have event : Write.insertEvent (reception.eventRow server.postgres) ∈
      world.writes process := by
    rw [writes]
    exact List.mem_cons_self
  have outbox : Write.insertOutbox (reception.outboxRow server.postgres) ∈
      world.writes process := by
    rw [writes]
    exact List.mem_cons_of_mem _ List.mem_cons_self
  obtain ⟨⟨untouched, read, reread⟩, -⟩ := recording
  refine .received reception sound.reports read.1 ?_ read.2 ⟨sound.saved, reread.1⟩ reread.2
    sound.identity sound.handled sound.payload rfl (kept.locking.backed event).2
    (kept.locking.backed outbox).2.2 rfl rfl rfl
  intro calm
  rw [untouched.2 calm, sound.current calm]

/-- A committed reception has recorded its event. -/
theorem Reception.records (reception : Reception) (database : Database)
    (postgres : Postgres) :
    ∃ row, (database.writeAll (reception.writes postgres)).event reception.event.eventId =
      some row := by
  have inserted : Write.insertEvent (reception.eventRow postgres) ∈
      reception.writes postgres := List.mem_cons_self
  exact Option.isSome_iff_exists.mp (Database.event_writeAll_of_inserted inserted)

/-- An assigned object whose columns are all unchanged is left alone. -/
theorem Session.updateShipment_unchanged {row current : ShipmentModel}
    (unchanged : ShipmentPatch.between row current = {}) :
    Session.updateShipment { loaded := row, assigned := some current } = pure () :=
  if_pos unchanged

theorem Session.updateShipment_changed {row current : ShipmentModel}
    (changed : ShipmentPatch.between row current ≠ {}) :
    Session.updateShipment { loaded := row, assigned := some current } =
      call (.updateShipment row.id (ShipmentPatch.between row current)) :=
  if_neg changed

/-- The update of a loaded and assigned projection. -/
theorem holds_updateShipment_single {row current : ShipmentModel} {id : UUID}
    {post : Contract.Post PyError Session World Unit} (own : row.id = id)
    (lasting : Lasting base quiet process assertion)
    (mine : Mine process connection assertion world)
    (returned : ∀ after,
      Mine process
        { connection with
          writes := connection.writes ++
            (if ShipmentPatch.between row current = {} then []
             else [.updateShipment id
              (server.postgres.shipmentPatch (ShipmentPatch.between row current))]) }
        assertion after → post (.ok ()) session after)
    (raised : ∀ error after,
      (server.faults error = true ∨ ∃ name text, error = .exception name text) →
      Mine process (connection.raise error) assertion after →
        post (.error error) session after) :
    (storeContract server base quiet requests process).holds
      (Interaction.Computation.forEach Session.updateShipment
        [{ loaded := row, assigned := some current }]) post session world := by
  subst own
  apply Contract.holds_forEach_cons
  by_cases unchanged : ShipmentPatch.between row current = {}
  · rw [Session.updateShipment_unchanged unchanged]
    apply Contract.holds_pure
    apply Contract.holds_forEach_nil
    refine returned world ?_
    simpa [unchanged] using mine
  · rw [Session.updateShipment_changed unchanged]
    refine holds_updateShipment lasting mine ?_ raised
    intro after held
    apply Contract.holds_forEach_nil
    refine returned after ?_
    simpa [unchanged, Connection.append] using held

/-- Flushing what a reception has left pending. -/
theorem holds_flush_received {event : ShipmentEvent} {shipment : Shipment}
    (received : Received server base quiet requests process start event shipment session
      world)
    (receiving : (requests process).isReception = true) :
    (storeContract server base quiet requests process).holds Session.flush
      (Contract.Post.on
        (fun _ => Stored server base quiet requests process start event shipment)
        (fun error _ => Refused server base quiet process start event error))
      session world := by
  cases received with
  | @known existsLsn lsn row record _ ordered mine =>
      have lasting : Lasting base quiet process fun world =>
          (Untouched quiet process start world.wal ∧
            ReadAt base lsn event.shipmentId row world.wal) ∧
          FoundAt base existsLsn event.eventId record world.wal :=
        ((Untouched.archival.and ReadAt.archival).and FoundAt.archival).lasting
      have clean : ({} : Session).Clean := ⟨rfl, by simp, rfl, rfl, rfl⟩
      apply holds_flush_clean clean
      refine .intro _ _ lasting mine (fun _ holds => holds.1.1) clean ?_ ?_ ?_
      · exact fun _ _ _ _ _ => .nothing rfl rfl
      · rintro _ reported sameEvent sameShipment reached ⟨⟨-, read⟩, found⟩
        rw [sameShipment] at read
        rw [sameEvent] at found
        exact .known ordered found.1 read.2 found.2
      · rintro _ response reached ⟨-, found⟩
        refine ⟨record, ?_⟩
        rw [replay_append]
        exact replay_event_of_some (replay_event_of_take found.2)
  | recorded reception same sound mine =>
      subst same
      have lasting : Lasting base quiet process
          (Recording base quiet process start reception) := Recording.lasting reception
      have refused : ∀ {connection : Connection} error after,
          (server.faults error = true ∨ ∃ name text, error = .exception name text) →
          Mine process (connection.raise error) (Recording base quiet process start reception)
            after →
          connection.published = [] → connection.response = none →
          Refused server base quiet process start reception.event error after := by
        intro connection error after cause held published silent
        rcases cause with faults | ⟨name, text, rfl⟩
        · exact Refused.of_fault faults lasting held (fun _ holds => holds.1.1) published
            silent
        · refine Refused.of_ne ?_ lasting held (fun _ holds => holds.1.1) published silent
          intro constraintName text equality
          cases equality
      apply Contract.holds_bind
      apply Contract.holds_read
      apply Contract.holds_bind
      apply Contract.holds_forEach_nil
      apply Contract.holds_bind
      refine holds_flushNewOutboxEvents_single rfl
        (holds_insertOutbox lasting mine (fun _ holds => holds.2.1)
          (fun _ holds => holds.1.1.1) (fun _ holds => holds.2.2) List.mem_cons_self rfl
          (by simp) ?_ ?_)
      · intro inserted held
        apply Contract.holds_bind
        refine holds_updateShipment_single (congrArg Prod.fst sound.identity) lasting held
          ?_ ?_
        · intro updated held
          apply Contract.holds_bind
          apply holds_flushNewShipments_nil rfl
          apply Contract.holds_bind
          apply holds_flushNewEvents_nil rfl
          apply Contract.holds_modify
          refine .intro _ _ lasting held (fun _ holds => holds.1.1)
            ⟨rfl, ?_, rfl, rfl, rfl⟩ ?_ ?_ ?_
          · simp [Tracked.flushed]
          · exact fun response reached recording connected kept =>
              recording.effect sound connected kept
          · exact fun _ _ _ _ _ _ => .recorded
          · intro _ response reached _
            rw [replay_snoc]
            exact reception.records _ _
        · exact fun error after cause held => refused error after cause held rfl rfl
      · intro error after refusal refusable held
        refine .intro _ _ lasting held (fun _ holds => holds.1.1) rfl rfl ?_
        intro honest constraintName text equality
        cases refusal with
        | fault faults =>
            rw [equality, honest] at faults
            cases faults
        | @constraint constraint other =>
            cases equality
            refine .inconsistent other fun references => ?_
            rcases refusable receiving references constraint _ rfl with faults | same
            · rw [violation, honest] at faults
              cases faults
            · exact other same

/-! ## The owners of the transaction -/

theorem NoDuplicate.of_fault {error : PyError} (faults : server.faults error = true) :
    NoDuplicate server base error := by
  rintro honest - constraintName text rfl
  rw [honest] at faults
  cases faults

theorem NoDuplicate.of_ne {error : PyError}
    (other : ∀ constraintName text, error ≠ .integrityError constraintName text) :
    NoDuplicate server base error :=
  fun _ _ => other

theorem Refused.abandoned {event : ShipmentEvent} {error : PyError}
    (refused : Refused server base quiet process start event error world) :
    Abandoned base quiet process start world := by
  obtain ⟨connection, assertion, lasting, mine, untouched, -, -, -⟩ := refused
  exact ⟨connection, assertion, lasting, mine, untouched⟩

/-- Without an answer of its own, a stored reception is ready to commit. -/
theorem Stored.ready {event : ShipmentEvent} {shipment : Shipment}
    {answered : List Transaction → Prop}
    (stored : Stored server base quiet requests process start event shipment session world)
    (answers : ∀ wal row, (replay base wal).event event.eventId = some row → answered wal)
    (worker : ∀ correlationId reported,
      requests process ≠ .receiveEvent correlationId reported) :
    Ready server base quiet requests process start answered world := by
  obtain ⟨connection, assertion, lasting, mine, untouched, clean, effect, -, recorded⟩ := stored
  refine .intro connection assertion lasting mine untouched ?_ ?_
  · exact fun reached held kept =>
      effect connection.response reached held.lasts held.connection kept
  · intro reached holds
    obtain ⟨row, found⟩ := recorded worker connection.response reached holds
    exact answers _ row found

/-- The answer after a collision: the projection as it is once another
transaction has recorded the event. -/
theorem holds_reload {correlationId : Option String} {reported : ShipmentEventRequest}
    {event : ShipmentEvent} {error : PyError} {archive : List Transaction → Prop}
    (requested : requests process = .receiveEvent correlationId reported)
    (archival : Archival quiet process archive)
    (untouched : ∀ wal, archive wal → Untouched quiet process start wal)
    (collided : ∀ wal, archive wal → server.Honest →
      Duplicated base event connection.reads wal)
    (published : connection.published = []) (silent : connection.response = none)
    (clean : session = {})
    (mine : Mine process connection.ended (fun world => archive world.wal) world) :
    (storeContract server base quiet requests process).holds
      (do
        match ← ReceiveShipmentEvent.getCurrentShipment event.shipmentId with
        | none => Interaction.Computation.raise error
        | some shipment => pure shipment : Py Shipment)
      (Contract.Post.on
        (fun shipment => Stored server base quiet requests process start event shipment)
        (fun error _ last => NoDuplicate server base error ∧
          Abandoned base quiet process start last))
      session world := by
  subst clean
  apply Contract.holds_bind
  refine holds_get rfl archival.lasting mine rfl silent ?_ ?_ ?_
  · intro after missing held
    apply Contract.holds_raise
    refine ⟨?_, .intro _ _ archival.lasting held fun reached => untouched reached.wal⟩
    intro honest
    have shipped := (collided after.wal held.lasts honest).2.2
    rw [missing] at shipped
    cases shipped
  · intro row after found held
    apply Contract.holds_pure
    have recording : Archival quiet process fun wal => server.Honest →
        ∃ record, FoundAt base after.wal.length event.eventId record wal := by
      intro wal more others still holds honest
      obtain ⟨record, recorded⟩ := holds honest
      exact ⟨record, FoundAt.archival wal more others still recorded⟩
    have reading : Lasting base quiet process fun world =>
        archive world.wal ∧ ReadAt base after.wal.length event.shipmentId row world.wal ∧
          (server.Honest → ∃ record,
            FoundAt base after.wal.length event.eventId record world.wal) :=
      (archival.and (ReadAt.archival.and recording)).lasting
    refine .intro _ _ reading (held.weaken fun holds => ⟨holds, ReadAt.now found, ?_⟩)
      (fun reached holds => untouched reached.wal holds.1)
      ⟨rfl, by simp, rfl, rfl, rfl⟩ ?_ ?_ ?_
    · intro honest
      obtain ⟨record, recorded⟩ := (collided after.wal holds honest).2.1
      exact ⟨record, FoundAt.now recorded⟩
    · exact fun _ _ _ _ _ => .nothing rfl published
    · rintro honest again sameEvent sameShipment reached ⟨archived, read, recorded⟩
      obtain ⟨record, recorded⟩ := recorded honest
      obtain ⟨saveLsn, loaded, existsLsn, lsn, before, reads, absent⟩ :=
        (collided reached.wal archived honest).1
      rw [sameShipment] at read
      rw [sameEvent] at recorded absent
      simp only [Connection.note, Connection.ended, reads]
      exact .recovered read.1 absent.1 absent.2 read.2 recorded.2
    · exact fun worker => absurd requested (worker _ _)
  · exact fun other after faults held =>
      ⟨.of_fault faults, .intro _ _ archival.lasting held fun reached => untouched reached.wal⟩

/-- The `except` clauses of the route. -/
theorem holds_recover {correlationId : Option String} {reported : ShipmentEventRequest}
    {event : ShipmentEvent} {error : PyError}
    (requested : requests process = .receiveEvent correlationId reported)
    (source : server.postgres.varchar event.source ≠ .null)
    (refused : Refused server base quiet process start event error world) :
    (storeContract server base quiet requests process).holds (recoverEvent event error)
      (Contract.Post.on
        (fun shipment => Stored server base quiet requests process start event shipment)
        (fun error _ last => NoDuplicate server base error ∧
          Abandoned base quiet process start last))
      session world := by
  have abandoned := refused.abandoned
  cases error with
  | integrityError constraintName text =>
      obtain ⟨connection, assertion, lasting, mine, untouched, published, silent, collision⟩ :=
        refused
      have collision := fun honest => collision honest _ _ rfl
      apply Contract.holds_bind
      by_cases duplicate : isDuplicateEventId constraintName = true
      · -- what the collision says outlives the rollback
        have archival : Archival quiet process fun wal =>
            Untouched quiet process start wal ∧
              (server.Honest → Duplicated base event connection.reads wal) :=
          Untouched.archival.and fun wal more others still holds honest =>
            Duplicated.archival wal more others still (holds honest)
        have collided : server.Honest →
            Duplicated base event connection.reads world.wal := by
          intro honest
          cases collision honest with
          | nullSource null => exact absurd null source
          | duplicate read absent record shipped =>
              exact ⟨⟨_, _, _, _, _, read, absent⟩, record, shipped⟩
          | inconsistent other =>
              simp only [isDuplicateEventId, Option.some.injEq, decide_eq_true_eq] at duplicate
              exact absurd duplicate other
        refine holds_session_rollback (fun wal => Untouched quiet process start wal ∧
            (server.Honest → Duplicated base event connection.reads wal)) archival.lasting
          ⟨mine.connection, untouched _ mine.lasts, collided⟩ (fun _ holds => holds) ?_ ?_
        · intro after ended
          simp only [Contract.Post.on, duplicate, if_true]
          exact holds_reload requested archival (fun _ holds => holds.1)
            (fun _ holds => holds.2) published silent rfl ended
        · exact fun other after faults ended => ⟨.of_fault faults,
            .intro _ _ archival.lasting ended fun _ holds => holds.1⟩
      · refine holds_session_rollback _ lasting mine untouched ?_ ?_
        · intro after ended
          simp only [Contract.Post.on, duplicate, Bool.false_eq_true, if_false]
          apply Contract.holds_raise
          refine ⟨?_, .intro _ _ Untouched.archival.lasting ended fun _ holds => holds⟩
          intro honest references
          cases collision honest with
          | nullSource null => exact absurd null source
          | duplicate => exact absurd rfl duplicate
          | inconsistent other missing => exact absurd references missing
        · exact fun other after faults ended => ⟨.of_fault faults,
            .intro _ _ Untouched.archival.lasting ended fun _ holds => holds⟩
  | _ =>
      apply Contract.holds_raise
      exact ⟨.of_ne (fun _ _ equality => by cases equality), abandoned⟩

/-- `POST /events`. -/
theorem holds_receiveEvent {correlationId : Option String} {reported : ShipmentEventRequest}
    (requested : requests process = .receiveEvent correlationId reported)
    (mine : Mine process {} (fun world => Untouched quiet process start world.wal) world) :
    (storeContract server base quiet requests process).holds
      (receiveEvent correlationId reported)
      (fun outcome _ last => Settled quiet process start (NoDuplicate server base)
        (fun _ _ => True) outcome last)
      {} world := by
  have untouched : Lasting base quiet process fun world =>
      Untouched quiet process start world.wal := Untouched.archival.lasting
  refine holds_transaction (fun _ => .of_fault) (fun _ => Archival.const True) ?_
  apply Contract.holds_bind
  refine holds_now untouched mine ?_ ?_
  swap
  · exact fun error after faults held => ⟨.of_fault faults,
      .intro _ _ untouched held fun _ holds => holds⟩
  intro receivedAt after utc held
  apply Contract.holds_bind
  apply Contract.holds_tryExcept
  have reports : (requests process).Reports correlationId (reported.event receivedAt) := by
    rw [requested]
    exact ⟨rfl, receivedAt, utc, rfl⟩
  have source : server.postgres.varchar (reported.event receivedAt).source ≠ .null := by
    simp [ShipmentEventRequest.event, server.postgres.varchar_str]
  -- a stored reception is answered, and its commit has the answer on record
  have respond : ∀ shipment session world,
      Stored server base quiet requests process start (reported.event receivedAt) shipment
        session world →
      (storeContract server base quiet requests process).holds
        (do
          call (.respond { statusCode := 200, shipment := some shipment })
          pure shipment : Py Shipment)
        (Contract.Post.on
          (fun value => (storeContract server base quiet requests process).holds Session.flush
            (Contract.Post.on
              (fun _ _ => Ready server base quiet requests process start fun _ => True)
              (fun error _ last => NoDuplicate server base error ∧
                Abandoned base quiet process start last)))
          (fun error _ last => NoDuplicate server base error ∧
            Abandoned base quiet process start last))
        session world := by
    rintro shipment session world
      ⟨connection, assertion, lasting, mine, untouched, clean, effect, answers, -⟩
    apply Contract.holds_bind
    refine holds_respond lasting mine ?_ ?_ ?_
    · intro before held honest _ again same
      rw [requested] at same
      cases same
      exact ⟨shipment, rfl, answers honest reported rfl rfl before held.lasts⟩
    · intro after held
      apply Contract.holds_pure
      apply holds_flush_clean clean
      refine .intro _ assertion lasting held untouched ?_ fun _ _ => trivial
      exact fun reached held kept => effect _ reached held.lasts held.connection kept
    · exact fun error after faults held => ⟨.of_fault faults,
        .intro _ _ lasting held untouched⟩
  apply Contract.holds_bind
  refine Contract.holds_mono (holds_receive reports held) ?_
  rintro (error | shipment) session world established
  · refine Contract.holds_mono (holds_recover requested source established) ?_
    rintro (error | shipment) session world outcome
    · exact outcome
    · exact respond shipment session world outcome
  apply Contract.holds_bind
  refine Contract.holds_mono (holds_flush_received established reports.isReception) ?_
  rintro (error | done) session world flushed
  · refine Contract.holds_mono (holds_recover requested source flushed) ?_
    rintro (error | shipment) session world outcome
    · exact outcome
    · exact respond shipment session world outcome
  · exact respond shipment session world flushed

/-- The ingestion worker's `handle_event`: when it returns, the event has been
recorded. -/
theorem holds_handleEvent {correlationId : Option String} {event : ShipmentEvent}
    (requested : requests process = .handleEvent correlationId event)
    (mine : Mine process {} (fun world => Untouched quiet process start world.wal) world) :
    (storeContract server base quiet requests process).holds
      (handleEvent correlationId event)
      (fun outcome _ last => Settled quiet process start (fun _ => True)
        (fun _ wal => ∃ row, (replay base wal).event event.eventId = some row) outcome last)
      {} world := by
  have reports : (requests process).Reports correlationId event := by
    rw [requested]
    exact ⟨rfl, rfl⟩
  refine holds_transaction (fun _ _ => trivial) (fun _ => Archival.recorded _) ?_
  apply Contract.holds_bind
  refine Contract.holds_mono (holds_receive reports mine) ?_
  rintro (error | shipment) session world established
  · exact ⟨trivial, established.abandoned⟩
  apply Contract.holds_pure
  refine Contract.holds_mono (holds_flush_received established reports.isReception) ?_
  rintro (error | done) session world flushed
  · exact ⟨trivial, flushed.abandoned⟩
  · refine flushed.ready (fun wal row found => ⟨row, found⟩) fun _ _ equality => ?_
    rw [requested] at equality
    cases equality

end Rules

end Freight
