/-
Module: Freight.Proofs.MonotoneReads
Purpose: What reads that follow each other may rely on while any number of processes
  write: a shipment that was found is found with the same particulars, events that were
  listed are listed again, and a shipment is there exactly when it has a history.
Trusted boundary: none
Main exports:
  Database.answer, GetShipment.Answers, Shipment.particulars, History.particulars,
  Accounted, History.accounted, reads_are_monotone
-/
import Freight.Application.Queries
import Freight.Proofs.RelaySafety
import Freight.Store.Collisions
import Freight.Proofs.StoreWellFormed

namespace Freight

open Interaction (ProcessId Contract Computation)

/-! ## What a read answers -/

/-- The answer to `GET /shipments/{shipment_id}` from the committed tables. -/
def Database.answer (database : Database) (shipmentId : UUID) : Except PyError Shipment :=
  match database.shipment shipmentId with
  | none => .error (.httpException 404 "Shipment not found")
  | some row => .ok (ShipmentMapper.toDomain row)

/-- What the route may answer in a world, on a connection with nothing uncommitted, when
the environment raises nothing. -/
def GetShipment.Answers (server : Server) (world : World) (shipmentId : UUID)
    (answer : Except PyError Shipment) : Prop :=
  ∃ reader choices session after, world.writes reader = [] ∧
    (∀ choice ∈ choices, choice.isFault = false) ∧
    (getShipment shipmentId {}).run (server.perform reader) choices world =
      some ((answer, session), after)

section Reading

variable {server : Server} {world : World} {shipmentId : UUID} {reader : ProcessId}

/-- A commit without writes changes no table. -/
theorem World.database_commit (world : World) (clean : world.writes reader = []) :
    (world.commit reader).database = world.database := by
  simp [World.database, World.commit, World.discard, World.connection, clean]

theorem ends_execute_read {post : Contract.Post PyError Session World (Option Shipment)}
    (faultless : server.Faultless) (clean : world.writes reader = [])
    (established : ∀ (session : Session) (after : World), session.Clean →
      after.database = world.database → after.writes reader = [] →
      post (.ok ((world.database.shipment shipmentId).map ShipmentMapper.toDomain)) session
        after) :
    (GetShipment.execute shipmentId).ends (server.perform reader) post {} world := by
  have visible : world.visible reader = world.database := by
    rw [World.visible, clean, Database.writeAll_nil]
  apply Computation.ends_bind
  apply Computation.ends_bind
  refine ends_statement faultless rfl ?_
  rw [visible]
  cases stored : world.database.shipment shipmentId with
  | none =>
      rw [stored] at established
      exact established {} _ ⟨by simp, by simp, rfl, rfl, rfl⟩ rfl clean
  | some row =>
      rw [stored] at established
      exact established _ _ ⟨by simp, by simp, rfl, rfl, rfl⟩ rfl clean

/-- The route ends, answers from the committed tables and leaves them as they were. -/
theorem ends_getShipment (shipmentId : UUID) (faultless : server.Faultless)
    (clean : world.writes reader = []) :
    (getShipment shipmentId).ends (server.perform reader)
      (fun outcome _ after => outcome = world.database.answer shipmentId ∧
        after.database = world.database) {} world := by
  unfold getShipment getDb transaction
  apply Computation.ends_onExit
  apply Computation.ends_tryExcept
  apply Computation.ends_bind
  apply Computation.ends_bind
  apply ends_execute_read faultless clean
  intro session after tidy tables untouched
  cases stored : world.database.shipment shipmentId with
  | none =>
      have answer : world.database.answer shipmentId =
          .error (.httpException 404 "Shipment not found") := by
        rw [Database.answer, stored]
      apply Computation.ends_raise
      simp only [Contract.Post.on]
      apply Computation.ends_bind
      apply Computation.ends_bind
      refine ends_statement faultless rfl ?_
      apply Computation.ends_modify
      simp only [Contract.Post.on]
      apply Computation.ends_bind
      apply ends_observe faultless
      simp only [Contract.Post.on]
      apply Computation.ends_raise
      refine ends_statement faultless rfl ?_
      exact ⟨answer.symm, tables⟩
  | some row =>
      have answer : world.database.answer shipmentId = .ok (ShipmentMapper.toDomain row) := by
        rw [Database.answer, stored]
      apply Computation.ends_bind
      refine ends_statement faultless rfl ?_
      simp only [Contract.Post.on]
      apply Computation.ends_pure
      simp only [Contract.Post.on]
      apply Computation.ends_bind
      apply Computation.ends_bind
      apply ends_flush_clean tidy
      refine ends_statement faultless rfl ?_
      simp only [Contract.Post.on]
      apply Computation.ends_bind
      apply ends_observe faultless
      simp only [Contract.Post.on]
      apply Computation.ends_pure
      refine ends_statement faultless rfl ?_
      refine ⟨answer.symm, ?_⟩
      exact (World.database_commit (after.answer reader _) untouched).trans tables

theorem GetShipment.Answers.committed {answer : Except PyError Shipment}
    (answers : GetShipment.Answers server world shipmentId answer) :
    answer = world.database.answer shipmentId := by
  obtain ⟨reader, choices, session, after, clean, proper, ran⟩ := answers
  have calm := Server.run_calm_iff.mpr ⟨proper, ran⟩
  have ended := ends_getShipment shipmentId server.calm_faultless clean
  exact (ended.of_run calm).1

/-- A reader with nothing uncommitted is answered. -/
theorem GetShipment.exists_answer (server : Server) (shipmentId : UUID)
    (clean : world.writes reader = []) :
    GetShipment.Answers server world shipmentId (world.database.answer shipmentId) := by
  have ended := ends_getShipment shipmentId server.calm_faultless clean
  obtain ⟨choices, ⟨answer, session⟩, after, calm⟩ := ended.exists_run
  have answered : answer = world.database.answer shipmentId := (ended.of_run calm).1
  obtain ⟨proper, ran⟩ := Server.run_calm_iff.mp calm
  exact ⟨reader, choices, session, after, clean, proper, answered ▸ ran⟩

end Reading

/-! ## What a shipment keeps -/

/-- What no event changes about a shipment. -/
def Shipment.particulars (shipment : Shipment) :
    UUID × String × String × String × String × DateTime :=
  (shipment.id, shipment.referenceNumber, shipment.origin, shipment.destination,
    shipment.carrier, shipment.createdAt)

/-- Run lemma: a shipment that was found is found again, with the same particulars. -/
theorem History.particulars {server : Server} {base : Database} {quiet : Prop}
    {requests : ProcessId → Request} {wal : List Transaction}
    (history : History server base quiet requests wal) {first second : Nat}
    (ordered : first ≤ second) {id : UUID} {row : ShipmentModel}
    (found : (replay base (wal.take first)).shipment id = some row) :
    ∃ later, (replay base (wal.take second)).shipment id = some later ∧
      (ShipmentMapper.toDomain later).particulars =
        (ShipmentMapper.toDomain row).particulars := by
  obtain ⟨later, there⟩ := Option.isSome_iff_exists.mp
    (replay_shipment_take_mono ordered (by rw [found]; rfl))
  exact ⟨later, there, history.identity ordered found there⟩

/-! ## Shipments and histories -/

/-- Tables in which shipments and events account for each other: every event has its
shipment, every shipment was created by an event of its own, no two events have one id,
and every event is announced by one row of the outbox. -/
structure Accounted (database : Database) : Prop where
  shipped : ∀ event ∈ database.shipmentEvents, (database.shipment event.shipmentId).isSome
  created : ∀ row ∈ database.shipments, ∃ event ∈ database.shipmentEvents,
    event.eventType = .shipmentCreated ∧ row.birth = (event.shipmentId, event.occurredAt)
  eventKeys : (database.shipmentEvents.map ShipmentEventModel.eventId).Nodup
  announced : database.outboxEvents.map OutboxEventModel.eventId =
    database.shipmentEvents.map ShipmentEventModel.eventId

section Accounts

variable {server : Server} {quiet : Prop} {requests : ProcessId → Request}
  {wal : List Transaction}

theorem birth_mem {before after : Database} {row : ShipmentModel}
    (births : after.shipments.map ShipmentModel.birth =
      before.shipments.map ShipmentModel.birth) (member : row ∈ after.shipments) :
    ∃ earlier ∈ before.shipments, earlier.birth = row.birth := by
  have listed : row.birth ∈ before.shipments.map ShipmentModel.birth :=
    births ▸ List.mem_map_of_mem member
  exact List.mem_map.mp listed

/-- A row that was announced keeps its event. -/
theorem eventIds_of_snapshots {before after : List OutboxEventModel}
    (snapshots : after.map OutboxEventModel.snapshot = before.map OutboxEventModel.snapshot) :
    after.map OutboxEventModel.eventId = before.map OutboxEventModel.eventId := by
  have projected := congrArg (List.map OutboxEventModel.eventId) snapshots
  rw [List.map_map, List.map_map] at projected
  exact projected

/-- Step lemma: where the shipment of a new event is found, an entry keeps the accounts. -/
theorem Entry.accounted {postgres : Postgres} {request : Request} {before after : Database}
    (entry : Entry postgres request before after) (kept : Accounted before)
    (shipped : ∀ event ∈ after.shipmentEvents, (after.shipment event.shipmentId).isSome) :
    Accounted after := by
  cases entry with
  | silent births events snapshots =>
      exact
        { shipped := shipped
          created := by
            intro row member
            obtain ⟨earlier, there, same⟩ := birth_mem births member
            rw [events, ← same]
            exact kept.created earlier there
          eventKeys := by
            rw [events]
            exact kept.eventKeys
          announced := by
            rw [eventIds_of_snapshots snapshots, events, kept.announced] }
  | created recorded shipment event outbox announced freshShipment freshEvent created birth
      shipments events outboxEvents =>
      exact
        { shipped := shipped
          created := by
            intro row member
            rw [shipments] at member
            rw [events]
            rcases List.mem_append.mp member with earlier | new
            · obtain ⟨creation, there, founds⟩ := kept.created row earlier
              exact ⟨creation, List.mem_append_left _ there, founds⟩
            · cases List.mem_singleton.mp new
              exact ⟨event, List.mem_append_right _ (List.mem_singleton_self event), created,
                birth⟩
          eventKeys := by
            rw [events, List.map_append]
            exact nodup_snoc kept.eventKeys (Table.lookup_eq_none_iff.mp freshEvent)
          announced := by
            rw [outboxEvents, events, List.map_append, List.map_append, kept.announced,
              List.map_singleton, List.map_singleton, announced.eventId] }
  | received recorded event outbox announced freshEvent received births events
      outboxEvents =>
      exact
        { shipped := shipped
          created := by
            intro row member
            obtain ⟨earlier, there, same⟩ := birth_mem births member
            obtain ⟨creation, recorded, founds⟩ := kept.created earlier there
            rw [events, ← same]
            exact ⟨creation, List.mem_append_left _ recorded, founds⟩
          eventKeys := by
            rw [events, List.map_append]
            exact nodup_snoc kept.eventKeys (Table.lookup_eq_none_iff.mp freshEvent)
          announced := by
            rw [outboxEvents, events, List.map_append, List.map_append, kept.announced,
              List.map_singleton, List.map_singleton, announced.eventId] }

/-- Step lemma: an event is recorded for a shipment that is there. -/
theorem Effect.shipped {base : Database} {request : Request} {transaction : Transaction}
    (effect : Effect server base quiet wal request transaction)
    (kept : ∀ event ∈ (replay base wal).shipmentEvents,
      ((replay base wal).shipment event.shipmentId).isSome) :
    ∀ event ∈ ((replay base wal).writeAll transaction.writes).shipmentEvents,
      (((replay base wal).writeAll transaction.writes).shipment event.shipmentId).isSome := by
  intro event member
  have stays : ∀ id, ((replay base wal).shipment id).isSome →
      (((replay base wal).writeAll transaction.writes).shipment id).isSome :=
    fun id there => Database.shipment_writeAll_isSome transaction.writes there
  cases effect with
  | nothing writes published =>
      rw [writes] at member
      exact stays _ (kept event member)
  | created creation createdAt receivedAt freshShipment freshEvent freshOutbox writes =>
      have events : ((replay base wal).writeAll transaction.writes).shipmentEvents =
          (replay base wal).shipmentEvents ++ [creation.eventRow server.postgres] := by
        rw [writes]
        rfl
      rw [events] at member
      rcases List.mem_append.mp member with earlier | new
      · exact stays _ (kept event earlier)
      · cases List.mem_singleton.mp new
        rw [writes]
        simp [Creation.writes, freshShipment, Creation.eventRow, Creation.shipmentRow,
          Postgres.eventRow, Postgres.shipmentRow, EventMapper.toModel,
          ShipmentMapper.toModel, Creation.event, CreateShipment.createdEvent,
          Creation.shipment, Shipment.create]
  | received reception reports lsn current found saved loaded identity handled payload
      reads freshEvent freshOutbox writes =>
      have events : ((replay base wal).writeAll transaction.writes).shipmentEvents =
          (replay base wal).shipmentEvents ++ [reception.eventRow server.postgres] := by
        rw [writes, Reception.writes, Database.writeAll_append,
          reception.writeAll_projection]
        rfl
      rw [events] at member
      rcases List.mem_append.mp member with earlier | new
      · exact stays _ (kept event earlier)
      · cases List.mem_singleton.mp new
        exact stays _ (replay_shipment_of_take (Option.isSome_of_eq_some found))
  | attempted attempt locked pending confirmed writes =>
      rw [writes] at member
      exact stays _ (kept event member)

/-- Run lemma: from empty tables every legal log keeps the accounts. -/
theorem History.accounted (history : History server {} quiet requests wal) :
    Accounted (replay {} wal) := by
  induction history with
  | start =>
      exact
        { shipped := by simp
          created := by simp
          eventKeys := List.nodup_nil
          announced := rfl }
  | @commit wal transaction earlier effect first inductionHypothesis =>
      rw [replay_snoc]
      exact effect.entry.accounted inductionHypothesis
        (effect.shipped inductionHypothesis.shipped)

end Accounts

/-! ## Reads that follow each other -/

section Listings

variable {postgres : Postgres} {earlier later : Database} {shipmentId : UUID}
  {before after : List ShipmentEvent}

/-- Of a later listing, the events that an earlier one showed are a listing of the tables
as they were. -/
theorem GetShipmentEvents.Execute.retained (keyed :
      (later.shipmentEvents.map ShipmentEventModel.eventId).Nodup)
    (grown : earlier.shipmentEvents <+: later.shipmentEvents)
    (listedBefore : GetShipmentEvents.Execute postgres earlier shipmentId before)
    (listedAfter : GetShipmentEvents.Execute postgres later shipmentId after) :
    GetShipmentEvents.Execute postgres earlier shipmentId
      (after.filter fun event => event.eventId ∈ before.map ShipmentEvent.eventId) := by
  obtain ⟨rows, listing, rfl⟩ := listedBefore
  obtain ⟨laterRows, laterListing, rfl⟩ := listedAfter
  obtain ⟨more, grown⟩ := grown
  have shown : ∀ row : ShipmentEventModel,
      (EventMapper.toDomain row).eventId ∈
          (rows.map EventMapper.toDomain).map ShipmentEvent.eventId ↔
        row.eventId ∈ (earlier.history shipmentId).map ShipmentEventModel.eventId := by
    intro row
    rw [List.map_map]
    exact (listing.perm.map ShipmentEventModel.eventId).mem_iff
  have selection : (later.history shipmentId).filter (fun row => row.eventId ∈
        (earlier.history shipmentId).map ShipmentEventModel.eventId) =
      earlier.history shipmentId := by
    have split : later.history shipmentId = earlier.history shipmentId ++
        more.filter fun row => row.shipmentId = shipmentId := by
      rw [Database.history, ← grown, List.filter_append]
      rfl
    have old : (earlier.history shipmentId).filter (fun row => row.eventId ∈
          (earlier.history shipmentId).map ShipmentEventModel.eventId) =
        earlier.history shipmentId := by
      apply List.filter_eq_self.mpr
      intro row member
      exact decide_eq_true (List.mem_map_of_mem member)
    have new : (more.filter fun row => row.shipmentId = shipmentId).filter (fun row =>
          row.eventId ∈ (earlier.history shipmentId).map ShipmentEventModel.eventId) = [] := by
      apply List.filter_eq_nil_iff.mpr
      intro row member shown
      obtain ⟨other, there, same⟩ := List.mem_map.mp (of_decide_eq_true shown)
      rw [← grown, List.map_append] at keyed
      refine (List.nodup_append.mp keyed).2.2 row.eventId ?_ row.eventId ?_ rfl
      · rw [← same]
        exact List.mem_map_of_mem (List.mem_of_mem_filter there)
      · exact List.mem_map_of_mem (List.mem_of_mem_filter member)
    rw [split, List.filter_append, old, new, List.append_nil]
  refine ⟨laterRows.filter fun row => row.eventId ∈
    (earlier.history shipmentId).map ShipmentEventModel.eventId, ?_, ?_⟩
  · have selected := laterListing.filter fun row => decide (row.eventId ∈
      (earlier.history shipmentId).map ShipmentEventModel.eventId)
    rw [selection] at selected
    exact selected
  · rw [List.filter_map]
    congr 1
    apply List.filter_congr
    intro row member
    simp only [Function.comp_apply, decide_eq_decide]
    exact shown row

end Listings

section Accounts

variable {database : Database} {shipmentId : UUID} {events : List ShipmentEvent}
  {postgres : Postgres}

/-- The history of a shipment tells when it was created. -/
theorem Accounted.creation_listed (accounted : Accounted database) {row : ShipmentModel}
    (found : database.shipment shipmentId = some row)
    (listed : GetShipmentEvents.Execute postgres database shipmentId events) :
    ∃ event ∈ events, event.eventType = .shipmentCreated ∧
      event.occurredAt = row.createdAt := by
  obtain ⟨rows, listing, rfl⟩ := listed
  obtain ⟨event, recorded, created, birth⟩ := accounted.created row (Table.mem_of_lookup found)
  have key : row.id = shipmentId := Table.key_of_lookup found
  have own : event.shipmentId = shipmentId := (congrArg Prod.fst birth).symm.trans key
  have member : event ∈ rows :=
    listing.perm.symm.subset (List.mem_filter.mpr ⟨recorded, decide_eq_true own⟩)
  exact ⟨EventMapper.toDomain event, List.mem_map_of_mem member, created,
    (congrArg Prod.snd birth).symm⟩

/-- A shipment is missing exactly when nothing is listed. -/
theorem Accounted.missing_iff (accounted : Accounted database)
    (listed : GetShipmentEvents.Execute postgres database shipmentId events) :
    database.shipment shipmentId = none ↔ events = [] := by
  constructor
  · intro missing
    obtain ⟨rows, listing, rfl⟩ := listed
    rw [List.map_eq_nil_iff]
    by_contra some
    obtain ⟨row, member⟩ := List.exists_mem_of_ne_nil _ some
    obtain ⟨recorded, own⟩ := List.mem_filter.mp (listing.perm.subset member)
    have there := accounted.shipped row recorded
    rw [of_decide_eq_true own, missing] at there
    cases there
  · intro empty
    cases found : database.shipment shipmentId with
    | none => rfl
    | some row =>
        obtain ⟨event, member, -⟩ := accounted.creation_listed found listed
        rw [empty] at member
        cases member

theorem Database.answer_ok_iff {shipment : Shipment} :
    database.answer shipmentId = .ok shipment ↔
      ∃ row, database.shipment shipmentId = some row ∧
        ShipmentMapper.toDomain row = shipment := by
  rw [Database.answer]
  cases database.shipment shipmentId with
  | none => simp
  | some row => simp

theorem Database.answer_error_iff {error : PyError} :
    database.answer shipmentId = .error error ↔
      database.shipment shipmentId = none ∧
        .httpException 404 "Shipment not found" = error := by
  rw [Database.answer]
  cases database.shipment shipmentId with
  | none => simp
  | some row => simp

end Accounts

/-- Reads that follow each other, of the tables of any reachable state and of any state
that a run leads to from there, among any writers, any faults and crashes.  A shipment that
was found is found again, with the particulars it had; the events that were listed are
listed again, in an order in which they could have been listed before; and a shipment is
missing exactly when nothing is listed, while the history of one that is found tells when
it was created. -/
theorem reads_are_monotone (server : Server) (requests : ProcessId → Request)
    {state final : PlatformState}
    (reached : (platform server requests).Reachable {} state)
    {actions : List (Interaction.System.Action Choice)}
    (ran : (platform server requests).run actions state = some final) (shipmentId : UUID) :
    (∀ shipment answer,
        GetShipment.Answers server state.world shipmentId (.ok shipment) →
        GetShipment.Answers server final.world shipmentId answer →
        ∃ later, answer = .ok later ∧ later.particulars = shipment.particulars) ∧
      (∀ before after,
        GetShipmentEvents.Execute server.postgres state.world.database shipmentId before →
        GetShipmentEvents.Execute server.postgres final.world.database shipmentId after →
        GetShipmentEvents.Execute server.postgres state.world.database shipmentId
          (after.filter fun event => event.eventId ∈ before.map ShipmentEvent.eventId)) ∧
      ∀ answer events,
        GetShipment.Answers server final.world shipmentId answer →
        GetShipmentEvents.Execute server.postgres final.world.database shipmentId events →
        (answer = .error (.httpException 404 "Shipment not found") ↔ events = []) ∧
          ∀ shipment, answer = .ok shipment →
            ∃ event ∈ events, event.eventType = .shipmentCreated ∧
              event.occurredAt = shipment.createdAt := by
  have keyed : ({} : Database).outboxKeys.Nodup := List.nodup_nil
  obtain ⟨more, grown⟩ := platform_log keyed reached ran
  have kept := platform_invariant keyed (Interaction.System.Reachable.run _ reached ran)
  have earlierTables : state.world.database =
      replay {} (final.world.wal.take state.world.wal.length) := by
    rw [World.database, (platform_invariant keyed reached).start, grown, List.take_left]
  have tables : final.world.database = replay {} final.world.wal := by
    rw [World.database, kept.start]
  have accounted : Accounted final.world.database := tables ▸ kept.history.accounted
  refine ⟨?_, ?_, ?_⟩
  · intro shipment answer found answered
    obtain ⟨row, stored, rfl⟩ := Database.answer_ok_iff.mp found.committed.symm
    rw [earlierTables] at stored
    have shorter : state.world.wal.length ≤ final.world.wal.length := by
      rw [grown, List.length_append]
      exact Nat.le_add_right _ _
    obtain ⟨later, there, same⟩ := kept.history.particulars shorter stored
    rw [List.take_length, ← tables] at there
    refine ⟨ShipmentMapper.toDomain later, ?_, same⟩
    rw [answered.committed]
    exact Database.answer_ok_iff.mpr ⟨later, there, rfl⟩
  · intro before after listedBefore listedAfter
    refine listedBefore.retained accounted.eventKeys ?_ listedAfter
    rw [earlierTables, tables]
    exact replay_shipmentEvents_grows {} final.world.wal state.world.wal.length
  · intro answer events answered listed
    rw [answered.committed, ← accounted.missing_iff listed, Database.answer_error_iff]
    refine ⟨by simp, ?_⟩
    intro shipment found
    obtain ⟨row, stored, rfl⟩ := Database.answer_ok_iff.mp found
    exact accounted.creation_listed stored listed

theorem journeySchedule_reads :
    (((platform Server.utc journey).run (createTurns 0)
      ((platform Server.utc journey).initial {})).map fun state =>
        (((state.world.database.answer parcel).toOption.map Shipment.status),
          state.world.writes 9)) = some (some .created, []) ∧
    ((((platform Server.utc journey).run (createTurns 0)
      ((platform Server.utc journey).initial {})).bind
        ((platform Server.utc journey).run (journeySchedule.drop (createTurns 0).length))).map
          fun state => state.world.writes 9) = some [] := by
  decide +kernel

/-- The shipment of the journey, read after its creation and at the end. -/
theorem journey_reads :
    ∃ state final : PlatformState, (platform Server.utc journey).Reachable {} final ∧
      ∃ shipment later, shipment.status = .created ∧
        state.world.database.answer parcel = .ok shipment ∧
        final.world.database.answer parcel = .ok later ∧
        later.particulars = shipment.particulars := by
  obtain ⟨state, ran, shown⟩ := Option.map_eq_some_iff.mp journeySchedule_reads.1
  obtain ⟨final, further, quiet⟩ := Option.map_eq_some_iff.mp journeySchedule_reads.2
  rw [ran, Option.bind_some] at further
  simp only [Prod.mk.injEq] at shown
  obtain ⟨found, clean⟩ := shown
  obtain ⟨shipment, answered, created⟩ := Option.map_eq_some_iff.mp found
  have answer : state.world.database.answer parcel = .ok shipment := by
    cases known : state.world.database.answer parcel with
    | error error =>
        rw [known] at answered
        cases answered
    | ok other =>
        rw [known] at answered
        cases answered
        rfl
  have reached : (platform Server.utc journey).Reachable {} state := ⟨_, ran⟩
  obtain ⟨later, again, same⟩ :=
    (reads_are_monotone Server.utc journey reached further parcel).1 shipment _
      (answer ▸ GetShipment.exists_answer Server.utc parcel clean)
      (GetShipment.exists_answer Server.utc parcel quiet)
  exact ⟨state, final, Interaction.System.Reachable.run _ reached further, shipment, later,
    created, answer, again, same⟩

end Freight
