/-
Module: Freight.Proofs.StoreWellFormed
Purpose: From empty tables every run keeps shipments, events and outbox rows in
  step: one creation event for each shipment, one outbox row for each event, and
  an envelope that says what the event row says.
Trusted boundary: none
Main exports:
  Announces, Consistent, History.consistent, EnvelopeOf, WellFormed,
  Consistent.wellFormed, store_wellFormed
-/
import Freight.Store.Entries
import Freight.Store.Verified
import Mathlib.Data.List.Forall2

namespace Freight

open Interaction (ProcessId)

/-! ## The invariant -/

/-- An event row and what the relay leaves alone of its outbox row. -/
def Announces (postgres : Postgres) (event : ShipmentEventModel)
    (snapshot : OutboxEventModel) : Prop :=
  ∃ request recorded outbox, recorded.WellTyped ∧
    Announced postgres request recorded event outbox ∧ outbox.snapshot = snapshot

/-- What every entry of the log keeps: creations and shipments in one order,
events and outbox rows in one order, and the keys of both tables. -/
structure Consistent (postgres : Postgres) (database : Database) : Prop where
  births : database.shipments.map ShipmentModel.birth =
    (database.shipmentEvents.filter fun event =>
      event.eventType = .shipmentCreated).map fun event =>
        (event.shipmentId, event.occurredAt)
  shipmentKeys : (database.shipments.map ShipmentModel.id).Nodup
  eventKeys : (database.shipmentEvents.map ShipmentEventModel.eventId).Nodup
  announced : List.Forall₂ (Announces postgres) database.shipmentEvents
    (database.outboxEvents.map OutboxEventModel.snapshot)

section Steps

variable {postgres : Postgres} {request : Request} {before after : Database}

theorem births_ids (rows : List ShipmentModel) :
    (rows.map ShipmentModel.birth).map Prod.fst = rows.map ShipmentModel.id := by
  rw [List.map_map]
  rfl

/-- A fresh key extends a table without duplicates. -/
theorem nodup_snoc {α : Type} {keys : List α} {key : α} (distinct : keys.Nodup)
    (fresh : key ∉ keys) : (keys ++ [key]).Nodup :=
  List.nodup_append_comm.mp (List.nodup_cons.mpr ⟨fresh, distinct⟩)

theorem Announced.announces {recorded : ShipmentEvent} {event : ShipmentEventModel}
    {outbox : OutboxEventModel} (typed : request.WellTyped)
    (announced : Announced postgres request recorded event outbox) :
    Announces postgres event outbox.snapshot :=
  ⟨request, recorded, outbox, announced.typed typed, announced, rfl⟩

/-- Step lemma: an entry of a well-typed request keeps the tables consistent. -/
theorem Entry.consistent (entry : Entry postgres request before after)
    (typed : request.WellTyped) (kept : Consistent postgres before) :
    Consistent postgres after := by
  cases entry with
  | silent births events snapshots =>
      exact
        { births := by rw [births, events, kept.births]
          shipmentKeys := by
            rw [← births_ids, births, births_ids]
            exact kept.shipmentKeys
          eventKeys := by
            rw [events]
            exact kept.eventKeys
          announced := by
            rw [events, snapshots]
            exact kept.announced }
  | created recorded shipment event outbox announced freshShipment freshEvent created birth
      shipments events outboxEvents =>
      exact
        { births := by
            rw [shipments, events, List.map_append, List.filter_append, List.map_append,
              kept.births]
            simp [created, birth]
          shipmentKeys := by
            rw [shipments, List.map_append]
            exact nodup_snoc kept.shipmentKeys (Table.lookup_eq_none_iff.mp freshShipment)
          eventKeys := by
            rw [events, List.map_append]
            exact nodup_snoc kept.eventKeys (Table.lookup_eq_none_iff.mp freshEvent)
          announced := by
            rw [events, outboxEvents, List.map_append]
            exact List.rel_append kept.announced (.cons (announced.announces typed) .nil) }
  | received recorded event outbox announced freshEvent received births events
      outboxEvents =>
      exact
        { births := by
            rw [births, events, List.filter_append, List.map_append, kept.births]
            simp [received]
          shipmentKeys := by
            rw [← births_ids, births, births_ids]
            exact kept.shipmentKeys
          eventKeys := by
            rw [events, List.map_append]
            exact nodup_snoc kept.eventKeys (Table.lookup_eq_none_iff.mp freshEvent)
          announced := by
            rw [events, outboxEvents, List.map_append]
            exact List.rel_append kept.announced (.cons (announced.announces typed) .nil) }

/-- Run lemma: from empty tables every legal log keeps them consistent. -/
theorem History.consistent {server : Server} {quiet : Prop}
    {requests : ProcessId → Request} {wal : List Transaction}
    (history : History server {} quiet requests wal)
    (typed : ∀ process, (requests process).WellTyped) :
    Consistent server.postgres (replay {} wal) := by
  induction history with
  | start =>
      exact
        { births := rfl
          shipmentKeys := List.nodup_nil
          eventKeys := List.nodup_nil
          announced := .nil }
  | @commit wal transaction earlier effect first inductionHypothesis =>
      rw [replay_snoc]
      exact effect.entry.consistent (typed transaction.process) inductionHypothesis

end Steps

/-! ## Well-formed tables -/

/-- A JSON text that writes down an aware datetime with the instant of another. -/
def WritesInstant (localize : Int → Int) (written : Option Json) (value : DateTime) : Prop :=
  ∃ datetime : DateTime, datetime.aware = true ∧ written = some (.str datetime.isoformat) ∧
    datetime.instant localize = value.instant localize

/-- The envelope of an outbox row says what the event row says. -/
structure EnvelopeOf (localize : Int → Int) (outbox : OutboxEventModel)
    (event : ShipmentEventModel) : Prop where
  messageId : outbox.payload.get "message_id" = some (.str outbox.id.str)
  eventId : outbox.payload.get "event_id" = some (.str event.eventId.str)
  shipmentId : outbox.payload.get "shipment_id" = some (.str event.shipmentId.str)
  eventType : outbox.payload.get "event_type" = some (.str event.eventType.value)
  source : outbox.payload.get "source" = some event.source
  occurredAt : WritesInstant localize (outbox.payload.get "occurred_at") event.occurredAt
  receivedAt : WritesInstant localize (outbox.payload.get "received_at") event.receivedAt
  payload : outbox.payload.get "payload" = some event.payload
  processingStatus : outbox.payload.get "processing_status" =
    some (.str event.processingStatus.value)

/-- The three tables, seen from outside. -/
structure WellFormed (localize : Int → Int) (database : Database) : Prop where
  created : ∀ shipment ∈ database.shipments, ∃ event,
    (database.shipmentEvents.filter fun event =>
      event.shipmentId = shipment.id && event.eventType = .shipmentCreated) = [event] ∧
      event.occurredAt.instant localize = shipment.createdAt.instant localize
  events : (database.shipmentEvents.map ShipmentEventModel.eventId).Nodup
  outboxEvents : (database.outboxEvents.map OutboxEventModel.eventId).Nodup
  correspond : ∀ eventId, eventId ∈ database.shipmentEvents.map ShipmentEventModel.eventId ↔
    eventId ∈ database.outboxEvents.map OutboxEventModel.eventId
  envelopes : ∀ outbox ∈ database.outboxEvents, ∀ event ∈ database.shipmentEvents,
    outbox.eventId = event.eventId →
      outbox.shipmentId = event.shipmentId ∧ EnvelopeOf localize outbox event

theorem WritesInstant.timestamptz (postgres : Postgres) {datetime : DateTime}
    (aware : datetime.aware = true) :
    WritesInstant postgres.localize (some (.str datetime.isoformat))
      (postgres.timestamptz datetime) :=
  ⟨datetime, aware, rfl, by simp [Postgres.timestamptz]⟩

/-- The two rows of one recorded event agree. -/
theorem Announces.envelopeOf {postgres : Postgres} {event : ShipmentEventModel}
    {outbox : OutboxEventModel} (announces : Announces postgres event outbox.snapshot) :
    outbox.shipmentId = event.shipmentId ∧
      EnvelopeOf postgres.localize outbox event := by
  obtain ⟨request, recorded, written, typed, announced, same⟩ := announces
  obtain ⟨-, rfl, messageId, correlationId, enqueuedAt, rfl⟩ := announced
  obtain ⟨⟨text, source⟩, occurredAt, receivedAt⟩ := typed
  have id : messageId = outbox.id := congrArg OutboxEventModel.id same
  have shipmentId : recorded.shipmentId = outbox.shipmentId :=
    congrArg OutboxEventModel.shipmentId same
  have payload :
      RecordedEventMessage.envelope messageId recorded recorded.payload.plain =
        outbox.payload := congrArg OutboxEventModel.payload same
  refine ⟨shipmentId.symm, ?_⟩
  exact
    { messageId := by rw [← payload, ← id]; rfl
      eventId := by rw [← payload]; rfl
      shipmentId := by rw [← payload]; rfl
      eventType := by rw [← payload]; rfl
      source := by
        rw [← payload]
        simp only [Postgres.eventRow, EventMapper.toModel, source, postgres.varchar_str]
        exact congrArg some source
      occurredAt := by
        rw [← payload]
        exact .timestamptz postgres occurredAt
      receivedAt := by
        rw [← payload]
        exact .timestamptz postgres receivedAt
      payload := by rw [← payload]; rfl
      processingStatus := by rw [← payload]; rfl }

/-- In a list whose keys are distinct, the rows with a key are one row. -/
theorem filter_key_eq_singleton {α κ : Type} [DecidableEq κ] {key : α → κ} {rows : List α}
    {row : α} (distinct : (rows.map key).Nodup) (member : row ∈ rows) :
    (rows.filter fun other => key other = key row) = [row] := by
  induction rows with
  | nil => cases member
  | cons head tail inductionHypothesis =>
      rw [List.map_cons, List.nodup_cons] at distinct
      rcases List.mem_cons.mp member with rfl | later
      · have others : (tail.filter fun other => key other = key row) = [] := by
          rw [List.filter_eq_nil_iff]
          intro other present same
          exact distinct.1 ((of_decide_eq_true same) ▸ List.mem_map_of_mem present)
        simp [others]
      · have different : key head ≠ key row := fun same =>
          distinct.1 (same ▸ List.mem_map_of_mem later)
        rw [List.filter_cons_of_neg (by simpa using different)]
        exact inductionHypothesis distinct.2 later

namespace Consistent

variable {postgres : Postgres} {database : Database}

/-- Every shipment has one creation event, made at the same time. -/
theorem creation (kept : Consistent postgres database) {shipment : ShipmentModel}
    (member : shipment ∈ database.shipments) : ∃ event,
    (database.shipmentEvents.filter fun event =>
      event.shipmentId = shipment.id && event.eventType = .shipmentCreated) = [event] ∧
      event.occurredAt = shipment.createdAt := by
  have birth : shipment.birth ∈ database.shipments.map ShipmentModel.birth :=
    List.mem_map_of_mem member
  rw [kept.births] at birth
  obtain ⟨event, present, same⟩ := List.mem_map.mp birth
  obtain ⟨shipmentId, occurredAt⟩ := Prod.mk.inj same
  have distinct : ((database.shipmentEvents.filter fun event =>
      event.eventType = .shipmentCreated).map ShipmentEventModel.shipmentId).Nodup := by
    have ids := kept.shipmentKeys
    rw [← births_ids, kept.births, List.map_map] at ids
    exact ids
  refine ⟨event, ?_, occurredAt⟩
  rw [← List.filter_filter, ← shipmentId]
  exact filter_key_eq_singleton distinct present

/-- Events and outbox rows have the same event ids, in the same order. -/
theorem eventIds (kept : Consistent postgres database) :
    database.shipmentEvents.map ShipmentEventModel.eventId =
      database.outboxEvents.map OutboxEventModel.eventId := by
  rw [← List.forall₂_eq_eq_eq, List.forall₂_map_left_iff, List.forall₂_map_right_iff]
  refine (List.forall₂_map_right_iff.mp kept.announced).imp ?_
  rintro event row ⟨request, recorded, outbox, -, announced, same⟩
  have eventId : outbox.snapshot.eventId = row.snapshot.eventId := by rw [same]
  exact announced.eventId.symm.trans eventId

/-- An outbox row announces the event with its event id. -/
theorem announces (kept : Consistent postgres database) {outbox : OutboxEventModel}
    (member : outbox ∈ database.outboxEvents) {event : ShipmentEventModel}
    (recorded : event ∈ database.shipmentEvents) (same : outbox.eventId = event.eventId) :
    Announces postgres event outbox.snapshot := by
  obtain ⟨index, inside, rfl⟩ := List.getElem_of_mem member
  have pairs := List.forall₂_iff_get.mp kept.announced
  have length : database.shipmentEvents.length = database.outboxEvents.length := by
    simpa using pairs.1
  have announced := pairs.2 index (length ▸ inside) (by simpa using inside)
  simp only [List.get_eq_getElem, List.getElem_map] at announced
  have partner : database.shipmentEvents[index] = event := by
    refine Table.eq_of_mem_of_key_eq kept.eventKeys (List.getElem_mem _) recorded ?_
    obtain ⟨request, written, snapshot, -, pair, equality⟩ := announced
    have eventId : snapshot.snapshot.eventId = database.outboxEvents[index].snapshot.eventId :=
      by rw [equality]
    exact pair.eventId.symm.trans (eventId.trans same)
  rwa [partner] at announced

/-- Consistent tables are well formed. -/
theorem wellFormed (kept : Consistent postgres database) :
    WellFormed postgres.localize database where
  created shipment member := by
    obtain ⟨event, only, same⟩ := kept.creation member
    exact ⟨event, only, by rw [same]⟩
  events := kept.eventKeys
  outboxEvents := by
    rw [← kept.eventIds]
    exact kept.eventKeys
  correspond eventId := by rw [kept.eventIds]
  envelopes outbox member event recorded same :=
    (kept.announces member recorded same).envelopeOf

end Consistent

/-- From empty tables, under any interleaving of well-typed requests with any
rollbacks, faults and crashes, the committed tables are well formed, and no
commit of a relay has altered what an outbox row was enqueued with. -/
theorem store_wellFormed (server : Server) (requests : ProcessId → Request)
    (typed : ∀ process, (requests process).WellTyped)
    (state : PlatformState)
    (reached : (platform server requests).Reachable {} state) :
    WellFormed server.postgres.localize state.world.database ∧
      ∀ index transaction retryDelay, state.world.wal[index]? = some transaction →
        requests transaction.process = .publishOne retryDelay →
        (replay {} (state.world.wal.take (index + 1))).outboxEvents.map
            OutboxEventModel.snapshot =
          (replay {} (state.world.wal.take index)).outboxEvents.map
            OutboxEventModel.snapshot := by
  have keyed : ({} : Database).outboxKeys.Nodup := List.nodup_nil
  have kept : Invariant server {} False requests state.world :=
    platform_invariant keyed reached
  constructor
  · rw [World.database, kept.start]
    exact (kept.history.consistent typed).wellFormed
  · intro index transaction retryDelay found relay
    rw [replay_take_succ {} found]
    have effect := kept.history.effect_of_getElem found
    rw [relay] at effect
    exact effect.snapshots_of_publishOne

/-! ## A journey -/

/-- The id that the shipment of the journey is created under. -/
def parcel : UUID := ⟨1#128⟩

/-- A report about that shipment. -/
def report (eventId : BitVec 128) (eventType : ShipmentEventType) (occurredAt : Int) :
    ShipmentEventRequest where
  eventId := ⟨eventId⟩
  shipmentId := parcel
  eventType := eventType
  source := "carrier"
  occurredAt := .utc occurredAt
  payload := []

/-- A message about its location. -/
def located (eventId : BitVec 128) (occurredAt : Int) : ShipmentEvent where
  eventId := ⟨eventId⟩
  shipmentId := parcel
  eventType := .locationUpdated
  source := .str "carrier"
  occurredAt := .utc occurredAt
  receivedAt := .utc occurredAt
  payload := .location { latitude := .int 41, longitude := .float (.finite true 17 (-1)) }

/-- A creation, two reports of one event, a message between them, and relays. -/
def journey : ProcessId → Request
  | 0 => .createShipment none
      { referenceNumber := "FRT-1", origin := "Porto", destination := "Lyon",
        carrier := "carrier" }
  | 1 => .receiveEvent none (report 7 .pickupScheduled 20)
  | 2 => .handleEvent none (located 8 25)
  | 3 => .receiveEvent none (report 7 .pickupScheduled 20)
  | _ => .publishOne 1000

theorem journey_wellTyped : ∀ process, (journey process).WellTyped
  | 0 => trivial
  | 1 => rfl
  | 2 => ⟨⟨_, rfl⟩, rfl, rfl⟩
  | 3 => rfl
  | _ + 4 => trivial

/-- The scheduler's choices for one statement after another of a process. -/
def turns (process : ProcessId) (choices : List Choice) :
    List (Interaction.System.Action Choice) :=
  choices.map (.perform process)

/-- A whole creation. -/
def createTurns (process : ProcessId) : List (Interaction.System.Action Choice) :=
  turns process
    ([.time (.utc 5), .uuid parcel, .uuid ⟨2#128⟩, .time (.utc 6), .proceed, .proceed,
      .proceed, .uuid ⟨3#128⟩, .proceed, .proceed, .time (.utc 7)] ++
      List.replicate 5 .proceed)

/-- The lookup of the shipment, after the clock has been read. -/
def lookUp (process : ProcessId) : List (Interaction.System.Action Choice) :=
  turns process [.time (.utc 30), .proceed]

/-- From the lookup of the event to the end of a request that records it. -/
def recordRest (process : ProcessId) (messageId : BitVec 128) :
    List (Interaction.System.Action Choice) :=
  turns process
    [.proceed, .proceed, .proceed, .proceed, .uuid ⟨messageId⟩, .proceed, .time (.utc 31), .proceed,
      .proceed, .proceed, .proceed, .proceed, .proceed]

/-- The claim of a row and the call of the publisher. -/
def relayTurns (process : ProcessId) : List (Interaction.System.Action Choice) :=
  turns process [.time (.utc 40), .proceed, .proceed]

/-- A report and a message are recorded after the creation and the report is
repeated; then one relay confirms a row, and another is killed after its call. -/
def journeySchedule : List (Interaction.System.Action Choice) :=
  createTurns 0 ++ lookUp 1 ++ recordRest 1 100 ++
    turns 2 [.proceed, .proceed, .proceed, .proceed, .proceed, .uuid ⟨101#128⟩, .proceed,
      .time (.utc 32), .proceed, .proceed, .proceed, .proceed, .proceed] ++
    lookUp 3 ++ turns 3 (List.replicate 5 .proceed) ++
    relayTurns 4 ++ relayTurns 5 ++ turns 4 [.proceed, .time (.utc 41), .proceed, .proceed] ++
    [.crash 5]

theorem journeySchedule_runs :
    (((platform Server.utc journey).run journeySchedule
      ((platform Server.utc journey).initial {})).map fun state =>
        (state.world.wal.map Transaction.process, state.world.publications.length)) =
      some ([0, 1, 2, 3, 4], 2) := by
  decide +kernel

/-- The tables at the end of the journey. -/
theorem journey_wellFormed :
    ∃ state : PlatformState, (platform Server.utc journey).Reachable {} state ∧
      state.world.wal.map Transaction.process = [0, 1, 2, 3, 4] ∧
      WellFormed Server.utc.postgres.localize state.world.database := by
  obtain ⟨state, ran, shown⟩ := Option.map_eq_some_iff.mp journeySchedule_runs
  have reached : (platform Server.utc journey).Reachable {} state := ⟨journeySchedule, ran⟩
  exact ⟨state, reached, (Prod.mk.inj shown).1,
    (store_wellFormed Server.utc journey journey_wellTyped state reached).1⟩

end Freight
