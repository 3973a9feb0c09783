/-
Module: Freight.Proofs.OutboxBacklog
Purpose: What the gauges of the outbox say about the recorded events: every event whose
  publication has not been confirmed is counted as pending and is no older than the oldest
  age, and what is not pending has been committed as published.
Trusted boundary: none
Main exports:
  History.confirmed, OutboxBacklogCollector.unconfirmed,
  OutboxBacklogCollector.backlog_is_not_understated
-/
import Freight.Proofs.MonotoneReads
import Freight.Proofs.OutboxLedger

namespace Freight

open Interaction (ProcessId)

/-! ## Confirmed rows -/

section Log

variable {server : Server} {base : Database} {quiet : Prop}
  {requests : ProcessId → Request} {wal : List Transaction}

/-- Run lemma: a row that stands as published was published by a call of the publisher that
returned, in a transaction that has committed. -/
theorem History.confirmed (history : History server base quiet requests wal)
    (empty : base.outboxEvents = []) {id : UUID} {row : OutboxEventModel}
    (found : (replay base wal).outbox id = some row) (published : row.publishedAt ≠ none) :
    ∃ transaction ∈ wal, ∃ publication ∈ transaction.published,
      publication.confirmed = true ∧
        publication.message = SQLAlchemyOutboxRepository.message row := by
  induction history generalizing row with
  | start =>
      rw [replay_nil, Database.outbox, empty] at found
      cases found
  | @commit wal transaction earlier effect first inductionHypothesis =>
      rw [replay_snoc] at found
      obtain ⟨before, there, since⟩ := (effect.rowStep id).confirmed found published
      obtain ⟨after, stands, unchanged⟩ :=
        Database.outbox_writeAll_of_some transaction.writes there
      rw [found] at stands
      cases stands
      have message := message_of_snapshot unchanged
      rcases since with already | ⟨publication, called, returned, -, carried⟩
      · obtain ⟨other, committed, publication, called, returned, carried⟩ :=
          inductionHypothesis there already
        exact ⟨other, List.mem_append_left _ committed, publication, called, returned,
          carried.trans message.symm⟩
      · exact ⟨transaction, List.mem_append_right _ (List.mem_singleton_self _), publication,
          called, returned, carried.trans message.symm⟩

end Log

namespace OutboxBacklogCollector

/-- No call of the publisher for the event has returned. -/
def unconfirmed (publications : List Publication) (event : ShipmentEventModel) : Bool :=
  publications.all fun publication =>
    !(publication.confirmed && decide (publication.message.eventId = event.eventId))

/-! ## The gauges -/

section Tables

variable {postgres : Postgres} {database : Database} {publications : List Publication}

theorem pending_add_published (database : Database) :
    (pending database).length +
        (database.outboxEvents.countP fun row => row.publishedAt.isSome) =
      database.outboxEvents.length := by
  rw [pending, ← List.countP_eq_length_filter,
    List.length_eq_countP_add_countP fun row : OutboxEventModel => row.publishedAt.isNone]
  congr 1
  apply List.countP_congr
  intro row member
  cases row.publishedAt <;> simp

variable (postgres) in
/-- The oldest age is at least that of any pending row. -/
theorem oldest_le {row : OutboxEventModel} (member : row ∈ pending database) :
    ∃ oldest, (backlog postgres database).2 = some oldest ∧
      oldest.instant postgres.localize ≤ row.createdAt.instant postgres.localize := by
  have created : row.createdAt ∈ (pending database).map OutboxEventModel.createdAt :=
    List.mem_map_of_mem member
  exact ⟨_, (Option.some_get (List.isSome_minOn?_of_mem created)).symm,
    List.apply_get_minOn?_le_of_mem created⟩

/-- An event whose publication has not been confirmed has a pending row, where every
published row has a confirmed publication. -/
theorem pending_of_unconfirmed (accounted : Accounted database)
    (delivered : ∀ row ∈ database.outboxEvents, row.publishedAt ≠ none →
      ∃ publication ∈ publications, publication.confirmed = true ∧
        publication.message = SQLAlchemyOutboxRepository.message row)
    {event : ShipmentEventModel} (recorded : event ∈ database.shipmentEvents)
    (waiting : unconfirmed publications event = true) :
    ∃ row ∈ pending database, row.eventId = event.eventId := by
  have listed : event.eventId ∈ database.outboxEvents.map OutboxEventModel.eventId := by
    rw [accounted.announced]
    exact List.mem_map_of_mem recorded
  obtain ⟨row, there, own⟩ := List.mem_map.mp listed
  refine ⟨row, List.mem_filter.mpr ⟨there, ?_⟩, own⟩
  cases published : row.publishedAt with
  | none => rfl
  | some publishedAt =>
      obtain ⟨publication, called, confirmed, carried⟩ :=
        delivered row there (by simp [published])
      have silent := List.all_eq_true.mp waiting publication called
      have same : publication.message.eventId = event.eventId := by
        rw [carried]
        exact own
      simp [confirmed, same] at silent

/-- So there are at least as many pending rows as unconfirmed events. -/
theorem unconfirmed_le_pending (accounted : Accounted database)
    (delivered : ∀ row ∈ database.outboxEvents, row.publishedAt ≠ none →
      ∃ publication ∈ publications, publication.confirmed = true ∧
        publication.message = SQLAlchemyOutboxRepository.message row) :
    (database.shipmentEvents.filter (unconfirmed publications)).length ≤
      (pending database).length := by
  have distinct : ((database.shipmentEvents.filter (unconfirmed publications)).map
      ShipmentEventModel.eventId).Nodup :=
    accounted.eventKeys.sublist (List.filter_sublist.map _)
  have contained : (database.shipmentEvents.filter (unconfirmed publications)).map
      ShipmentEventModel.eventId ⊆ (pending database).map OutboxEventModel.eventId := by
    intro eventId member
    obtain ⟨event, selected, rfl⟩ := List.mem_map.mp member
    obtain ⟨recorded, waiting⟩ := List.mem_filter.mp selected
    obtain ⟨row, there, own⟩ := pending_of_unconfirmed accounted delivered recorded waiting
    exact own ▸ List.mem_map_of_mem there
  have shorter := (distinct.subperm contained).length_le
  rwa [List.length_map, List.length_map] at shorter

end Tables

/-- The gauges of a successful collection in any reachable state, among any traffic, any
faults and crashes.  What is not pending has been committed as published; the pending
gauge counts at least the recorded events for which no call of the publisher has returned;
each of them has a pending row, whose age the other gauge does not fall short of; and
nothing pending is no age. -/
theorem backlog_is_not_understated (server : Server) (requests : ProcessId → Request)
    {state : PlatformState} (reached : (platform server requests).Reachable {} state)
    (now : DateTime) :
    ∃ (count : Nat) (age : Json),
      collect server.postgres (.ok (backlog server.postgres state.world.database)) now =
        .ok [collectionSuccess 1, pendingGauge count, ageGauge age] ∧
      count + state.world.wal.countP (Relay.settles true) =
        state.world.database.shipmentEvents.length ∧
      (state.world.database.shipmentEvents.filter
        (unconfirmed state.world.publications)).length ≤ count ∧
      (∀ event ∈ state.world.database.shipmentEvents,
        unconfirmed state.world.publications event = true →
        ∃ row ∈ state.world.database.outboxEvents, row.eventId = event.eventId ∧
          row.publishedAt = none ∧ ∃ oldest ≤ row.createdAt.instant server.postgres.localize,
            age = atLeastZero (now.instant server.postgres.localize - oldest)) ∧
      (count = 0 → age = .int 0) := by
  have keyed : ({} : Database).outboxKeys.Nodup := List.nodup_nil
  have kept := platform_invariant keyed reached
  have tables : state.world.database = replay {} state.world.wal := by
    rw [World.database, kept.start]
  have accounted : Accounted state.world.database := tables ▸ kept.history.accounted
  have delivered : ∀ row ∈ state.world.database.outboxEvents, row.publishedAt ≠ none →
      ∃ publication ∈ state.world.publications, publication.confirmed = true ∧
        publication.message = SQLAlchemyOutboxRepository.message row := by
    intro row member published
    rw [tables] at member
    have found := Database.outbox_of_mem (kept.history.outboxKeys_nodup keyed) member
    obtain ⟨transaction, committed, publication, called, returned, carried⟩ :=
      kept.history.confirmed rfl found published
    rw [← kept.ledger.settled transaction committed, ← kept.ledger.filtered] at called
    exact ⟨publication, List.mem_of_mem_filter called, returned, carried⟩
  refine ⟨(pending state.world.database).length,
    oldestAge server.postgres (backlog server.postgres state.world.database).2 now, rfl, ?_,
    unconfirmed_le_pending accounted delivered, ?_, ?_⟩
  · have total := pending_add_published state.world.database
    have published := Relay.published_total kept.history rfl
    rw [← tables] at published
    have lengths := congrArg List.length accounted.announced
    rw [List.length_map, List.length_map] at lengths
    rw [← published, total, lengths]
  · intro event recorded waiting
    obtain ⟨row, waits, own⟩ := pending_of_unconfirmed accounted delivered recorded waiting
    obtain ⟨oldest, least, before⟩ := oldest_le server.postgres waits
    obtain ⟨there, unpublished⟩ := List.mem_filter.mp waits
    refine ⟨row, there, own, Option.isNone_iff_eq_none.mp unpublished, _, before, ?_⟩
    rw [least]
    rfl
  · intro empty
    have none : pending state.world.database = [] := List.eq_nil_of_length_eq_zero empty
    rw [backlog, none]
    rfl

theorem journeySchedule_backlog :
    (((platform Server.utc journey).run journeySchedule
      ((platform Server.utc journey).initial {})).map fun state =>
        (state.world.wal.countP (Relay.settles true),
          state.world.database.shipmentEvents.length,
          (state.world.database.shipmentEvents.filter
            (unconfirmed state.world.publications)).length)) = some (1, 3, 1) := by
  decide +kernel

/-- At the end of the journey one of three rows is published, and another one's publication
has been confirmed for a relay that was killed. -/
theorem journey_backlog :
    ∃ state : PlatformState, (platform Server.utc journey).Reachable {} state ∧
      (state.world.database.shipmentEvents.filter
        (unconfirmed state.world.publications)).length = 1 ∧
      ∃ age, collect .utc (.ok (backlog .utc state.world.database)) (.utc 50) =
        .ok [collectionSuccess 1, pendingGauge 2, ageGauge age] := by
  obtain ⟨state, ran, shown⟩ := Option.map_eq_some_iff.mp journeySchedule_backlog
  simp only [Prod.mk.injEq] at shown
  obtain ⟨published, recorded, waiting⟩ := shown
  have reached : (platform Server.utc journey).Reachable {} state := ⟨journeySchedule, ran⟩
  obtain ⟨count, age, collected, total, -⟩ :=
    backlog_is_not_understated Server.utc journey reached (.utc 50)
  have two : count = 2 := by omega
  rw [two] at collected
  exact ⟨state, reached, waiting, age, collected⟩

end OutboxBacklogCollector

end Freight
