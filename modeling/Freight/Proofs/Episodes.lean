/-
Module: Freight.Proofs.Episodes
Purpose: The life of one shipment whose receptions do not overlap, told commit by
  commit: each is nothing to it, its creation, or a reception that was handled
  against the row of the moment.
Trusted boundary: none
Main exports:
  Database.history, Episode, NonOverlapping.take, History.episode,
  History.sequential_induction
-/
import Freight.Proofs.ProjectionReplay

namespace Freight

open Interaction (ProcessId)

/-- The recorded events of a shipment, in the order of their recording. -/
def Database.history (database : Database) (id : UUID) : List ShipmentEventModel :=
  database.shipmentEvents.filter fun row => row.shipmentId = id

theorem Database.history_snoc (database after : Database) (event : ShipmentEventModel)
    (id : UUID) (events : after.shipmentEvents = database.shipmentEvents ++ [event]) :
    after.history id = database.history id ++ if event.shipmentId = id then [event] else [] := by
  rw [Database.history, events, List.filter_append]
  by_cases own : event.shipmentId = id <;> simp [own, Database.history]

theorem Database.event_snoc {database after : Database} {row : ShipmentEventModel}
    (events : after.shipmentEvents = database.shipmentEvents ++ [row]) (eventId : UUID) :
    after.event eventId =
      (database.event eventId).or (if row.eventId = eventId then some row else none) := by
  rw [Database.event, events, Table.lookup_append, Table.lookup_singleton, Database.event]

/-- The tables after a reception: a shipment patched, and one more event. -/
theorem Reception.tables (reception : Reception) (postgres : Postgres) (database : Database) :
    (∀ id, (database.writeAll (reception.writes postgres)).shipment id =
        if id = reception.row.id then
          (database.shipment id).map (postgres.shipmentPatch reception.patch).applyTo
        else database.shipment id) ∧
      (database.writeAll (reception.writes postgres)).shipmentEvents =
        database.shipmentEvents ++ [reception.eventRow postgres] := by
  obtain ⟨shipments, events⟩ := reception.projection_tables postgres
    (database.writeAll [.insertEvent (reception.eventRow postgres),
      .insertOutbox (reception.outboxRow postgres)])
  rw [Reception.writes, Database.writeAll_append]
  exact ⟨shipments, events⟩

/-- The row of a shipment after a reception that has read it as it was. -/
theorem Reception.shipment_projected (reception : Reception) (postgres : Postgres)
    {database : Database} (found : database.shipment reception.row.id = some reception.row) :
    (database.writeAll (reception.writes postgres)).shipment reception.row.id =
      some (reception.projected postgres) := by
  rw [(reception.tables postgres database).1, if_pos rfl, found]
  rfl

/-- The commit of a request, seen from a shipment about which nothing is recorded
between the moment at which the request reads it and the commit. -/
inductive Episode (postgres : Postgres) (request : Request) (id : UUID)
    (before after : Database) : Prop where
  | silent (shipment : after.shipment id = before.shipment id)
      (events : after.history id = before.history id)
  | created (creation : Creation) (own : creation.id = id)
      (fresh : before.shipment id = none)
      (shipment : after.shipment id = some (creation.shipmentRow postgres))
      (events : after.history id = before.history id ++ [creation.eventRow postgres])
  | received (reception : Reception)
      (reports : request.Reports reception.correlationId reception.event)
      (own : reception.event.shipmentId = id)
      (found : before.shipment id = some reception.row)
      (unmoved : reception.Unmoved)
      (handled : ShipmentEventHandler.handle (ShipmentMapper.toDomain reception.row)
        reception.event = (.ok reception.status, reception.after))
      (unrecorded : before.event reception.event.eventId = none)
      (shipment : after.shipment id = some (reception.projected postgres))
      (events : after.history id = before.history id ++ [reception.eventRow postgres])

/-- A reception is an episode of a shipment, of its own if it has read the row of the
moment, both times. -/
theorem Reception.episode (reception : Reception) {postgres : Postgres} {request : Request}
    {database : Database} {id : UUID}
    (reports : request.Reports reception.correlationId reception.event)
    (found : reception.event.shipmentId = id →
      database.shipment id = some reception.row ∧ reception.Unmoved)
    (handled : ShipmentEventHandler.handle (ShipmentMapper.toDomain reception.row)
      reception.event = (.ok reception.status, reception.after))
    (unrecorded : database.event reception.event.eventId = none) :
    Episode postgres request id database (database.writeAll (reception.writes postgres)) := by
  obtain ⟨shipments, recorded⟩ := reception.tables postgres database
  have events := Database.history_snoc database
    (database.writeAll (reception.writes postgres)) (reception.eventRow postgres) id recorded
  have house : (reception.eventRow postgres).shipmentId = reception.event.shipmentId := rfl
  have same : reception.event.shipmentId = reception.row.id :=
    (ShipmentEventHandler.handle_cases handled).1
  rw [house] at events
  by_cases own : reception.event.shipmentId = id
  · subst own
    rw [if_pos rfl] at events
    obtain ⟨present, unmoved⟩ := found rfl
    refine .received reception reports rfl present unmoved handled unrecorded ?_ events
    rw [same] at present ⊢
    exact reception.shipment_projected postgres present
  · rw [if_neg own, List.append_nil] at events
    refine .silent ?_ events
    rw [shipments, if_neg fun row => own (same.trans row.symm)]

section Runs

variable {server : Server} {base : Database} {quiet : Prop}
  {requests : ProcessId → Request} {wal : List Transaction} {request : Request}
  {transaction : Transaction} {id : UUID}

/-- Step lemma: a commit whose reception of the shipment has read the row of the
moment is an episode. -/
theorem Effect.episode (effect : Effect server base quiet wal request transaction)
    (current : ∀ lsn read, transaction.records id = true →
      (lsn, read) ∈ transaction.selected → ∀ point row, lsn ≤ point → point ≤ wal.length →
      (replay base (wal.take point)).shipment id = some row →
        (replay base wal).shipment id = some row) :
    Episode server.postgres request id (replay base wal)
      ((replay base wal).writeAll transaction.writes) := by
  cases effect with
  | nothing writes =>
      rw [writes]
      exact .silent rfl rfl
  | created creation createdAt receivedAt freshShipment freshEvent freshOutbox writes =>
      rw [writes]
      have events := Database.history_snoc (replay base wal)
        ((replay base wal).writeAll (creation.writes server.postgres))
        (creation.eventRow server.postgres) id rfl
      have house : (creation.eventRow server.postgres).shipmentId = creation.id := rfl
      have row : (creation.shipmentRow server.postgres).id = creation.id := rfl
      rw [house] at events
      by_cases own : creation.id = id
      · subst own
        rw [if_pos rfl] at events
        refine .created creation rfl freshShipment ?_ events
        simp [Creation.writes, freshShipment, row]
      · rw [if_neg own, List.append_nil] at events
        exact .silent (by simp [Creation.writes, row, own]) events
  | received reception reports lsn _ found saved loaded identity handled payload reads
      freshEvent freshOutbox writes =>
      have read := Reception.selected reads
      rw [writes]
      refine reception.episode reports ?_ handled freshEvent
      intro own
      subst own
      have records : transaction.records reception.event.shipmentId = true := by
        rw [Transaction.records, writes]
        simp [Reception.writes, Reception.eventRow, Postgres.eventRow, EventMapper.toModel,
          Reception.recorded]
      have before := current _ _ records read _ _ (Nat.le_refl _) lsn found
      have again := current _ _ records read _ _ saved.1 saved.2 loaded
      exact ⟨before, Option.some.inj (again.symm.trans before)⟩
  | attempted attempt locked pending confirmed writes =>
      rw [writes]
      exact .silent (by simp [Attempt.writes]) rfl

/-- Receptions that do not overlap in a log do not overlap in a prefix of it. -/
theorem NonOverlapping.take (apart : NonOverlapping wal id) (count : Nat) :
    NonOverlapping (wal.take count) id := by
  have inside : ∀ {index : Nat} {entry : Transaction},
      (wal.take count)[index]? = some entry → wal[index]? = some entry := by
    intro index entry found
    rw [List.getElem?_take] at found
    split at found
    · exact found
    · cases found
  intro index bound entry found records read selected before low high other present
  have shorter : index < wal.length := by
    rw [List.length_take] at bound
    omega
  exact apart index shorter entry (inside found) records read selected before low high other
    (inside present)

namespace History

/-- Every commit of a log without overlapping receptions is an episode. -/
theorem episode (history : History server base quiet requests wal)
    (apart : NonOverlapping wal id) {index : Nat} (found : wal[index]? = some transaction) :
    Episode server.postgres (requests transaction.process) id (replay base (wal.take index))
      (replay base (wal.take (index + 1))) := by
  have bound : index < wal.length := (List.getElem?_eq_some_iff.mp found).1
  rw [replay_take_succ base found]
  refine (history.effect_of_getElem found).episode ?_
  intro lsn read records selected point row later ordered present
  have earlier : point ≤ index := by
    rw [List.length_take] at ordered
    omega
  rw [List.take_take, Nat.min_eq_left earlier] at present
  refine history.shipment_unrecorded earlier ?_ present
  intro place high low
  exact apart index bound transaction found records _ selected place high
    (Nat.le_trans later low)

/-- An induction principle for the life of a shipment: what holds at the start and
is kept by every episode holds at every point of the log. -/
theorem sequential_induction {motive : Database → Prop}
    (history : History server base quiet requests wal) (apart : NonOverlapping wal id)
    (start : motive base)
    (keeps : ∀ process before after, motive before →
      Episode server.postgres (requests process) id before after → motive after)
    (count : Nat) : motive (replay base (wal.take count)) := by
  induction count with
  | zero => exact start
  | succ count inductionHypothesis =>
      cases found : wal[count]? with
      | some transaction =>
          exact keeps transaction.process _ _ inductionHypothesis
            (history.episode apart found)
      | none =>
          have beyond : wal.length ≤ count := List.getElem?_eq_none_iff.mp found
          rw [List.take_of_length_le (Nat.le_succ_of_le beyond)]
          rwa [List.take_of_length_le beyond] at inductionHypothesis

end History

end Runs

end Freight
