/-
Module: Freight.Proofs.ProjectionReplay
Purpose: The committed projection of a shipment is the fold of the events that
  were recorded as applied, as long as no two receptions of it overlap.
Trusted boundary: none
Main exports:
  applyEvent, appliedEvents, Projects, Transaction.records, NonOverlapping,
  Projects.handled, Chapter, Effect.chapter, History.replayed, projection_is_replay
-/
import Freight.Proofs.Timelines
import Freight.Store.Columns

namespace Freight

open Interaction (ProcessId)

/-! ## The fold -/

/-- Apply one recorded event: overwrite the coordinates, or take the state
machine's transition; `none` where it has none. -/
def applyEvent (shipment : Shipment) (event : ShipmentEvent) : Option Shipment :=
  if event.eventType = .locationUpdated then
    (LocationUpdatedPayload.ofDict event.payload.plain).map fun payload =>
      shipment.updateLocation payload event.occurredAt
  else
    match shipment.changeStatus event.eventType event.occurredAt with
    | (.ok _, after) => some after
    | (.error _, _) => none

/-- The recorded events of a shipment that were applied, in the order of their
recording, without its creation. -/
def appliedEvents (database : Database) (id : UUID) : List ShipmentEvent :=
  (database.shipmentEvents.filter fun row =>
    row.shipmentId = id ∧ row.processingStatus = .applied ∧
      row.eventType ≠ .shipmentCreated).map EventMapper.toDomain

/-- The shipment as `Shipment.create` makes it. -/
def ShipmentModel.created (row : ShipmentModel) : Shipment :=
  Shipment.create row.id row.referenceNumber row.origin row.destination row.carrier
    row.createdAt

/-- A row holds the projection of a shipment.  A coordinate is what its column
hands back for the value of the event, up to what Python's `==` tells apart. -/
structure Projects (postgres : Postgres) (row : ShipmentModel) (shipment : Shipment) :
    Prop where
  status : row.status = shipment.status
  lastLifecycleAt : row.lastLifecycleAt = shipment.lastLifecycleAt
  lastLocationAt : row.lastLocationAt = shipment.lastLocationAt
  updatedAt : row.updatedAt = shipment.updatedAt
  currentLatitude : row.currentLatitude.Same (postgres.float8 shipment.currentLatitude)
  currentLongitude : row.currentLongitude.Same (postgres.float8 shipment.currentLongitude)

/-! ## One reception -/

/-- The payload that the handler has accepted can be read back from the record. -/
theorem ofDict_plain {payload : Payload} {location : LocationUpdatedPayload}
    (decoded : ShipmentEventHandler.locationPayload payload = .ok location) :
    LocationUpdatedPayload.ofDict payload.plain = some location := by
  cases payload with
  | location value =>
      cases decoded
      simp [Payload.plain, LocationUpdatedPayload.asdict, LocationUpdatedPayload.ofDict,
        List.lookup_cons]
  | json value =>
      simp only [ShipmentEventHandler.locationPayload] at decoded
      split at decoded
      · split at decoded
        · rename_i found
          cases decoded
          exact found
        · cases decoded
      · cases decoded

section Receptions

variable {postgres : Postgres} {reception : Reception} {shipment : Shipment}

/-- The row after the projection of a reception, whether or not a column has
changed. -/
def Reception.projected (reception : Reception) (postgres : Postgres) : ShipmentModel :=
  (postgres.shipmentPatch reception.patch).applyTo reception.row

/-- The recorded event, as the repository reads it. -/
def Reception.stored (reception : Reception) (postgres : Postgres) : ShipmentEvent :=
  EventMapper.toDomain (reception.eventRow postgres)

@[simp] theorem Reception.stored_eventType :
    (reception.stored postgres).eventType = reception.event.eventType := rfl

@[simp] theorem Reception.stored_occurredAt :
    (reception.stored postgres).occurredAt =
      postgres.timestamptz reception.event.occurredAt := rfl

@[simp] theorem Reception.stored_plain :
    (reception.stored postgres).payload.plain = reception.event.payload.plain := rfl

/-- What the projection writes: the attributes that the handler has assigned, and
the stored coordinates where it has assigned none. -/
structure Reception.Projection (reception : Reception) (postgres : Postgres) : Prop where
  written : Written postgres (reception.projected postgres)
    (ShipmentMapper.toModel reception.after)
  stored : (reception.projected postgres).Stored postgres
  latitude : reception.after.currentLatitude = reception.row.currentLatitude →
    (reception.projected postgres).currentLatitude = reception.row.currentLatitude
  longitude : reception.after.currentLongitude = reception.row.currentLongitude →
    (reception.projected postgres).currentLongitude = reception.row.currentLongitude

theorem Reception.projection_of_handled (unmoved : reception.Unmoved)
    (stored : reception.row.Stored postgres)
    (handled : ShipmentEventHandler.handle (ShipmentMapper.toDomain reception.row)
      reception.event = (.ok reception.status, reception.after)) :
    reception.Projection postgres := by
  have same : reception.row.id = reception.after.id :=
    (ShipmentEventHandler.handle_id handled).symm
  have columns := ShipmentModel.stored_iff.mp stored
  refine ⟨?_, stored.applyTo _, ?_, ?_⟩
  · rw [Reception.projected, unmoved.patch]
    exact written_of_patch stored same
  · intro unassigned
    have kept := coordinate_column_self columns.currentLatitude
    rw [← unassigned] at kept ⊢
    simpa [Reception.projected, unmoved.patch, ShipmentPatch.applyTo,
      Postgres.shipmentPatch, ShipmentPatch.between, ShipmentMapper.toModel, unassigned]
      using kept
  · intro unassigned
    have kept := coordinate_column_self columns.currentLongitude
    rw [← unassigned] at kept ⊢
    simpa [Reception.projected, unmoved.patch, ShipmentPatch.applyTo,
      Postgres.shipmentPatch, ShipmentPatch.between, ShipmentMapper.toModel, unassigned]
      using kept

/-- A reception that leaves the shipment as it was projects what was projected
before. -/
theorem Projects.unchanged (projects : Projects postgres reception.row shipment)
    (stored : reception.row.Stored postgres) (projection : reception.Projection postgres)
    (same : reception.after = ShipmentMapper.toDomain reception.row) :
    Projects postgres (reception.projected postgres) shipment := by
  obtain ⟨written, -, latitude, longitude⟩ := projection
  have columns := ShipmentModel.stored_iff.mp stored
  rw [same, ShipmentMapper.toModel_toDomain] at written
  exact
    { status := written.status.trans projects.status
      lastLifecycleAt :=
        (written.lastLifecycleAt.trans columns.lastLifecycleAt).trans projects.lastLifecycleAt
      lastLocationAt :=
        (written.lastLocationAt.trans columns.lastLocationAt).trans projects.lastLocationAt
      updatedAt := (written.updatedAt.trans columns.updatedAt).trans projects.updatedAt
      currentLatitude := by
        rw [latitude (by rw [same]; rfl)]
        exact projects.currentLatitude
      currentLongitude := by
        rw [longitude (by rw [same]; rfl)]
        exact projects.currentLongitude }

/-- Step lemma: an applied event takes the projected shipment to the projected
row; a late one leaves both alone. -/
theorem Projects.handled (projects : Projects postgres reception.row shipment)
    (unmoved : reception.Unmoved) (stored : reception.row.Stored postgres)
    (handled : ShipmentEventHandler.handle (ShipmentMapper.toDomain reception.row)
      reception.event = (.ok reception.status, reception.after)) :
    (reception.status = .applied ∧
        ∃ next, applyEvent shipment (reception.stored postgres) = some next ∧
          Projects postgres (reception.projected postgres) next) ∨
      (reception.status = .storedOutOfOrder ∧
        Projects postgres (reception.projected postgres) shipment) := by
  have projection := Reception.projection_of_handled unmoved stored handled
  have columns := ShipmentModel.stored_iff.mp stored
  obtain ⟨-, -, ⟨located, payload, decoded, ⟨late, same, -⟩ | ⟨applied, moved, -⟩⟩ |
    ⟨unlocated, ⟨late, same, -⟩ | ⟨applied, -, next, edge, moved⟩⟩⟩ :=
      ShipmentEventHandler.handle_cases handled
  · exact .inr ⟨late, projects.unchanged stored projection same⟩
  · obtain ⟨written, -, latitude, longitude⟩ := projection
    rw [moved] at written
    refine .inl ⟨applied, shipment.updateLocation payload
      (postgres.timestamptz reception.event.occurredAt), ?_, ?_⟩
    · simp [applyEvent, located, ofDict_plain decoded]
    · exact
        { status := written.status.trans projects.status
          lastLifecycleAt :=
            (written.lastLifecycleAt.trans columns.lastLifecycleAt).trans
              projects.lastLifecycleAt
          lastLocationAt := written.lastLocationAt
          updatedAt := written.updatedAt
          currentLatitude := written.currentLatitude
          currentLongitude := written.currentLongitude }
  · exact .inr ⟨late, projects.unchanged stored projection same⟩
  · obtain ⟨written, -, latitude, longitude⟩ := projection
    rw [moved] at written
    have transition : ShipmentStateMachine.transition shipment.status
        reception.event.eventType = .ok next :=
      ShipmentStateMachine.transition_ok_iff.mpr (projects.status ▸ edge)
    refine .inl ⟨applied,
      { shipment with
        status := next
        updatedAt := postgres.timestamptz reception.event.occurredAt
        lastLifecycleAt := some (postgres.timestamptz reception.event.occurredAt) }, ?_, ?_⟩
    · simp [applyEvent, unlocated, Shipment.changeStatus, transition]
    · exact
        { status := written.status
          lastLifecycleAt := written.lastLifecycleAt
          lastLocationAt :=
            (written.lastLocationAt.trans columns.lastLocationAt).trans
              projects.lastLocationAt
          updatedAt := written.updatedAt
          currentLatitude := by
            rw [latitude (by rw [moved]; rfl)]
            exact projects.currentLatitude
          currentLongitude := by
            rw [longitude (by rw [moved]; rfl)]
            exact projects.currentLongitude }

/-- A projection keeps what `Shipment.create` was given. -/
theorem Reception.projected_created (unmoved : reception.Unmoved)
    (stored : reception.row.Stored postgres)
    (handled : ShipmentEventHandler.handle (ShipmentMapper.toDomain reception.row)
      reception.event = (.ok reception.status, reception.after)) :
    (reception.projected postgres).created = reception.row.created := by
  obtain ⟨written, -, -, -⟩ := Reception.projection_of_handled unmoved stored handled
  have columns := ShipmentModel.stored_iff.mp stored
  have same : (ShipmentMapper.toModel reception.after).created = reception.row.created := by
    obtain ⟨-, -, ⟨-, payload, -, ⟨-, equality, -⟩ | ⟨-, equality, -⟩⟩ |
      ⟨-, ⟨-, equality, -⟩ | ⟨-, -, next, -, equality⟩⟩⟩ :=
        ShipmentEventHandler.handle_cases handled <;> rw [equality] <;> rfl
  have createdAt : reception.after.createdAt = reception.row.createdAt :=
    congrArg Shipment.createdAt same
  rw [← same, ShipmentModel.created, ShipmentModel.created, written.id,
    written.referenceNumber, written.origin, written.destination, written.carrier,
    written.createdAt]
  simp only [ShipmentMapper.toModel, createdAt, columns.createdAt]

end Receptions

/-! ## Runs -/

/-- Whether a transaction records an event of the shipment. -/
def Transaction.records (transaction : Transaction) (id : UUID) : Bool :=
  transaction.writes.any fun
    | .insertEvent row => row.shipmentId = id
    | _ => false

/-- A stretch of the log that records nothing about the shipment. -/
def Unrecorded (wal : List Transaction) (id : UUID) (first second : Nat) : Prop :=
  ∀ index < second, first ≤ index → ∀ transaction ∈ wal[index]?,
    transaction.records id = false

/-- No two receptions of the shipment overlap: nothing is recorded about it
between the moment at which a recording transaction reads the projection and the
moment at which it commits. -/
def NonOverlapping (wal : List Transaction) (id : UUID) : Prop :=
  ∀ index < wal.length, ∀ transaction ∈ wal[index]?, transaction.records id = true →
    ∀ entry ∈ transaction.selected, Unrecorded wal id entry.1 index

instance (wal : List Transaction) (id : UUID) (first second : Nat) :
    Decidable (Unrecorded wal id first second) :=
  inferInstanceAs (Decidable (∀ index < second, first ≤ index →
    ∀ transaction ∈ wal[index]?, transaction.records id = false))

instance (wal : List Transaction) (id : UUID) : Decidable (NonOverlapping wal id) :=
  inferInstanceAs (Decidable (∀ index < wal.length, ∀ transaction ∈ wal[index]?,
    transaction.records id = true → ∀ entry ∈ transaction.selected,
      Unrecorded wal id entry.1 index))

/-- No event of a shipment that is not there has been applied; the row of one that
is there is stored and projects the fold of its applied events. -/
structure Replayed (postgres : Postgres) (database : Database) (id : UUID) : Prop where
  absent : database.shipment id = none → appliedEvents database id = []
  stored : ∀ row, database.shipment id = some row → row.Stored postgres
  folded : ∀ row, database.shipment id = some row → ∃ shipment,
    (appliedEvents database id).foldlM applyEvent row.created = some shipment ∧
      Projects postgres row shipment

section Runs

variable {server : Server} {base : Database} {quiet : Prop}
  {requests : ProcessId → Request} {wal : List Transaction} {request : Request}
  {transaction : Transaction} {id : UUID}

/-- The applied events after a recording. -/
theorem appliedEvents_snoc (database after : Database) (event : ShipmentEventModel)
    (id : UUID) (events : after.shipmentEvents = database.shipmentEvents ++ [event]) :
    appliedEvents after id = appliedEvents database id ++
      if event.shipmentId = id ∧ event.processingStatus = .applied ∧
          event.eventType ≠ .shipmentCreated then [EventMapper.toDomain event] else [] := by
  rw [appliedEvents, events, List.filter_append, List.map_append]
  congr 1
  by_cases counts : event.shipmentId = id ∧ event.processingStatus = .applied ∧
      event.eventType ≠ .shipmentCreated
  · simp [counts]
  · simp [counts]

/-- A projection updates one shipment and records nothing. -/
theorem Reception.projection_tables (reception : Reception) (postgres : Postgres)
    (database : Database) :
    (∀ id, (database.writeAll (reception.projection postgres)).shipment id =
        if id = reception.row.id then
          (database.shipment id).map (postgres.shipmentPatch reception.patch).applyTo
        else database.shipment id) ∧
      (database.writeAll (reception.projection postgres)).shipmentEvents =
        database.shipmentEvents := by
  rw [reception.writeAll_projection]
  refine ⟨fun id => ?_, rfl⟩
  rw [Database.shipment, Table.lookup_modify (ShipmentPatch.applyTo_id _), Database.shipment]

/-- What an entry of the log means for one shipment: nothing, its creation, or a
reception of it. -/
inductive Chapter (postgres : Postgres) (base : Database) (wal : List Transaction)
    (transaction : Transaction) (after : Database) (id : UUID) : Prop where
  | silent (shipment : after.shipment id = (replay base wal).shipment id)
      (events : appliedEvents after id = appliedEvents (replay base wal) id)
  | created (creation : Creation) (own : creation.id = id)
      (fresh : (replay base wal).shipment id = none)
      (shipment : after.shipment id = some (creation.shipmentRow postgres))
      (events : appliedEvents after id = appliedEvents (replay base wal) id)
  | received (reception : Reception) (records : transaction.records id = true)
      (read : (reception.lsn, reception.row) ∈ transaction.selected)
      (ordered : reception.lsn ≤ wal.length)
      (found : (replay base (wal.take reception.lsn)).shipment id = some reception.row)
      (saved : reception.lsn ≤ reception.saveLsn ∧ reception.saveLsn ≤ wal.length)
      (loaded : (replay base (wal.take reception.saveLsn)).shipment id =
        some reception.loaded)
      (handled : ShipmentEventHandler.handle (ShipmentMapper.toDomain reception.row)
        reception.event = (.ok reception.status, reception.after))
      (shipment : after.shipment id =
        ((replay base wal).shipment id).map (postgres.shipmentPatch reception.patch).applyTo)
      (events : appliedEvents after id = appliedEvents (replay base wal) id ++
        if reception.status = .applied then [reception.stored postgres] else [])

/-- Step lemma: every entry is a chapter of every shipment. -/
theorem Effect.chapter (effect : Effect server base quiet wal request transaction)
    (id : UUID) :
    Chapter server.postgres base wal transaction
      ((replay base wal).writeAll transaction.writes) id := by
  cases effect with
  | nothing writes =>
      rw [writes]
      exact .silent rfl rfl
  | created creation createdAt receivedAt freshShipment freshEvent freshOutbox writes =>
      rw [writes]
      have events := appliedEvents_snoc (replay base wal)
        ((replay base wal).writeAll (creation.writes server.postgres))
        (creation.eventRow server.postgres) id rfl
      rw [if_neg (by rintro ⟨-, -, other⟩; exact other rfl), List.append_nil] at events
      have row : (creation.shipmentRow server.postgres).id = creation.id := rfl
      by_cases own : creation.id = id
      · subst own
        refine .created creation rfl freshShipment ?_ events
        simp [Creation.writes, freshShipment, row]
      · exact .silent (by simp [Creation.writes, row, own]) events
  | received reception reports lsn current found saved loaded identity handled payload
      reads freshEvent freshOutbox writes =>
      have read := Reception.selected reads
      obtain ⟨shipments, events⟩ := reception.projection_tables server.postgres
        (((replay base wal).write (.insertEvent (reception.eventRow server.postgres))).write
          (.insertOutbox (reception.outboxRow server.postgres)))
      have recorded := appliedEvents_snoc (replay base wal)
        ((replay base wal).writeAll (reception.writes server.postgres))
        (reception.eventRow server.postgres) id
        (by rw [Reception.writes, Database.writeAll_append]; exact events)
      obtain ⟨house, received, -⟩ := ShipmentEventHandler.handle_cases handled
      have columns : (reception.eventRow server.postgres).shipmentId =
            reception.event.shipmentId ∧
          (reception.eventRow server.postgres).processingStatus = reception.status ∧
          (reception.eventRow server.postgres).eventType = reception.event.eventType :=
        ⟨rfl, rfl, rfl⟩
      rw [writes]
      by_cases own : reception.event.shipmentId = id
      · refine .received reception ?_ read lsn (own ▸ found) saved (own ▸ loaded) handled ?_ ?_
        · rw [Transaction.records, writes]
          simp [Reception.writes, columns, own]
        · have shipment := shipments id
          rw [if_pos (own ▸ house)] at shipment
          rw [Reception.writes, Database.writeAll_append]
          exact shipment
        · rw [recorded, columns.1, columns.2.1, columns.2.2]
          simp only [own, received, true_and, not_false_eq_true, and_true, ne_eq]
          rfl
      · refine .silent ?_ ?_
        · have shipment := shipments id
          rw [if_neg (fun same => own (house.trans same.symm))] at shipment
          rw [Reception.writes, Database.writeAll_append]
          exact shipment
        · rw [recorded, columns.1, if_neg (fun counts => own counts.1), List.append_nil]
  | attempted attempt locked pending confirmed writes =>
      rw [writes]
      exact .silent (by simp [Attempt.writes]) rfl

/-- A shipment that nothing is recorded about keeps its row. -/
theorem History.shipment_unrecorded (history : History server base quiet requests wal)
    {first second : Nat} (ordered : first ≤ second)
    (silent : Unrecorded wal id first second) {row : ShipmentModel}
    (found : (replay base (wal.take first)).shipment id = some row) :
    (replay base (wal.take second)).shipment id = some row := by
  have present : ((replay base (wal.take second)).shipment id).isSome :=
    replay_shipment_take_mono ordered (by rw [found]; rfl)
  obtain ⟨after, left⟩ := Option.isSome_iff_exists.mp present
  have same : after = row := by
    refine replay_shipment_induction (fun before after => after = before) ordered
      (fun _ => rfl) (fun _ _ _ one two => two.trans one) ?_ row after found left
    intro index low high transaction entry before after foundBefore foundAfter
    rw [replay_take_succ base entry] at foundAfter
    cases (history.effect_of_getElem entry).chapter id with
    | silent shipment =>
        rw [foundAfter, foundBefore] at shipment
        exact Option.some.inj shipment
    | created creation own fresh =>
        rw [foundBefore] at fresh
        cases fresh
    | received reception records =>
        rw [silent index high low transaction entry] at records
        cases records
  rw [left, same]

/-- Step lemma: an entry that overlaps no other reception of the shipment keeps the
row and the fold together. -/
theorem Chapter.replayed {postgres : Postgres} {after : Database}
    (chapter : Chapter postgres base wal transaction after id)
    (kept : Replayed postgres (replay base wal) id)
    (current : ∀ lsn read, transaction.records id = true →
      (lsn, read) ∈ transaction.selected → ∀ point row, lsn ≤ point → point ≤ wal.length →
      (replay base (wal.take point)).shipment id = some row →
        (replay base wal).shipment id = some row) :
    Replayed postgres after id := by
  cases chapter with
  | silent shipment events =>
      obtain ⟨absent, stored, folded⟩ := kept
      rw [← shipment, ← events] at absent
      rw [← shipment] at stored
      rw [← shipment, ← events] at folded
      exact ⟨absent, stored, folded⟩
  | created creation own fresh shipment events =>
      rw [kept.absent fresh] at events
      refine ⟨fun _ => events, ?_, ?_⟩
      · intro row found
        cases shipment.symm.trans found
        exact ShipmentModel.stored_shipmentRow _
      · intro row found
        cases shipment.symm.trans found
        rw [events]
        refine ⟨_, rfl, ?_⟩
        exact
          { status := rfl
            lastLifecycleAt := rfl
            lastLocationAt := rfl
            updatedAt := rfl
            currentLatitude := .refl _
            currentLongitude := .refl _ }
  | received reception records read ordered found saved loaded handled shipment events =>
      have before := current _ _ records read _ _ (Nat.le_refl _) ordered found
      have again := current _ _ records read _ _ saved.1 saved.2 loaded
      have unmoved : reception.Unmoved := Option.some.inj (again.symm.trans before)
      have stored := kept.stored _ before
      rw [before, Option.map_some] at shipment
      obtain ⟨folded, fold, projects⟩ := kept.folded _ before
      have projection := Reception.projection_of_handled unmoved stored handled
      refine ⟨fun absent => ?_, ?_, ?_⟩
      · rw [shipment] at absent
        cases absent
      · intro row left
        cases shipment.symm.trans left
        exact projection.stored
      · intro row left
        cases shipment.symm.trans left
        have created : (reception.projected postgres).created = reception.row.created :=
          Reception.projected_created unmoved stored handled
        rw [← created] at fold
        rw [events]
        rcases projects.handled unmoved stored handled with ⟨applied, next, step, moved⟩ |
          ⟨late, still⟩
        · refine ⟨next, ?_, moved⟩
          have all : (appliedEvents (replay base wal) id ++ [reception.stored postgres]).foldlM
              applyEvent (reception.projected postgres).created = some next := by
            rw [List.foldlM_append, fold]
            simp [step]
          rwa [if_pos applied]
        · have unapplied : ¬ reception.status = .applied := by
            rw [late]
            decide
          rw [if_neg unapplied, List.append_nil]
          exact ⟨folded, fold, still⟩

/-- Run lemma: from empty tables, the row of a shipment whose receptions do not
overlap stays the fold of its applied events. -/
theorem History.replayed (history : History server {} quiet requests wal)
    (apart : NonOverlapping wal id) : Replayed server.postgres (replay {} wal) id := by
  induction history with
  | start =>
      refine ⟨fun _ => rfl, ?_, ?_⟩ <;>
        (intro row found; cases found)
  | @commit wal transaction earlier effect first inductionHypothesis =>
      have inside : ∀ {index : Nat} {entry : Transaction}, wal[index]? = some entry →
          (wal ++ [transaction])[index]? = some entry := fun found => by
        rw [List.getElem?_append_left (List.getElem?_eq_some_iff.mp found).1, found]
      rw [replay_snoc]
      refine (effect.chapter id).replayed (inductionHypothesis ?_) ?_
      · intro index bound entry found records read selected before low high other present
        exact apart index (by simp; omega) entry (inside found) records read selected before
          low high other (inside present)
      · intro lsn read records selected point row later ordered found
        rw [← wal.take_length]
        refine earlier.shipment_unrecorded ordered ?_ found
        intro index high low entry present
        exact apart wal.length (by simp) transaction (by simp) records _ selected index high
          (Nat.le_trans later low) entry (inside present)

end Runs

/-- From empty tables, under any interleaving of any requests in which no two
receptions of a shipment overlap, the events of the shipment that were recorded as
applied, folded in the order of their recording over the shipment as it was
created, never meet a transition that is not defined, and yield the committed
projection. -/
theorem projection_is_replay (server : Server) (requests : ProcessId → Request)
    (state : PlatformState) (reached : (platform server requests).Reachable {} state)
    (id : UUID) (apart : NonOverlapping state.world.wal id) (row : ShipmentModel)
    (found : state.world.database.shipment id = some row) :
    ∃ shipment,
      (appliedEvents state.world.database id).foldlM applyEvent row.created =
          some shipment ∧
        Projects server.postgres row shipment := by
  have keyed : ({} : Database).outboxKeys.Nodup := List.nodup_nil
  have kept : Invariant server {} False requests state.world :=
    platform_invariant keyed reached
  rw [World.database, kept.start] at found ⊢
  exact (kept.history.replayed apart).folded row found

/-- No two receptions of the journey overlap. -/
theorem journeySchedule_nonOverlapping :
    (((platform Server.utc journey).run journeySchedule
      ((platform Server.utc journey).initial {})).map fun state =>
        (decide (NonOverlapping state.world.wal parcel),
          (state.world.database.shipment parcel).map ShipmentModel.status,
          (appliedEvents state.world.database parcel).map ShipmentEvent.eventType)) =
      some (true, some .scheduled, [.pickupScheduled, .locationUpdated]) := by
  decide +kernel

/-- The projection at the end of the journey. -/
theorem journey_projection_is_replay :
    ∃ (state : PlatformState) (row : ShipmentModel) (shipment : Shipment),
      (platform Server.utc journey).Reachable {} state ∧
      state.world.database.shipment parcel = some row ∧ row.status = .scheduled ∧
      (appliedEvents state.world.database parcel).foldlM applyEvent row.created =
        some shipment ∧
      Projects .utc row shipment := by
  obtain ⟨state, ran, shown⟩ := Option.map_eq_some_iff.mp journeySchedule_nonOverlapping
  obtain ⟨apart, rest⟩ := Prod.mk.inj shown
  obtain ⟨row, found, status⟩ := Option.map_eq_some_iff.mp (Prod.mk.inj rest).1
  have reached : (platform Server.utc journey).Reachable {} state := ⟨journeySchedule, ran⟩
  obtain ⟨shipment, fold, projects⟩ := projection_is_replay Server.utc journey state reached
    parcel (of_decide_eq_true apart) row found
  exact ⟨state, row, shipment, reached, found, status, fold, projects⟩

/-- A creation, and a location whose latitude is no binary64 number. -/
def roundedLocation : ProcessId → Request
  | 0 => journey 0
  | _ =>
      .receiveEvent none
        { report 7 .locationUpdated 20 with
          payload := [("latitude", .int 9007199254740993), ("longitude", .int 8)] }

theorem roundedLocation_runs :
    (((platform Server.rounding roundedLocation).run
        (createTurns 0 ++ lookUp 1 ++ recordRest 1 100)
      ((platform Server.rounding roundedLocation).initial {})).map fun state =>
        (decide (NonOverlapping state.world.wal parcel),
          (state.world.database.shipment parcel).map fun row =>
            (row.currentLatitude,
              ((appliedEvents state.world.database parcel).foldlM applyEvent
                row.created).map Shipment.currentLatitude))) =
      some (true, some (.float (.finite false 4503599627370496 1),
        some (.int 9007199254740993))) := by
  decide +kernel

/-- The persisted coordinates are not always the folded ones: a column of floats does not
hold every integer that the handler accepts. -/
theorem latitude_not_as_folded :
    ¬ ∀ (server : Server) (requests : ProcessId → Request) (state : PlatformState),
        (platform server requests).Reachable {} state →
        ∀ id, NonOverlapping state.world.wal id →
        ∀ row, state.world.database.shipment id = some row →
        ∃ shipment,
          (appliedEvents state.world.database id).foldlM applyEvent row.created =
              some shipment ∧
            row.currentLatitude.Same shipment.currentLatitude := by
  intro exact
  obtain ⟨state, ran, shown⟩ := Option.map_eq_some_iff.mp roundedLocation_runs
  obtain ⟨apart, rest⟩ := Prod.mk.inj shown
  obtain ⟨row, found, latitudes⟩ := Option.map_eq_some_iff.mp rest
  obtain ⟨stored, folded⟩ := Prod.mk.inj latitudes
  obtain ⟨shipment, fold, same⟩ := exact Server.rounding roundedLocation state ⟨_, ran⟩ parcel
    (of_decide_eq_true apart) row found
  rw [fold, Option.map_some, Option.some.injEq] at folded
  rw [stored, folded] at same
  rcases same with identical | equal
  · cases identical
  · revert equal
    decide

end Freight
