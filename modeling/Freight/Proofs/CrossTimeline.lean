/-
Module: Freight.Proofs.CrossTimeline
Purpose: Receptions on the two timelines of a shipment may overlap each other: the
  columns of either timeline end as its own receptions alone leave them, one after the
  other in the order of their commits.
Trusted boundary: none
Main exports:
  ShipmentModel.Agree, ShipmentModel.receive, Transaction.reloaded, Transaction.alone,
  ApartOn, RereadAlike, Passage, Effect.passage, Reception.agree_frame,
  ShipmentModel.Agree.receive, History.alone_agrees, cross_timeline_updates_kept,
  delivery_written_back
-/
import Freight.Proofs.Admission
import Freight.Proofs.Lateness
import Freight.Store.Sequence

namespace Freight

open Interaction (ProcessId)

/-! ## The columns of a timeline -/

/-- Two rows of one shipment hold the same on a timeline. -/
def ShipmentModel.Agree (timeline : Timeline) (first second : ShipmentModel) : Prop :=
  first.id = second.id ∧
    match timeline with
    | .lifecycle =>
        first.status = second.status ∧ first.lastLifecycleAt = second.lastLifecycleAt
    | .location =>
        first.currentLatitude = second.currentLatitude ∧
          first.currentLongitude = second.currentLongitude ∧
          first.lastLocationAt = second.lastLocationAt

namespace ShipmentModel.Agree

variable {timeline : Timeline} {first second third : ShipmentModel}

theorem refl (timeline : Timeline) (row : ShipmentModel) : row.Agree timeline row := by
  cases timeline with
  | lifecycle => exact ⟨rfl, rfl, rfl⟩
  | location => exact ⟨rfl, rfl, rfl, rfl⟩

theorem symm (agree : first.Agree timeline second) : second.Agree timeline first := by
  cases timeline with
  | lifecycle =>
      obtain ⟨id, status, clock⟩ := agree
      exact ⟨id.symm, status.symm, clock.symm⟩
  | location =>
      obtain ⟨id, latitude, longitude, clock⟩ := agree
      exact ⟨id.symm, latitude.symm, longitude.symm, clock.symm⟩

theorem trans (one : first.Agree timeline second) (two : second.Agree timeline third) :
    first.Agree timeline third := by
  cases timeline with
  | lifecycle =>
      obtain ⟨id, status, clock⟩ := one
      obtain ⟨idToo, statusToo, clockToo⟩ := two
      exact ⟨id.trans idToo, status.trans statusToo, clock.trans clockToo⟩
  | location =>
      obtain ⟨id, latitude, longitude, clock⟩ := one
      obtain ⟨idToo, latitudeToo, longitudeToo, clockToo⟩ := two
      exact ⟨id.trans idToo, latitude.trans latitudeToo, longitude.trans longitudeToo,
        clock.trans clockToo⟩

end ShipmentModel.Agree

/-- The coordinates of a loaded row do not differ from themselves, so that an `UPDATE`
does not write them unless they were assigned. -/
def ShipmentModel.Reflexive (row : ShipmentModel) : Prop :=
  row.currentLatitude.eq row.currentLatitude = true ∧
    row.currentLongitude.eq row.currentLongitude = true

/-- The projection that a transaction has read last, which is the one that it saves over,
with the number of transactions that had committed by then. -/
def Transaction.reloaded (transaction : Transaction) : List (Nat × ShipmentModel) :=
  match transaction.reads.head? with
  | some (.shipment lsn (some row)) => [(lsn, row)]
  | _ => []

theorem Reception.reloaded {reception : Reception} {transaction : Transaction}
    (reads : transaction.reads = reception.reads) :
    (reception.saveLsn, reception.loaded) ∈ transaction.reloaded := by
  simp [Transaction.reloaded, reads, Reception.reads]

/-! ## Receptions alone -/

/-- A reception from its beginning to its end: load the row, handle the event, load the
row again, which is still the same, and write the columns that have changed. -/
def ShipmentModel.receive (postgres : Postgres) (event : ShipmentEvent) (row : ShipmentModel) :
    ShipmentModel :=
  match ShipmentEventHandler.handle (ShipmentMapper.toDomain row) event with
  | (.ok _, after) =>
      (postgres.shipmentPatch
        (ShipmentPatch.between row (ShipmentMapper.toModel after))).applyTo row
  | (.error _, _) => row

namespace Transaction

/-- The row of the shipment that a transaction inserts. -/
def inserted (transaction : Transaction) (id : UUID) : Option ShipmentModel :=
  transaction.writes.findSome? fun
    | .insertShipment row => if row.id = id then some row else none
    | _ => none

/-- A transaction records an event of the shipment on the timeline. -/
def recordsOn (transaction : Transaction) (id : UUID) (timeline : Timeline) : Bool :=
  transaction.writes.any fun
    | .insertEvent row => row.shipmentId = id ∧ row.eventType.timeline = some timeline
    | _ => false

/-- An event on a timeline is an event of the shipment. -/
theorem records_of_recordsOn {transaction : Transaction} {id : UUID} {timeline : Timeline}
    (records : transaction.recordsOn id timeline = true) : transaction.records id = true := by
  simp only [recordsOn, Transaction.records, List.any_eq_true] at records ⊢
  obtain ⟨write, member, recorded⟩ := records
  refine ⟨write, member, ?_⟩
  cases write with
  | insertEvent row =>
      simp only [decide_eq_true_eq] at recorded ⊢
      exact recorded.1
  | _ => cases recorded

/-- The part of a transaction in what the receptions on one timeline do to a shipment
without the other ones: its creation, or such a reception of it. -/
def alone (postgres : Postgres) (requests : ProcessId → Request) (id : UUID)
    (timeline : Timeline) (row : Option ShipmentModel) (transaction : Transaction) :
    Option ShipmentModel :=
  match transaction.inserted id, (requests transaction.process).reported with
  | some created, _ => some created
  | none, some event =>
      if transaction.recordsOn id timeline then row.map (ShipmentModel.receive postgres event)
      else row
  | none, none => row

end Transaction

/-- A stretch of the log that records nothing on the timeline of the shipment. -/
def UnrecordedOn (wal : List Transaction) (id : UUID) (timeline : Timeline)
    (first second : Nat) : Prop :=
  ∀ index < second, first ≤ index → ∀ transaction ∈ wal[index]?,
    transaction.recordsOn id timeline = false

/-- No two receptions of the shipment on one timeline overlap: nothing is recorded on it
between the moment at which one reads the projection and the moment at which it commits. -/
def ApartOn (wal : List Transaction) (id : UUID) (timeline : Timeline) : Prop :=
  ∀ index < wal.length, ∀ transaction ∈ wal[index]?,
    transaction.recordsOn id timeline = true → ∀ entry ∈ transaction.selected,
      UnrecordedOn wal id timeline entry.1 index

instance (wal : List Transaction) (id : UUID) (timeline : Timeline) (first second : Nat) :
    Decidable (UnrecordedOn wal id timeline first second) :=
  inferInstanceAs (Decidable (∀ index < second, first ≤ index →
    ∀ transaction ∈ wal[index]?, transaction.recordsOn id timeline = false))

instance (wal : List Transaction) (id : UUID) (timeline : Timeline) :
    Decidable (ApartOn wal id timeline) :=
  inferInstanceAs (Decidable (∀ index < wal.length, ∀ transaction ∈ wal[index]?,
    transaction.recordsOn id timeline = true → ∀ entry ∈ transaction.selected,
      UnrecordedOn wal id timeline entry.1 index))

/-! ## One reception -/

section Receptions

variable {postgres : Postgres} {timeline : Timeline} {event : ShipmentEvent}
  {status : ShipmentEventProcessingStatus} {after : Shipment}
  {row sole current : ShipmentModel}

/-- What the handler makes of an event depends on the columns of its timeline only. -/
theorem ShipmentModel.Agree.handle (agree : row.Agree timeline sole)
    (on : event.eventType.timeline = some timeline)
    (handled : ShipmentEventHandler.handle (ShipmentMapper.toDomain row) event =
      (.ok status, after)) :
    ∃ other, ShipmentEventHandler.handle (ShipmentMapper.toDomain sole) event =
        (.ok status, other) ∧
      (ShipmentMapper.toModel after).Agree timeline (ShipmentMapper.toModel other) := by
  obtain ⟨house, received, cases⟩ := ShipmentEventHandler.handle_cases handled
  cases timeline with
  | lifecycle =>
      obtain ⟨id, sameStatus, sameClock⟩ := agree
      obtain ⟨-, unlocated⟩ := ShipmentEventType.timeline_eq_lifecycle.mp on
      rcases cases with ⟨located, -⟩ | ⟨-, ⟨rfl, rfl, late⟩ | ⟨rfl, late, next, edge, rfl⟩⟩
      · exact absurd located unlocated
      · refine ⟨ShipmentMapper.toDomain sole, ?_, id, sameStatus, sameClock⟩
        simp only [ShipmentMapper.toDomain] at house late ⊢
        rw [id] at house
        rw [sameClock] at late
        simp [ShipmentEventHandler.handle, house, received, unlocated, late]
      · refine ⟨{ ShipmentMapper.toDomain sole with
          status := next
          updatedAt := event.occurredAt
          lastLifecycleAt := some event.occurredAt }, ?_, id, rfl, rfl⟩
        simp only [ShipmentMapper.toDomain] at house late edge ⊢
        rw [id] at house
        rw [sameClock] at late
        rw [sameStatus] at edge
        have moved := ShipmentStateMachine.transition_ok_iff.mpr edge
        simp [ShipmentEventHandler.handle, house, received, unlocated, late,
          Shipment.changeStatus, moved]
  | location =>
      obtain ⟨id, latitude, longitude, sameClock⟩ := agree
      have located := ShipmentEventType.timeline_eq_location.mp on
      rcases cases with ⟨-, payload, decoded, ⟨rfl, rfl, late⟩ | ⟨rfl, rfl, late⟩⟩ |
        ⟨unlocated, -⟩
      · refine ⟨ShipmentMapper.toDomain sole, ?_, id, latitude, longitude, sameClock⟩
        simp only [ShipmentMapper.toDomain] at house late ⊢
        rw [id] at house
        rw [sameClock] at late
        simp [ShipmentEventHandler.handle, house, located, decoded, late]
      · refine ⟨(ShipmentMapper.toDomain sole).updateLocation payload event.occurredAt, ?_, id,
          rfl, rfl, rfl⟩
        simp only [ShipmentMapper.toDomain] at house late ⊢
        rw [id] at house
        rw [sameClock] at late
        simp [ShipmentEventHandler.handle, house, located, decoded, late]
      · exact absurd located unlocated

/-- What an `UPDATE` makes of the columns of a timeline depends on what they hold, on what
was loaded for them and on what was assigned to them. -/
theorem ShipmentModel.Agree.applyTo {loaded assigned soleAssigned : ShipmentModel}
    (currently : current.Agree timeline loaded) (agree : loaded.Agree timeline sole)
    (assignments : assigned.Agree timeline soleAssigned) :
    ((postgres.shipmentPatch (ShipmentPatch.between loaded assigned)).applyTo current).Agree
      timeline
      ((postgres.shipmentPatch (ShipmentPatch.between sole soleAssigned)).applyTo sole) := by
  cases timeline with
  | lifecycle =>
      obtain ⟨id, status, clock⟩ := currently
      obtain ⟨idToo, statusToo, clockToo⟩ := agree
      obtain ⟨-, assignedStatus, assignedClock⟩ := assignments
      refine ⟨id.trans idToo, ?_, ?_⟩ <;>
        simp only [ShipmentPatch.applyTo, Postgres.shipmentPatch, ShipmentPatch.between, status,
          clock, statusToo, clockToo, assignedStatus, assignedClock]
  | location =>
      obtain ⟨id, latitude, longitude, clock⟩ := currently
      obtain ⟨idToo, latitudeToo, longitudeToo, clockToo⟩ := agree
      obtain ⟨-, assignedLatitude, assignedLongitude, assignedClock⟩ := assignments
      refine ⟨id.trans idToo, ?_, ?_, ?_⟩ <;>
        simp only [ShipmentPatch.applyTo, Postgres.shipmentPatch, ShipmentPatch.between,
          latitude, longitude, clock, latitudeToo, longitudeToo, clockToo, assignedLatitude,
          assignedLongitude, assignedClock]

/-- Step lemma: a reception that has read the columns of its timeline as they are, both
times, does to them what it does alone. -/
theorem ShipmentModel.Agree.receive (postgres : Postgres) {loaded : ShipmentModel}
    (currently : current.Agree timeline loaded) (saved : loaded.Agree timeline sole)
    (agree : row.Agree timeline sole) (on : event.eventType.timeline = some timeline)
    (handled : ShipmentEventHandler.handle (ShipmentMapper.toDomain row) event =
      (.ok status, after)) :
    ((postgres.shipmentPatch (ShipmentPatch.between loaded
        (ShipmentMapper.toModel after))).applyTo current).Agree timeline
      (sole.receive postgres event) := by
  obtain ⟨other, alike, assignments⟩ := agree.handle on handled
  rw [ShipmentModel.receive, alike]
  exact currently.applyTo saved assignments

/-- The handler leaves the columns of the other timeline as they were loaded. -/
theorem ShipmentEventHandler.handle_frame {other : Timeline}
    (on : event.eventType.timeline = some timeline) (different : other ≠ timeline)
    (handled : handle (ShipmentMapper.toDomain row) event = (.ok status, after)) :
    (ShipmentMapper.toModel after).Agree other row := by
  obtain ⟨-, -, ⟨located, payload, -, ⟨-, rfl, -⟩ | ⟨-, rfl, -⟩⟩ |
    ⟨unlocated, ⟨-, rfl, -⟩ | ⟨-, -, next, -, rfl⟩⟩⟩ := handle_cases handled
  · exact .refl other row
  · cases other with
    | lifecycle => exact .refl .lifecycle row
    | location =>
        cases on.symm.trans (ShipmentEventType.timeline_eq_location.mpr located)
        exact absurd rfl different
  · exact .refl other row
  · cases other with
    | location => exact .refl .location row
    | lifecycle =>
        cases timeline with
        | lifecycle => exact absurd rfl different
        | location => exact absurd (ShipmentEventType.timeline_eq_location.mp on) unlocated

/-- Columns that are assigned what was loaded are not written. -/
theorem ShipmentModel.Agree.unwritten {loaded assigned : ShipmentModel}
    (unchanged : assigned.Agree timeline loaded) (reflexive : loaded.Reflexive) :
    ((postgres.shipmentPatch (ShipmentPatch.between loaded assigned)).applyTo current).Agree
      timeline current := by
  obtain ⟨latitude, longitude⟩ := reflexive
  cases timeline with
  | lifecycle =>
      obtain ⟨-, status, clock⟩ := unchanged
      refine ⟨rfl, ?_, ?_⟩ <;>
        simp [ShipmentPatch.applyTo, Postgres.shipmentPatch, ShipmentPatch.between,
          changedColumn, status, clock, optionalDateTimeEq_refl]
  | location =>
      obtain ⟨-, sameLatitude, sameLongitude, clock⟩ := unchanged
      refine ⟨rfl, ?_, ?_, ?_⟩ <;>
        simp [ShipmentPatch.applyTo, Postgres.shipmentPatch, ShipmentPatch.between,
          changedColumn, sameLatitude, sameLongitude, clock, latitude, longitude,
          optionalDateTimeEq_refl]

/-- Frame lemma: a reception on one timeline leaves the columns of the other one alone,
however old the row is that it has read, if it finds them unchanged when it saves. -/
theorem Reception.agree_frame {reception : Reception} {other : Timeline}
    (on : reception.event.eventType.timeline = some timeline) (different : other ≠ timeline)
    (unmoved : reception.loaded.Agree other reception.row)
    (reflexive : reception.loaded.Reflexive)
    (handled : ShipmentEventHandler.handle (ShipmentMapper.toDomain reception.row)
      reception.event = (.ok reception.status, reception.after)) :
    ((postgres.shipmentPatch reception.patch).applyTo current).Agree other current :=
  ((ShipmentEventHandler.handle_frame on different handled).trans unmoved.symm).unwritten
    reflexive

end Receptions

/-! ## One entry of the log -/

/-- What an entry of the log means for the timelines of one shipment: nothing, its
creation, or a reception of it on one of them. -/
inductive Passage (postgres : Postgres) (base : Database) (wal : List Transaction)
    (request : Request) (transaction : Transaction) (id : UUID) (after : Database) : Prop where
  | silent (inserted : transaction.inserted id = none)
      (records : ∀ timeline, transaction.recordsOn id timeline = false)
      (shipment : after.shipment id = (replay base wal).shipment id)
  | created (row : ShipmentModel) (inserted : transaction.inserted id = some row)
      (records : ∀ timeline, transaction.recordsOn id timeline = false)
      (fresh : (replay base wal).shipment id = none) (shipment : after.shipment id = some row)
  | received (reception : Reception) (own : Timeline)
      (on : reception.event.eventType.timeline = some own)
      (reports : request.Reports reception.correlationId reception.event)
      (inserted : transaction.inserted id = none)
      (records : ∀ timeline, transaction.recordsOn id timeline = decide (own = timeline))
      (reads : transaction.reads = reception.reads)
      (ordered : reception.lsn ≤ wal.length)
      (found : (replay base (wal.take reception.lsn)).shipment id = some reception.row)
      (saved : reception.lsn ≤ reception.saveLsn ∧ reception.saveLsn ≤ wal.length)
      (loaded : (replay base (wal.take reception.saveLsn)).shipment id =
        some reception.loaded)
      (handled : ShipmentEventHandler.handle (ShipmentMapper.toDomain reception.row)
        reception.event = (.ok reception.status, reception.after))
      (shipment : after.shipment id =
        ((replay base wal).shipment id).map (postgres.shipmentPatch reception.patch).applyTo)

section Entries

variable {server : Server} {base : Database} {quiet : Prop} {wal : List Transaction}
  {request : Request} {transaction : Transaction}

/-- Step lemma: every entry is a passage of every shipment. -/
theorem Effect.passage (effect : Effect server base quiet wal request transaction) (id : UUID) :
    Passage server.postgres base wal request transaction id
      ((replay base wal).writeAll transaction.writes) := by
  cases effect with
  | nothing writes =>
      refine .silent ?_ (fun _ => ?_) ?_ <;>
        simp [Transaction.inserted, Transaction.recordsOn, writes]
  | created creation createdAt receivedAt freshShipment freshEvent freshOutbox writes =>
      have row : (creation.shipmentRow server.postgres).id = creation.id := rfl
      have unrecorded : ∀ timeline, transaction.recordsOn id timeline = false := by
        intro timeline
        simp only [Transaction.recordsOn, writes, Creation.writes]
        simp [Creation.eventRow, Postgres.eventRow, EventMapper.toModel, Creation.event,
          CreateShipment.createdEvent, ShipmentEventType.timeline]
      by_cases own : creation.id = id
      · subst own
        refine .created (creation.shipmentRow server.postgres) ?_ unrecorded freshShipment ?_
        · simp [Transaction.inserted, writes, Creation.writes, row]
        · rw [writes]
          simp [Creation.writes, freshShipment, row]
      · refine .silent ?_ unrecorded ?_
        · simp [Transaction.inserted, writes, Creation.writes, row, own]
        · rw [writes]
          simp [Creation.writes, row, own]
  | received reception reports lsn current found saved loaded identity handled payload
      reads freshEvent freshOutbox writes =>
      have same : reception.event.shipmentId = reception.row.id :=
        (ShipmentEventHandler.handle_cases handled).1
      have records : ∀ timeline, transaction.recordsOn id timeline =
          (decide (reception.event.shipmentId = id) &&
            decide (reception.event.eventType.timeline = some timeline)) := by
        intro timeline
        simp only [Transaction.recordsOn, writes, Reception.writes, Reception.projection]
        split <;> simp [Reception.eventRow, Postgres.eventRow, EventMapper.toModel,
          Reception.recorded]
      have inserted : transaction.inserted id = none := by
        simp only [Transaction.inserted, writes, Reception.writes, Reception.projection]
        split <;> simp
      obtain ⟨timeline, on, -⟩ := ShipmentEventHandler.handle_clock handled
      obtain ⟨shipments, -⟩ := reception.tables server.postgres (replay base wal)
      have shipment := shipments id
      rw [← writes] at shipment
      by_cases own : reception.event.shipmentId = id
      · rw [if_pos (own.symm.trans same)] at shipment
        refine .received reception timeline on reports inserted ?_ reads lsn (own ▸ found) saved
          (own ▸ loaded) handled shipment
        intro other
        simp [records, own, on]
      · rw [if_neg fun row => own (same.trans row.symm)] at shipment
        refine .silent inserted ?_ shipment
        intro timeline
        simp [records, own]
  | attempted attempt locked pending confirmed writes =>
      refine .silent ?_ (fun _ => ?_) ?_ <;>
        simp [Transaction.inserted, Transaction.recordsOn, writes, Attempt.writes]

end Entries

/-! ## Runs -/

/-- What the receptions of a log on one timeline alone make of a shipment. -/
def serially (postgres : Postgres) (requests : ProcessId → Request) (id : UUID)
    (timeline : Timeline) (start : Option ShipmentModel) (wal : List Transaction) :
    Option ShipmentModel :=
  wal.foldl (Transaction.alone postgres requests id timeline) start

/-- No session finds the coordinates that it saves over different from themselves. -/
def LoadsReflexive (wal : List Transaction) : Prop :=
  ∀ transaction ∈ wal, ∀ entry ∈ transaction.reloaded, entry.2.Reflexive

/-- No reception of the shipment on another timeline finds the columns of this one changed
when it loads the row that it saves over: between its two reads of the shipment they have
stayed what they were. -/
def RereadAlike (wal : List Transaction) (id : UUID) (timeline : Timeline) : Prop :=
  ∀ transaction ∈ wal, transaction.records id = true →
    transaction.recordsOn id timeline = false →
      ∀ first ∈ transaction.selected, ∀ second ∈ transaction.reloaded,
        second.2.Agree timeline first.2

section Runs

variable {server : Server} {base : Database} {quiet : Prop}
  {requests : ProcessId → Request} {wal : List Transaction} {id : UUID} {timeline : Timeline}

/-- A reception that records on another timeline is a transaction that must find the columns
of this one unchanged. -/
theorem RereadAlike.unmoved (alike : RereadAlike wal id timeline) {transaction : Transaction}
    (member : transaction ∈ wal) {reception : Reception} {own : Timeline}
    (records : ∀ timeline, transaction.recordsOn id timeline = decide (own = timeline))
    (reads : transaction.reads = reception.reads) (different : timeline ≠ own) :
    reception.loaded.Agree timeline reception.row := by
  have recordsOwn : transaction.recordsOn id own = true := by simp [records]
  refine alike transaction member (Transaction.records_of_recordsOn recordsOwn) ?_ _
    (Reception.selected reads) _ (Reception.reloaded reads)
  rw [records]
  exact decide_eq_false different.symm

/-- Run lemma: a stretch of the log that records nothing on a timeline leaves its columns
alone. -/
theorem History.agree_unrecorded (history : History server base quiet requests wal)
    (reflexive : LoadsReflexive wal) (alike : RereadAlike wal id timeline)
    {first second : Nat} (ordered : first ≤ second)
    (silent : UnrecordedOn wal id timeline first second) {before after : ShipmentModel}
    (found : (replay base (wal.take first)).shipment id = some before)
    (left : (replay base (wal.take second)).shipment id = some after) :
    after.Agree timeline before := by
  refine replay_shipment_induction (fun before after => after.Agree timeline before) ordered
    (fun row => .refl timeline row) (fun _ _ _ one two => two.trans one) ?_ before after found
    left
  intro index low high transaction entry before after foundBefore foundAfter
  rw [replay_take_succ base entry] at foundAfter
  cases (history.effect_of_getElem entry).passage id with
  | silent inserted records shipment =>
      rw [foundAfter, foundBefore] at shipment
      cases shipment
      exact .refl timeline before
  | created row inserted records fresh =>
      rw [foundBefore] at fresh
      cases fresh
  | received reception own on reports inserted records reads ordered present saved loaded
      handled shipment =>
      rw [foundAfter, foundBefore] at shipment
      cases shipment
      have member := List.mem_of_getElem? entry
      have different : timeline ≠ own := by
        intro same
        have recorded := silent index high low transaction entry
        rw [records] at recorded
        exact of_decide_eq_false recorded same.symm
      exact Reception.agree_frame on different (alike.unmoved member records reads different)
        (reflexive transaction member _ (Reception.reloaded reads)) handled

/-- Run lemma: at every point of the log the columns of a timeline are what its receptions
alone have left. -/
theorem History.alone_agrees (history : History server base quiet requests wal)
    (reflexive : LoadsReflexive wal) (alike : RereadAlike wal id timeline)
    (apart : ApartOn wal id timeline) (count : Nat) :
    Option.Rel (ShipmentModel.Agree timeline) ((replay base (wal.take count)).shipment id)
      (serially server.postgres requests id timeline (base.shipment id) (wal.take count)) := by
  induction count with
  | zero =>
      cases found : base.shipment id with
      | none => simp [serially, found]
      | some row => simpa [serially, found] using ShipmentModel.Agree.refl timeline row
  | succ count inductionHypothesis =>
      cases entry : wal[count]? with
      | none =>
          have beyond : wal.length ≤ count := List.getElem?_eq_none_iff.mp entry
          rw [List.take_of_length_le (Nat.le_succ_of_le beyond)]
          rwa [List.take_of_length_le beyond] at inductionHypothesis
      | some transaction =>
          have bound : count < wal.length := (List.getElem?_eq_some_iff.mp entry).1
          have last : serially server.postgres requests id timeline (base.shipment id)
              (wal.take (count + 1)) =
                transaction.alone server.postgres requests id timeline
                  (serially server.postgres requests id timeline (base.shipment id)
                    (wal.take count)) := by
            rw [serially, List.take_add_one, entry, Option.toList_some, List.foldl_append]
            rfl
          rw [last, replay_take_succ base entry]
          generalize serially server.postgres requests id timeline (base.shipment id)
            (wal.take count) = sole at inductionHypothesis ⊢
          cases (history.effect_of_getElem entry).passage id with
          | silent inserted records shipment =>
              rw [shipment, Transaction.alone, inserted, records]
              cases (requests transaction.process).reported <;> exact inductionHypothesis
          | created row inserted records fresh shipment =>
              rw [shipment, Transaction.alone, inserted]
              exact .some (.refl timeline row)
          | received reception own on reports inserted records reads ordered found saved loaded
              handled shipment =>
              have beyond : (wal.take count).length = count := by
                rw [List.length_take]
                omega
              rw [beyond] at ordered saved
              rw [List.take_take, Nat.min_eq_left ordered] at found
              rw [List.take_take, Nat.min_eq_left saved.2] at loaded
              obtain ⟨current, standing⟩ := Option.isSome_iff_exists.mp
                (replay_shipment_take_mono ordered (by rw [found]; rfl))
              obtain ⟨event, names, same⟩ := reports.exists_reported
              rw [standing] at inductionHypothesis shipment
              rw [shipment, Transaction.alone, inserted, names]
              cases inductionHypothesis with
              | @some _ sole agree =>
                  have member := List.mem_of_getElem? entry
                  by_cases mine : own = timeline
                  · subst mine
                    have recorded : transaction.recordsOn id own = true := by simp [records]
                    have silent := apart count bound transaction entry recorded _
                      (Reception.selected reads)
                    have handledCurrently := history.agree_unrecorded reflexive alike ordered
                      silent found standing
                    have loadedCurrently := history.agree_unrecorded reflexive alike saved.2
                      (fun index low high => silent index low (Nat.le_trans saved.1 high))
                      loaded standing
                    have received := loadedCurrently.receive server.postgres
                      (loadedCurrently.symm.trans agree)
                      (handledCurrently.symm.trans agree) on handled
                    rw [same] at received
                    simp only [recorded, if_true, Option.map_some]
                    exact .some received
                  · have unrecorded : transaction.recordsOn id timeline = false := by
                      simp [records, mine]
                    simp only [unrecorded, Bool.false_eq_true, if_false, Option.map_some]
                    have frame : ((server.postgres.shipmentPatch reception.patch).applyTo
                        current).Agree timeline current :=
                      Reception.agree_frame on (Ne.symm mine)
                        (alike.unmoved member records reads (Ne.symm mine))
                        (reflexive transaction member _ (Reception.reloaded reads)) handled
                    exact .some (frame.trans agree)

end Runs

/-- Under any interleaving of any requests, from any tables: as long as the receptions of
a shipment on its lifecycle timeline do not overlap one another, and none on the location
timeline finds the lifecycle columns changed when it loads the row to save over, its status
and lifecycle clock are what the former alone have left, each committed against what the
one before it left; and likewise for its location.  Apart from that, receptions on
different timelines may overlap. -/
theorem cross_timeline_updates_kept (server : Server) (base : Database)
    (keyed : base.outboxKeys.Nodup) (requests : ProcessId → Request) (state : PlatformState)
    (reached : (platform server requests).Reachable { base := base } state)
    (reflexive : LoadsReflexive state.world.wal) (id : UUID) (row : ShipmentModel)
    (found : state.world.database.shipment id = some row) :
    (ApartOn state.world.wal id .lifecycle → RereadAlike state.world.wal id .lifecycle →
      ∃ sole, serially server.postgres requests id .lifecycle (base.shipment id)
          state.world.wal = some sole ∧
        row.status = sole.status ∧ row.lastLifecycleAt = sole.lastLifecycleAt) ∧
      (ApartOn state.world.wal id .location → RereadAlike state.world.wal id .location →
        ∃ sole, serially server.postgres requests id .location (base.shipment id)
            state.world.wal = some sole ∧
          row.currentLatitude = sole.currentLatitude ∧
          row.currentLongitude = sole.currentLongitude ∧
          row.lastLocationAt = sole.lastLocationAt) := by
  have kept : Invariant server base False requests state.world :=
    platform_invariant keyed reached
  have agrees : ∀ timeline, ApartOn state.world.wal id timeline →
      RereadAlike state.world.wal id timeline →
      ∃ sole, serially server.postgres requests id timeline (base.shipment id)
          state.world.wal = some sole ∧ row.Agree timeline sole := by
    intro timeline apart alike
    have related := kept.history.alone_agrees reflexive alike apart state.world.wal.length
    rw [World.database, kept.start] at found
    rw [List.take_length, found] at related
    generalize serially server.postgres requests id timeline (base.shipment id)
      state.world.wal = result at related
    cases related with
    | some agree => exact ⟨_, rfl, agree⟩
  constructor
  · intro apart alike
    obtain ⟨sole, result, -, status, clock⟩ := agrees .lifecycle apart alike
    exact ⟨sole, result, status, clock⟩
  · intro apart alike
    obtain ⟨sole, result, -, latitude, longitude, clock⟩ := agrees .location apart alike
    exact ⟨sole, result, latitude, longitude, clock⟩

/-! ## A location during a delivery -/

/-- A location by the worker, and a delivery over HTTP. -/
def locatedAndDelivered : ProcessId → Request
  | 0 => .handleEvent none (located 8 25)
  | _ => .receiveEvent none (report 7 .delivered 20)

/-- The worker has looked up the shipment both times before the delivery commits, and
commits afterwards. -/
def crossingSchedule : List (Interaction.System.Action Choice) :=
  turns 0 (recordingChoices.take 5) ++ lookUp 1 ++ recordRest 1 101 ++
    turns 0 (recordingChoices.drop 5)

/-- The delivery commits between the worker's two looks at the shipment. -/
def interruptedSchedule : List (Interaction.System.Action Choice) :=
  turns 0 (recordingChoices.take 2) ++ lookUp 1 ++ recordRest 1 101 ++
    turns 0 (recordingChoices.drop 2)

instance (row : ShipmentModel) : Decidable row.Reflexive :=
  inferInstanceAs (Decidable (_ ∧ _))

instance (timeline : Timeline) (first second : ShipmentModel) :
    Decidable (first.Agree timeline second) :=
  match timeline with
  | .lifecycle => inferInstanceAs (Decidable (_ ∧ _ ∧ _))
  | .location => inferInstanceAs (Decidable (_ ∧ _ ∧ _ ∧ _))

instance (wal : List Transaction) : Decidable (LoadsReflexive wal) :=
  inferInstanceAs (Decidable (∀ transaction ∈ wal, ∀ entry ∈ transaction.reloaded,
    entry.2.Reflexive))

instance (wal : List Transaction) (id : UUID) (timeline : Timeline) :
    Decidable (RereadAlike wal id timeline) :=
  inferInstanceAs (Decidable (∀ transaction ∈ wal, transaction.records id = true →
    transaction.recordsOn id timeline = false → ∀ first ∈ transaction.selected,
      ∀ second ∈ transaction.reloaded, second.2.Agree timeline first.2))

theorem crossingSchedule_runs :
    (((platform Server.utc locatedAndDelivered).run crossingSchedule
      ((platform Server.utc locatedAndDelivered).initial { base := onItsWay })).map fun state =>
        ((state.world.database.shipment parcel).map fun row => (row.status, row.lastLocationAt),
          decide (LoadsReflexive state.world.wal),
          [Timeline.lifecycle, .location].all fun timeline =>
            decide (ApartOn state.world.wal parcel timeline) &&
              decide (RereadAlike state.world.wal parcel timeline))) =
      some (some (.delivered, some (.utc 25)), true, true) := by
  decide +kernel

/-- The delivery survives the worker's older row. -/
theorem crossing_updates_kept :
    ∃ (state : PlatformState) (row : ShipmentModel),
      (platform Server.utc locatedAndDelivered).Reachable { base := onItsWay } state ∧
      state.world.database.shipment parcel = some row ∧ row.status = .delivered ∧
      (∃ sole, serially .utc locatedAndDelivered parcel .lifecycle (some travelling)
          state.world.wal = some sole ∧
        row.status = sole.status ∧ row.lastLifecycleAt = sole.lastLifecycleAt) ∧
      ∃ sole, serially .utc locatedAndDelivered parcel .location (some travelling)
          state.world.wal = some sole ∧
        row.currentLatitude = sole.currentLatitude ∧
        row.currentLongitude = sole.currentLongitude ∧
        row.lastLocationAt = sole.lastLocationAt := by
  obtain ⟨state, ran, shown⟩ := Option.map_eq_some_iff.mp crossingSchedule_runs
  obtain ⟨columns, conditions⟩ := Prod.mk.inj shown
  simp only [Prod.mk.injEq, List.all_cons, List.all_nil, Bool.and_eq_true, decide_eq_true_eq,
    and_true] at conditions
  obtain ⟨reflexive, ⟨lifecycle, unchanged⟩, location, unmoved⟩ := conditions
  obtain ⟨row, found, held⟩ := Option.map_eq_some_iff.mp columns
  have reached : (platform Server.utc locatedAndDelivered).Reachable { base := onItsWay } state :=
    ⟨crossingSchedule, ran⟩
  obtain ⟨delivered, moved⟩ := cross_timeline_updates_kept Server.utc onItsWay List.nodup_nil
    locatedAndDelivered state reached reflexive parcel row found
  exact ⟨state, row, reached, found, (Prod.mk.inj held).1, delivered lifecycle unchanged,
    moved location unmoved⟩

theorem interruptedSchedule_runs :
    (((platform Server.utc locatedAndDelivered).run interruptedSchedule
      ((platform Server.utc locatedAndDelivered).initial { base := onItsWay })).map fun state =>
        ((state.world.database.shipment parcel).map ShipmentModel.status,
          decide (LoadsReflexive state.world.wal) &&
            [Timeline.lifecycle, .location].all fun timeline =>
              decide (ApartOn state.world.wal parcel timeline),
          (serially .utc locatedAndDelivered parcel .lifecycle (some travelling)
            state.world.wal).map ShipmentModel.status)) =
      some (some .inTransit, true, some .delivered) := by
  decide +kernel

/-- Receptions on different timelines that do overlap may lose an update: the worker, which
has handled its location against the row in transit, finds it delivered when it saves, and
its `UPDATE` writes the status back. -/
theorem delivery_written_back :
    ¬ ∀ (server : Server) (base : Database), base.outboxKeys.Nodup →
      ∀ (requests : ProcessId → Request) (state : PlatformState),
        (platform server requests).Reachable { base := base } state →
        LoadsReflexive state.world.wal →
        ∀ (id : UUID) (row : ShipmentModel), state.world.database.shipment id = some row →
          ApartOn state.world.wal id .lifecycle → ApartOn state.world.wal id .location →
          ∃ sole, serially server.postgres requests id .lifecycle (base.shipment id)
              state.world.wal = some sole ∧
            row.status = sole.status ∧ row.lastLifecycleAt = sole.lastLifecycleAt := by
  intro kept
  obtain ⟨state, ran, shown⟩ := Option.map_eq_some_iff.mp interruptedSchedule_runs
  simp only [Prod.mk.injEq, List.all_cons, List.all_nil, Bool.and_eq_true, decide_eq_true_eq,
    and_true] at shown
  obtain ⟨status, ⟨reflexive, lifecycle, location⟩, alone⟩ := shown
  obtain ⟨row, found, transit⟩ := Option.map_eq_some_iff.mp status
  obtain ⟨sole, delivers, same, -⟩ := kept Server.utc onItsWay List.nodup_nil
    locatedAndDelivered state ⟨interruptedSchedule, ran⟩ reflexive parcel row found
    lifecycle location
  have start : onItsWay.shipment parcel = some travelling := by decide
  rw [start] at delivers
  rw [show Server.utc.postgres = .utc from rfl] at delivers
  rw [delivers, Option.map_some, ← same, transit] at alone
  cases alone

end Freight
