/-
Module: Freight.Store.Invariant
Purpose: The invariant of the shared world, what a step leaves undisturbed for
  the other processes, and that every change a statement makes keeps both.
Trusted boundary: none
Main exports:
  Ownership, Ledger, Answered, Refusable, Invariant, Undisturbed, Step,
  Step.note, Step.raise, Step.answer, Step.hold, Step.append, Step.discard,
  Step.commit, Step.issue, Step.publish
-/
import Freight.Store.History
import Freight.Store.Locking

namespace Freight

open Interaction (ProcessId)

/-! ## Reading the log at a point -/

theorem replay_take_snoc (base : Database) {wal : List Transaction} {lsn : Nat}
    (inside : lsn ≤ wal.length) (transaction : Transaction) :
    replay base ((wal ++ [transaction]).take lsn) = replay base (wal.take lsn) := by
  rw [List.take_append_of_le_length inside]

theorem replay_outbox_of_none {id : UUID} {wal : List Transaction}
    (others : ∀ transaction ∈ wal, ∀ row,
      Write.insertOutbox row ∈ transaction.writes → row.id ≠ id) :
    ∀ {base : Database}, base.outbox id = none → (replay base wal).outbox id = none := by
  induction wal with
  | nil => exact fun free => free
  | cons first rest inductionHypothesis =>
      intro base free
      refine inductionHypothesis
        (fun transaction member => others transaction (List.mem_cons_of_mem _ member)) ?_
      exact Database.outbox_writeAll_of_none (others first List.mem_cons_self) free

theorem replay_shipment_of_none {id : UUID} {wal : List Transaction}
    (others : ∀ transaction ∈ wal, ∀ row,
      Write.insertShipment row ∈ transaction.writes → row.id ≠ id) :
    ∀ {base : Database}, base.shipment id = none →
      (replay base wal).shipment id = none := by
  induction wal with
  | nil => exact fun free => free
  | cons first rest inductionHypothesis =>
      intro base free
      refine inductionHypothesis
        (fun transaction member => others transaction (List.mem_cons_of_mem _ member)) ?_
      exact Database.shipment_writeAll_of_none (others first List.mem_cons_self) free

/-! ## Identifiers -/

/-- Who drew which identifier.  An identifier handed out was not in use at the
start, has one owner, and only its owner inserts a row under it. -/
structure Ownership (base : Database) (wal : List Transaction)
    (uuids : List (ProcessId × UUID)) : Prop where
  unused : ∀ {process : ProcessId} {id : UUID}, (process, id) ∈ uuids →
    base.shipment id = none ∧ base.outbox id = none
  owner : ∀ {first second : ProcessId} {id : UUID},
    (first, id) ∈ uuids → (second, id) ∈ uuids → first = second
  shipments : ∀ {transaction : Transaction}, transaction ∈ wal → ∀ {row : ShipmentModel},
    .insertShipment row ∈ transaction.writes → (transaction.process, row.id) ∈ uuids
  outboxEvents : ∀ {transaction : Transaction}, transaction ∈ wal →
    ∀ {row : OutboxEventModel}, .insertOutbox row ∈ transaction.writes →
      (transaction.process, row.id) ∈ uuids

namespace Ownership

variable {base : Database} {wal : List Transaction} {uuids : List (ProcessId × UUID)}
  {process : ProcessId} {id : UUID}

/-- No row has an identifier drawn by a process that has not committed. -/
theorem outbox_free (kept : Ownership base wal uuids) (mine : (process, id) ∈ uuids)
    (uncommitted : process ∉ wal.map Transaction.process) :
    (replay base wal).outbox id = none := by
  refine replay_outbox_of_none ?_ (kept.unused mine).2
  intro transaction member row inserted same
  have theirs := kept.outboxEvents member inserted
  rw [same] at theirs
  exact uncommitted (kept.owner mine theirs ▸ List.mem_map_of_mem member)

theorem shipment_free (kept : Ownership base wal uuids) (mine : (process, id) ∈ uuids)
    (uncommitted : process ∉ wal.map Transaction.process) :
    (replay base wal).shipment id = none := by
  refine replay_shipment_of_none ?_ (kept.unused mine).1
  intro transaction member row inserted same
  have theirs := kept.shipments member inserted
  rw [same] at theirs
  exact uncommitted (kept.owner mine theirs ▸ List.mem_map_of_mem member)

end Ownership

/-! ## Publications -/

/-- A row was there to be published after the first `lsn` commits. -/
def Pending (base : Database) (wal : List Transaction) (lsn : Nat)
    (row : OutboxEventModel) : Prop :=
  lsn ≤ wal.length ∧ (replay base (wal.take lsn)).outbox row.id = some row ∧
    row.publishedAt = none

theorem Pending.now {base : Database} {wal : List Transaction} {row : OutboxEventModel}
    (found : (replay base wal).outbox row.id = some row) (unpublished : row.publishedAt = none) :
    Pending base wal wal.length row :=
  ⟨Nat.le_refl _, by rwa [List.take_length], unpublished⟩

theorem Pending.snoc {base : Database} {wal : List Transaction} {lsn : Nat}
    {row : OutboxEventModel} (pending : Pending base wal lsn row)
    (transaction : Transaction) : Pending base (wal ++ [transaction]) lsn row := by
  obtain ⟨inside, found, unpublished⟩ := pending
  refine ⟨by simpa using Nat.le_succ_of_le inside, ?_, unpublished⟩
  rw [replay_take_snoc base inside]
  exact found

/-- The calls of the publisher, seen together and process by process. -/
structure Ledger (base : Database) (wal : List Transaction)
    (publications : List Publication) (published : ProcessId → List Publication) :
    Prop where
  filtered : ∀ process, (publications.filter fun publication =>
    publication.process = process) = published process
  once : ∀ process, (published process).length ≤ 1
  settled : ∀ transaction ∈ wal, published transaction.process = transaction.published
  faithful : ∀ publication ∈ publications, ∃ row,
    Pending base wal publication.lsn row ∧
      publication.message = SQLAlchemyOutboxRepository.message row

/-! ## Refusals and answers -/

/-- A request that reports an event. -/
def Request.isReception : Request → Bool
  | .receiveEvent _ _ | .handleEvent _ _ => true
  | _ => false

/-- The only constraint that a reported event can violate is the key of
`shipment_events`. -/
def Refusable (server : Server) (base : Database) (request : Request) (error : PyError) :
    Prop :=
  request.isReception = true → base.References → ∀ constraint text,
    error = .integrityError (some constraint) text →
      server.faults error = true ∨ constraint = "shipment_events_pkey"

/-- Integrity errors come from the constraints and from nowhere else. -/
def Server.Honest (server : Server) : Prop :=
  ∀ constraintName text, server.faults (.integrityError constraintName text) = false

/-- A server in UTC whose environment raises nothing. -/
def Server.utc : Server where
  postgres := .utc
  faults _ := false

theorem Server.utc_honest : Server.utc.Honest := fun _ _ => rfl

/-- A server in UTC whose connections may break. -/
def Server.flaky : Server where
  postgres := .utc
  faults error := error.typeName = "OperationalError"

/-- Where the projection in a successful answer to `POST /events` comes from,
told by what the request had read: its own recording, an existing record found
before handling, or the record that it collided with. -/
inductive Answered (base : Database) (wal : List Transaction)
    (reported : ShipmentEventRequest) : List Read → Shipment → Prop where
  | recorded {saveLsn existsLsn lsn : Nat} {loaded row : ShipmentModel}
      {shipment : Shipment} :
      Answered base wal reported
        [.shipment saveLsn (some loaded), .event existsLsn false, .shipment lsn (some row)]
        shipment
  | known {existsLsn lsn : Nat} {row : ShipmentModel} {event : ShipmentEventModel}
      (ordered : lsn ≤ existsLsn) (inside : existsLsn ≤ wal.length)
      (found : (replay base (wal.take lsn)).shipment reported.shipmentId = some row)
      (record : (replay base (wal.take existsLsn)).event reported.eventId = some event) :
      Answered base wal reported
        [.event existsLsn true, .shipment lsn (some row)] (ShipmentMapper.toDomain row)
  | recovered {existsLsn lsn saveLsn reloadLsn : Nat} {row : ShipmentModel}
      {before loaded : Option ShipmentModel} {event : ShipmentEventModel}
      (inside : reloadLsn ≤ wal.length) (checked : existsLsn ≤ wal.length)
      (absent : (replay base (wal.take existsLsn)).event reported.eventId = none)
      (found : (replay base (wal.take reloadLsn)).shipment reported.shipmentId = some row)
      (record : (replay base (wal.take reloadLsn)).event reported.eventId = some event) :
      Answered base wal reported
        [.shipment reloadLsn (some row), .shipment saveLsn loaded, .event existsLsn false,
          .shipment lsn before]
        (ShipmentMapper.toDomain row)

theorem Answered.snoc {base : Database} {wal : List Transaction}
    {reported : ShipmentEventRequest} {reads : List Read} {shipment : Shipment}
    (answered : Answered base wal reported reads shipment)
    (transaction : Transaction) :
    Answered base (wal ++ [transaction]) reported reads shipment := by
  cases answered with
  | recorded => exact .recorded
  | @known existsLsn lsn row event ordered inside found record =>
      rw [← replay_take_snoc base (Nat.le_trans ordered inside) transaction] at found
      rw [← replay_take_snoc base inside transaction] at record
      exact .known ordered (by simpa using Nat.le_succ_of_le inside) found record
  | recovered inside checked absent found record =>
      rw [← replay_take_snoc base inside transaction] at found record
      rw [← replay_take_snoc base checked transaction] at absent
      exact .recovered (by simpa using Nat.le_succ_of_le inside)
        (by simpa using Nat.le_succ_of_le checked) absent found record

/-- What a process may answer, when integrity errors are what they seem. -/
def Answerable (server : Server) (base : Database) (wal : List Transaction)
    (request : Request) (reads : List Read) (response : HttpResponse) : Prop :=
  server.Honest → ∀ correlationId reported,
    request = .receiveEvent correlationId reported →
    ∃ shipment, response = { statusCode := 200, shipment := some shipment } ∧
      Answered base wal reported reads shipment

/-! ## The invariant -/

section Invariant

variable (server : Server) (base : Database) (quiet : Prop) (requests : ProcessId → Request)

/-- What holds of the shared world between any two statements. -/
structure Invariant (world : World) : Prop where
  start : world.base = base
  history : History server base quiet requests world.wal
  locking : Locking (replay base world.wal) world.locks world.uuids world.writes
  ownership : Ownership base world.wal world.uuids
  ledger : Ledger base world.wal world.publications world.published
  claims : ∀ process lsn row, .claimed lsn row ∈ world.reads process →
    Pending base world.wal lsn row
  refusals : ∀ process, ∀ error ∈ world.raised process,
    Refusable server base (requests process) error
  answers : ∀ process response, world.response process = some response →
    Answerable server base world.wal (requests process) (world.reads process) response

end Invariant

/-- What a process keeps from one world to the next: its locks, its identifiers
and the rows it has locked, under a log that only others extend. -/
structure Extends (base : Database) (process : ProcessId) (before after : World) :
    Prop where
  log : ∃ more, after.wal = before.wal ++ more ∧ process ∉ more.map Transaction.process
  locks : ∀ lock, (process, lock) ∈ before.locks → (process, lock) ∈ after.locks
  uuids : ∀ id, (process, id) ∈ before.uuids → (process, id) ∈ after.uuids
  claimed : ∀ id, (process, .outboxRow id) ∈ before.locks →
    (replay base after.wal).outbox id = (replay base before.wal).outbox id

/-- What a process may rely on while the others take steps. -/
structure Undisturbed (base : Database) (process : ProcessId) (before after : World) :
    Prop extends Extends base process before after where
  connection : after.connection process = before.connection process

namespace Extends

variable {base : Database} {process : ProcessId} {first second third : World}

/-- A change that leaves the log alone and takes nothing from the process. -/
theorem of_log (log : second.wal = first.wal)
    (locks : ∀ lock, (process, lock) ∈ first.locks → (process, lock) ∈ second.locks)
    (uuids : ∀ id, (process, id) ∈ first.uuids → (process, id) ∈ second.uuids) :
    Extends base process first second where
  log := ⟨[], by simp [log], by simp⟩
  locks := locks
  uuids := uuids
  claimed := by simp [log]

theorem trans (one : Extends base process first second)
    (two : Extends base process second third) : Extends base process first third where
  log := by
    obtain ⟨more, grown, others⟩ := one.log
    obtain ⟨further, grownFurther, othersFurther⟩ := two.log
    refine ⟨more ++ further, by rw [grownFurther, grown, List.append_assoc], ?_⟩
    rw [List.map_append, List.mem_append]
    rintro (member | member)
    · exact others member
    · exact othersFurther member
  locks := fun lock held => two.locks lock (one.locks lock held)
  uuids := fun id issued => two.uuids id (one.uuids id issued)
  claimed := fun id held =>
    (two.claimed id (one.locks _ held)).trans (one.claimed id held)

end Extends

namespace Undisturbed

variable {base : Database} {process : ProcessId} {first second third : World}

theorem refl (world : World) : Undisturbed base process world world where
  toExtends := .of_log rfl (fun _ held => held) (fun _ issued => issued)
  connection := rfl

theorem trans (one : Undisturbed base process first second)
    (two : Undisturbed base process second third) :
    Undisturbed base process first third where
  toExtends := one.toExtends.trans two.toExtends
  connection := two.connection.trans one.connection

end Undisturbed

/-! ## Steps -/

/-- A change of the world by one process that keeps the invariant and leaves the
others undisturbed. -/
def Step (server : Server) (base : Database) (quiet : Prop) (requests : ProcessId → Request)
    (process : ProcessId) (before after : World) : Prop :=
  Invariant server base quiet requests after ∧
    ∀ other, other ≠ process → Undisturbed base other before after

namespace Step

variable {server : Server} {base : Database} {quiet : Prop}
  {requests : ProcessId → Request} {process : ProcessId} {world middle after : World}

theorem refl (kept : Invariant server base quiet requests world) :
    Step server base quiet requests process world world :=
  ⟨kept, fun _ _ => Undisturbed.refl world⟩

theorem trans (one : Step server base quiet requests process world middle)
    (two : Step server base quiet requests process middle after) :
    Step server base quiet requests process world after :=
  ⟨two.1, fun other different => (one.2 other different).trans (two.2 other different)⟩

theorem note (kept : Invariant server base quiet requests world) {read : Read}
    (silent : world.response process = none)
    (pending : ∀ lsn row, read = .claimed lsn row → Pending base world.wal lsn row) :
    Step server base quiet requests process world (world.note process read) := by
  refine ⟨{ kept with
    claims := ?_
    answers := ?_ }, ?_⟩
  · intro owner lsn row member
    by_cases same : owner = process
    · subst same
      simp only [World.note, Function.update_self, List.mem_cons] at member
      rcases member with shown | earlier
      · exact pending lsn row shown.symm
      · exact kept.claims owner lsn row earlier
    · simp only [World.note, Function.update_of_ne same] at member
      exact kept.claims owner lsn row member
  · intro owner response answered
    have different : owner ≠ process := by
      rintro rfl
      exact absurd (silent.symm.trans answered) (by simp)
    simp only [World.note, Function.update_of_ne different]
    exact kept.answers owner response answered
  · intro other different
    refine ⟨.of_log rfl (fun _ held => held) (fun _ issued => issued), ?_⟩
    simp only [World.connection, World.note, Function.update_of_ne different]

theorem raise (kept : Invariant server base quiet requests world) {error : PyError}
    (refusable : Refusable server base (requests process) error) :
    Step server base quiet requests process world (world.raise process error) := by
  refine ⟨{ kept with refusals := ?_ }, ?_⟩
  · intro owner refused member
    by_cases same : owner = process
    · subst same
      simp only [World.raise, Function.update_self, List.mem_cons] at member
      rcases member with rfl | earlier
      · exact refusable
      · exact kept.refusals owner refused earlier
    · simp only [World.raise, Function.update_of_ne same] at member
      exact kept.refusals owner refused member
  · intro other different
    refine ⟨.of_log rfl (fun _ held => held) (fun _ issued => issued), ?_⟩
    simp only [World.connection, World.raise, Function.update_of_ne different]

theorem answer (kept : Invariant server base quiet requests world) {response : HttpResponse}
    (answerable : Answerable server base world.wal (requests process) (world.reads process)
      response) :
    Step server base quiet requests process world (world.answer process response) := by
  refine ⟨{ kept with answers := ?_ }, ?_⟩
  · intro owner given answered
    by_cases same : owner = process
    · subst same
      simp only [World.answer, Function.update_self, Option.some.injEq] at answered
      exact answered ▸ answerable
    · simp only [World.answer, Function.update_of_ne same] at answered
      exact kept.answers owner given answered
  · intro other different
    refine ⟨.of_log rfl (fun _ held => held) (fun _ issued => issued), ?_⟩
    simp only [World.connection, World.answer, Function.update_of_ne different]

theorem hold (kept : Invariant server base quiet requests world) {taken : List Lock}
    (free : ∀ lock ∈ taken, ∀ other, (other, lock) ∈ world.locks → other = process)
    (outboxEvent : ∀ eventId messageType, Lock.outboxEventType eventId messageType ∈ taken →
      (process, .eventKey eventId) ∈ world.locks)
    (claimed : ∀ id, Lock.outboxRow id ∈ taken →
      ∃ row, (replay base world.wal).outbox id = some row ∧ row.publishedAt = none) :
    Step server base quiet requests process world (world.hold process taken) := by
  refine ⟨{ kept with locking := kept.locking.hold free outboxEvent claimed }, ?_⟩
  intro other different
  refine ⟨.of_log rfl ?_ (fun _ issued => issued), rfl⟩
  exact fun lock held => mem_hold_iff.mpr (.inr held)

theorem append (kept : Invariant server base quiet requests world) {write : Write}
    (backed : Backed (replay base world.wal) world.locks world.uuids process write) :
    Step server base quiet requests process world (world.append process write) := by
  refine ⟨{ kept with locking := kept.locking.append backed }, ?_⟩
  intro other different
  refine ⟨.of_log rfl (fun _ held => held) (fun _ issued => issued), ?_⟩
  simp only [World.connection, World.append, Function.update_of_ne different]

theorem discard (kept : Invariant server base quiet requests world) :
    Step server base quiet requests process world (world.discard process) := by
  refine ⟨{ kept with locking := kept.locking.discard process }, ?_⟩
  intro other different
  refine ⟨.of_log rfl ?_ (fun _ issued => issued), ?_⟩
  · exact fun lock held => Locking.mem_of_release different held
  · simp only [World.connection, World.discard, Function.update_of_ne different]

theorem issue (kept : Invariant server base quiet requests world) {id : UUID}
    (fresh : world.issued id = false) :
    Step server base quiet requests process world (world.issue process id) := by
  have unissued : ∀ owner, (owner, id) ∉ world.uuids := by
    intro owner member
    simp only [World.issued, Bool.or_eq_false_iff, List.any_eq_false] at fresh
    exact fresh.2 (owner, id) member (by simp)
  have unused : base.shipment id = none ∧ base.outbox id = none := by
    simpa [World.issued, kept.start, and_assoc] using
      And.intro (Bool.or_eq_false_iff.mp (Bool.or_eq_false_iff.mp fresh).1).1
        (Bool.or_eq_false_iff.mp (Bool.or_eq_false_iff.mp fresh).1).2
  refine ⟨{ kept with
    locking := kept.locking.issue (process, id)
    ownership :=
      { unused := ?_
        owner := ?_
        shipments := fun member _ inserted =>
          List.mem_cons_of_mem _ (kept.ownership.shipments member inserted)
        outboxEvents := fun member _ inserted =>
          List.mem_cons_of_mem _ (kept.ownership.outboxEvents member inserted) } }, ?_⟩
  · intro owner drawn member
    rcases List.mem_cons.mp member with equality | earlier
    · cases equality
      exact unused
    · exact kept.ownership.unused earlier
  · intro first second drawn one two
    rcases List.mem_cons.mp one with equality | earlier <;>
      rcases List.mem_cons.mp two with other | again
    · cases equality
      cases other
      rfl
    · cases equality
      exact absurd again (unissued second)
    · cases other
      exact absurd earlier (unissued first)
    · exact kept.ownership.owner earlier again
  · intro other different
    refine ⟨.of_log rfl (fun _ held => held) ?_, rfl⟩
    exact fun _ issued => List.mem_cons_of_mem _ issued

theorem publish (kept : Invariant server base quiet requests world)
    {message : RecordedEventMessage} {confirmed : Bool} {row : OutboxEventModel}
    (uncommitted : process ∉ world.wal.map Transaction.process)
    (unpublished : world.published process = [])
    (pending : Pending base world.wal world.wal.length row)
    (same : message = SQLAlchemyOutboxRepository.message row) :
    Step server base quiet requests process world
      (world.publish process message confirmed) := by
  refine ⟨{ kept with
    ledger :=
      { filtered := ?_
        once := ?_
        settled := ?_
        faithful := ?_ } }, ?_⟩
  · intro owner
    by_cases mine : process = owner
    · subst mine
      simp [World.publish, kept.ledger.filtered]
    · simp [World.publish, mine, kept.ledger.filtered, Function.update_of_ne (Ne.symm mine)]
  · intro owner
    by_cases mine : owner = process
    · subst mine
      simp [World.publish, unpublished]
    · simp only [World.publish, Function.update_of_ne mine]
      exact kept.ledger.once owner
  · intro transaction member
    have different : transaction.process ≠ process := by
      intro equality
      exact uncommitted (equality ▸ List.mem_map_of_mem member)
    simp only [World.publish, Function.update_of_ne different]
    exact kept.ledger.settled transaction member
  · intro publication member
    rcases List.mem_cons.mp member with rfl | earlier
    · exact ⟨row, pending, same⟩
    · exact kept.ledger.faithful publication earlier
  · intro other different
    refine ⟨.of_log rfl (fun _ held => held) (fun _ issued => issued), ?_⟩
    simp only [World.connection, World.publish, Function.update_of_ne different]

/-- A commit keeps the invariant when what it commits is the effect of the
process's request. -/
theorem commit (kept : Invariant server base quiet requests world)
    (uncommitted : process ∉ world.wal.map Transaction.process)
    (effect : Effect server base quiet world.wal (requests process)
      { toConnection := world.connection process, process := process }) :
    Step server base quiet requests process world (world.commit process) := by
  refine ⟨{ kept with
    history := .commit kept.history effect uncommitted
    locking := ?_
    ownership :=
      { unused := kept.ownership.unused
        owner := kept.ownership.owner
        shipments := ?_
        outboxEvents := ?_ }
    ledger :=
      { filtered := kept.ledger.filtered
        once := kept.ledger.once
        settled := ?_
        faithful := ?_ }
    claims := ?_
    answers := ?_ }, ?_⟩
  · simp only [World.commit, replay_snoc]
    exact kept.locking.commit process
  · intro transaction member row inserted
    rcases List.mem_append.mp member with earlier | last
    · exact kept.ownership.shipments earlier inserted
    · cases List.mem_singleton.mp last
      exact (kept.locking.backed inserted).2.1
  · intro transaction member row inserted
    rcases List.mem_append.mp member with earlier | last
    · exact kept.ownership.outboxEvents earlier inserted
    · cases List.mem_singleton.mp last
      exact (kept.locking.backed inserted).2.1
  · intro transaction member
    rcases List.mem_append.mp member with earlier | last
    · exact kept.ledger.settled transaction earlier
    · cases List.mem_singleton.mp last
      rfl
  · intro publication member
    obtain ⟨row, pending, same⟩ := kept.ledger.faithful publication member
    exact ⟨row, pending.snoc _, same⟩
  · intro owner lsn row member
    exact (kept.claims owner lsn row member).snoc _
  · intro owner response answered honest correlationId reported request
    obtain ⟨shipment, equality, source⟩ :=
      kept.answers owner response answered honest correlationId reported request
    exact ⟨shipment, equality, source.snoc _⟩
  · intro other different
    exact
      { log := ⟨[_], rfl, by simpa using different⟩
        locks := fun lock held => Locking.mem_of_release different held
        uuids := fun _ issued => issued
        claimed := fun id held => by
          simp only [World.commit, replay_snoc]
          exact kept.locking.outbox_of_commit different held
        connection := by
          simp only [World.connection, World.commit, World.discard,
            Function.update_of_ne different] }

end Step

end Freight
