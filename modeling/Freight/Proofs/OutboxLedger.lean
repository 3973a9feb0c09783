/-
Module: Freight.Proofs.OutboxLedger
Purpose: The life cycle of the rows of the outbox, and the counters of the relays: what
  they count, and how that adds up to what the rows show.
Trusted boundary: none
Main exports:
  Relay.LifeCycle, Relay.LifeCycle.attempted, Relay.outboxStep, Relay.outbox_sum, Relay.counted,
  Relay.Settled, Relay.outbox_ledger
-/
import Freight.Proofs.RelayFairness
import Freight.Proofs.RelaySafety
import Freight.Store.Columns
import Mathlib.Data.List.Perm.Subperm

namespace Freight.Relay

open Interaction (ProcessId)

/-! ## The life cycle of a row -/

/-- What the columns of a row of the outbox say about each other. -/
structure LifeCycle (server : Server) (row : OutboxEventModel) : Prop where
  created : row.createdAt.instant server.postgres.localize ≤ server.attemptAt row
  published : ∀ publishedAt, row.publishedAt = some publishedAt →
    1 ≤ row.attempts ∧ row.lastError = none ∧
      server.attemptAt row ≤ publishedAt.instant server.postgres.localize
  unpublished : row.publishedAt = none → (row.attempts = 0 ↔ row.lastError = none)

/-- A row as it is added to the outbox. -/
structure Enqueued (row : OutboxEventModel) : Prop where
  due : row.nextAttemptAt = row.createdAt
  unpublished : row.publishedAt = none
  unattempted : row.attempts = 0
  faultless : row.lastError = none

section Rows

variable {server : Server} {row : OutboxEventModel}

theorem enqueued_outboxRow (postgres : Postgres) (message : RecordedEventMessage)
    (now : DateTime) :
    Enqueued (postgres.outboxRow (SQLAlchemyOutboxRepository.model message now)) where
  due := rfl
  unpublished := rfl
  unattempted := rfl
  faultless := rfl

/-- The row that an attempt leaves. -/
def attemptedRow (postgres : Postgres) (attempt : Attempt) : OutboxEventModel :=
  (postgres.outboxPatch attempt.patch).applyTo attempt.row

theorem attemptedRow_attempts (postgres : Postgres) (attempt : Attempt) :
    (attemptedRow postgres attempt).attempts = attempt.row.attempts + 1 := by
  have counted : attempt.marked.attempts = attempt.row.attempts + 1 := by
    unfold Attempt.marked
    split <;> rfl
  rw [← counted]
  exact changedColumn_getD attempt.row.attempts attempt.marked.attempts

theorem attemptedRow_lastError (postgres : Postgres) (attempt : Attempt) :
    (attemptedRow postgres attempt).lastError = attempt.marked.lastError := by
  by_cases same : attempt.row.lastError = attempt.marked.lastError <;>
    simp [attemptedRow, OutboxPatch.applyTo, Postgres.outboxPatch, Attempt.patch,
      OutboxPatch.between, changedColumn, same]

/-- Only an attempt that has succeeded publishes its row. -/
theorem patch_publishedAt (postgres : Postgres) (attempt : Attempt)
    (pending : attempt.row.publishedAt = none) :
    (postgres.outboxPatch attempt.patch).publishedAt =
      match attempt.failure with
      | none => some (some (postgres.timestamptz attempt.now))
      | some _ => none := by
  cases failed : attempt.failure with
  | none =>
      simp [Postgres.outboxPatch, Attempt.patch, OutboxPatch.between, changedColumn,
        Attempt.marked, failed, SQLAlchemyOutboxRepository.published, pending,
        optionalDateTimeEq]
  | some error =>
      simp [Postgres.outboxPatch, Attempt.patch, OutboxPatch.between, changedColumn,
        Attempt.marked, failed, SQLAlchemyOutboxRepository.failed, pending,
        optionalDateTimeEq]

/-- An attempt that has succeeded leaves the time at which the row was due. -/
theorem attemptAt_published {retryDelay : Int} {reply : Unit} {now : DateTime} :
    server.attemptAt
        (attemptedRow server.postgres (attempt retryDelay row (.ok reply) now)) =
      server.attemptAt row := by
  simp [Server.attemptAt, attemptedRow, OutboxPatch.applyTo, Postgres.outboxPatch,
    Attempt.patch, OutboxPatch.between, changedColumn, Attempt.marked, attempt,
    SQLAlchemyOutboxRepository.published, DateTime.eq_refl]

/-- Step lemma: an attempt at a row that was due, with a clock that does not go back. -/
theorem LifeCycle.attempted {retryDelay : Int} {report : Except PyError Unit}
    {claimedAt now : DateTime} (cycle : LifeCycle server row) (delay : 0 ≤ retryDelay)
    (pending : row.publishedAt = none)
    (due : server.attemptAt row ≤ claimedAt.instant server.postgres.localize)
    (steady : claimedAt.instant server.postgres.localize ≤
      now.instant server.postgres.localize)
    (utc : now.utcoffset = some 0) :
    LifeCycle server
      (attemptedRow server.postgres (Relay.attempt retryDelay row report now)) := by
  have counted :=
    attemptedRow_attempts server.postgres (Relay.attempt retryDelay row report now)
  have lastError :=
    attemptedRow_lastError server.postgres (Relay.attempt retryDelay row report now)
  have published :=
    patch_publishedAt server.postgres (Relay.attempt retryDelay row report now) pending
  have early := cycle.created
  cases report with
  | ok reply =>
      have left : (attemptedRow server.postgres
          (Relay.attempt retryDelay row (.ok reply) now)).publishedAt =
            some (server.postgres.timestamptz now) :=
        congrArg (Option.getD · row.publishedAt) published
      constructor
      · rw [attemptAt_published]
        exact early
      · intro publishedAt shown
        rw [left] at shown
        cases shown
        refine ⟨by omega, lastError, ?_⟩
        rw [attemptAt_published, instant_timestamptz]
        exact Int.le_trans due steady
      · intro unpublished
        rw [left] at unpublished
        cases unpublished
  | error error =>
      have left : (attemptedRow server.postgres
          (Relay.attempt retryDelay row (.error error) now)).publishedAt = none :=
        (congrArg (Option.getD · row.publishedAt) published).trans pending
      have later : server.attemptAt (attemptedRow server.postgres
          (Relay.attempt retryDelay row (.error error) now)) =
            now.instant server.postgres.localize + retryDelay := attemptAt_failed utc
      constructor
      · rw [later]
        have same : (attemptedRow server.postgres
            (Relay.attempt retryDelay row (.error error) now)).createdAt = row.createdAt := rfl
        rw [same]
        omega
      · intro publishedAt shown
        rw [left] at shown
        cases shown
      · intro unpublished
        rw [counted, lastError]
        simp [Attempt.marked, Relay.attempt, SQLAlchemyOutboxRepository.failed]

end Rows

/-! ## What a transaction does to the outbox -/

/-- Whether a transaction has counted an attempt on a row. -/
def attempts (transaction : Transaction) : Bool :=
  transaction.writes.any fun write =>
    match write with
    | .updateOutbox _ _ => true
    | _ => false

/-- Whether it has published a row. -/
def publishes (transaction : Transaction) : Bool :=
  transaction.writes.any fun write =>
    match write with
    | .updateOutbox _ patch => patch.publishedAt.isSome
    | _ => false

/-- How a transaction leaves the outbox: as it was, with one more row, or with an attempt
counted on a row that was not published. -/
inductive OutboxStep (postgres : Postgres) (before : Database) (transaction : Transaction) :
    List OutboxEventModel → Prop where
  | same (idle : attempts transaction = false) (silent : publishes transaction = false) :
      OutboxStep postgres before transaction before.outboxEvents
  | enqueued (row : OutboxEventModel) (enqueued : Enqueued row)
      (idle : attempts transaction = false) (silent : publishes transaction = false) :
      OutboxStep postgres before transaction (before.outboxEvents ++ [row])
  | attempted (attempt : Attempt) (locked : before.outbox attempt.row.id = some attempt.row)
      (pending : attempt.row.publishedAt = none)
      (writes : transaction.writes = attempt.writes postgres) :
      OutboxStep postgres before transaction
        (Table.modify OutboxEventModel.id before.outboxEvents attempt.row.id
          (postgres.outboxPatch attempt.patch).applyTo)

section Steps

variable {server : Server} {base : Database} {quiet : Prop} {wal : List Transaction}
  {requests : ProcessId → Request} {request : Request} {transaction : Transaction}

/-- Step lemma. -/
theorem outboxStep (effect : Effect server base quiet wal request transaction) :
    OutboxStep server.postgres (replay base wal) transaction
      ((replay base wal).writeAll transaction.writes).outboxEvents := by
  cases effect with
  | nothing writes =>
      rw [writes]
      exact .same (by rw [attempts, writes]; rfl) (by rw [publishes, writes]; rfl)
  | created creation createdAt receivedAt freshShipment freshEvent freshOutbox writes =>
      rw [writes]
      exact .enqueued (creation.outboxRow server.postgres) (enqueued_outboxRow _ _ _)
        (by rw [attempts, writes]; rfl) (by rw [publishes, writes]; rfl)
  | received reception reports lsn current found saved loaded identity handled payload
      reads freshEvent freshOutbox writes =>
      have idle : attempts transaction = false ∧ publishes transaction = false := by
        rw [attempts, publishes, writes, Reception.writes, Reception.projection]
        split <;> exact ⟨rfl, rfl⟩
      have rows : ((replay base wal).writeAll transaction.writes).outboxEvents =
          (replay base wal).outboxEvents ++ [reception.outboxRow server.postgres] := by
        rw [writes, Reception.writes, Reception.projection]
        split <;> rfl
      rw [rows]
      exact .enqueued _ (enqueued_outboxRow _ _ _) idle.1 idle.2
  | attempted attempt locked pending confirmed writes =>
      rw [writes]
      exact .attempted attempt locked pending writes

/-- Run lemma: what a row counts, over all rows, is what the transactions have added. -/
theorem outbox_sum {weight : OutboxEventModel → Nat} {adds : Transaction → Bool}
    (history : History server base quiet requests wal) (empty : base.outboxEvents = [])
    (enqueued : ∀ row, Enqueued row → weight row = 0)
    (silent : ∀ transaction, attempts transaction = false → publishes transaction = false →
      adds transaction = false)
    (attempted : ∀ transaction (attempt : Attempt), attempt.row.publishedAt = none →
      transaction.writes = attempt.writes server.postgres →
      weight (attemptedRow server.postgres attempt) =
        weight attempt.row + if adds transaction then 1 else 0) :
    ((replay base wal).outboxEvents.map weight).sum = wal.countP adds := by
  induction history with
  | start => rw [replay_nil, empty]; rfl
  | @commit wal transaction earlier effect first inductionHypothesis =>
      have keyed : (replay base wal).outboxKeys.Nodup := by
        apply earlier.outboxKeys_nodup
        rw [Database.outboxKeys, empty]
        exact List.nodup_nil
      rw [replay_snoc, List.countP_append, List.countP_singleton, ← inductionHypothesis]
      generalize rows :
        ((replay base wal).writeAll transaction.writes).outboxEvents = after
      have step := outboxStep effect
      rw [rows] at step
      cases step with
      | same idle quiet => rw [silent transaction idle quiet]; rfl
      | enqueued row fresh idle quiet =>
          rw [silent transaction idle quiet, List.map_append, List.sum_append,
            List.map_singleton, List.sum_singleton, enqueued row fresh]
          rfl
      | attempted attempt locked pending writes =>
          have shifted : ((Table.modify OutboxEventModel.id (replay base wal).outboxEvents
              attempt.row.id (server.postgres.outboxPatch attempt.patch).applyTo).map
                weight).sum + weight attempt.row =
              ((replay base wal).outboxEvents.map weight).sum +
                weight ((server.postgres.outboxPatch attempt.patch).applyTo attempt.row) :=
            Table.sum_modify keyed locked
          have gained := attempted transaction attempt pending writes
          rw [attemptedRow] at gained
          omega

end Steps

/-! ## Every row -/

section Runs

variable {server : Server} {base : Database} {requests : ProcessId → Request}
  {record : Record}

/-- The row of a committed attempt had not been published, and it was due when it was
claimed. -/
theorem Commitment.due {index : Nat} {transaction : Transaction}
    (lawful : Lawful requests record.log) (faithful : Faithful server base record)
    (commitment : Commitment server base requests record index transaction) :
    server.attemptAt commitment.row ≤
      commitment.claimedAt.instant server.postgres.localize := by
  obtain ⟨start, claim, started, exchanged⟩ := commitment.claim
  have inside : start ++ [(transaction.process, claim)] <+: record.log :=
    (started.trans (List.prefix_append _ _)).trans commitment.inside
  exact (claimed_first lawful faithful inside exchanged).2.1

/-- Its clock showed UTC, and no earlier time than when the row was claimed. -/
theorem Commitment.clock {index : Nat} {transaction : Transaction}
    (faithful : Faithful server base record) (steady : Steady server requests record.log)
    (commitment : Commitment server base requests record index transaction) :
    commitment.now.utcoffset = some 0 ∧
      commitment.claimedAt.instant server.postgres.localize ≤
        commitment.now.instant server.postgres.localize := by
  have earlier : commitment.earlier <+: record.log :=
    (List.prefix_append _ _).trans commitment.inside
  constructor
  · have said : (⟨.statement .now, .ok commitment.now⟩ : Said) ∈
        commitment.earlier.exchangesOf transaction.process := by
      rw [commitment.spoken]
      simp [marked]
    obtain ⟨reading, member, read⟩ := Interaction.Journal.mem_exchangesOf.mp said
    exact faithful.clock.of_mem (earlier.subset member) commitment.now read
  · have steadyThen : (readings server.postgres.localize requests
        commitment.earlier).Pairwise (· ≤ ·) :=
      List.Pairwise.sublist (earlier.sublist.filterMap _) steady
    exact Steady.marked (isRelay_of_exists ⟨_, commitment.relays⟩) steadyThen
      commitment.spoken

/-- An attempt that the log holds is the one that its relay tells of. -/
theorem Commitment.agrees {index : Nat} {transaction : Transaction} {attempt : Attempt}
    (commitment : Commitment server base requests record index transaction)
    (locked : (replay base (record.world.wal.take index)).outbox attempt.row.id =
      some attempt.row)
    (writes : transaction.writes = attempt.writes server.postgres) :
    commitment.row = attempt.row ∧
      server.postgres.outboxPatch (Relay.attempt commitment.retryDelay commitment.row
        commitment.report commitment.now).patch = server.postgres.outboxPatch attempt.patch := by
  have same := commitment.writes.symm.trans writes
  simp only [Attempt.writes, List.cons.injEq, Write.updateOutbox.injEq, and_true] at same
  refine ⟨?_, same.2⟩
  have found := commitment.found
  have id : commitment.row.id = attempt.row.id := same.1
  rw [id, locked] at found
  exact (Option.some.inj found).symm

end Runs

/-! ## The counters -/

/-- Whether an entry increments the counter with a label. -/
def increments (outcome : Outcome) (entry : LogEntry) : Bool :=
  match entry.exchange with
  | some ⟨.count other, .ok _⟩ => other = outcome
  | _ => false

/-- The value of a counter, summed over all processes. -/
def counted (outcome : Outcome) (log : Log) : Nat :=
  log.countP fun entry => increments outcome entry.2

/-- Whether a transaction counts an attempt that has succeeded, or one that has failed. -/
def settles (confirmed : Bool) (transaction : Transaction) : Bool :=
  attempts transaction && publishes transaction == confirmed

section Counters

variable {requests : ProcessId → Request} {log earlier : Log} {process : ProcessId}
  {entry : LogEntry} {outcome : Outcome}

/-- Whether a committed outcome is counted. -/
def reports : Said → Bool
  | ⟨.count .publishedCommitted, _⟩ | ⟨.count .retryCommitted, _⟩ => true
  | _ => false

/-- An attempt has been committed, and its session closed. -/
def committed (retryDelay : Int) (claimedAt : DateTime) (row : OutboxEventModel)
    (report : Except PyError Unit) (now : DateTime) : List Said :=
  marked retryDelay claimedAt row report now ++
    [⟨.statement .commit, .ok ()⟩, ⟨.statement .rollback, .ok ()⟩]

end Counters

/-! ## Counters and rows -/

/-- Whether a relay has committed an attempt without having counted it yet. -/
def owes (spoken : List Said) : Bool :=
  (spoken.any fun said => match said with | ⟨.statement (.publish _), _⟩ => true | _ => false) &&
    spoken.any commits && !spoken.any reports

/-- No relay is between the commit of an attempt and the increment of its counter, neither at
work nor killed there. -/
def Settled (requests : ProcessId → Request) (log : Log) : Prop :=
  ∀ entry ∈ log, isRelay (requests entry.1) = true → owes (log.exchangesOf entry.1) = false

section Ledger

variable {server : Server} {base : Database} {requests : ProcessId → Request}
  {record : Record} {process : ProcessId}

/-- What the writes of an attempt say about how it went. -/
theorem settles_of_writes {postgres : Postgres} {transaction : Transaction} {attempt : Attempt}
    (pending : attempt.row.publishedAt = none)
    (writes : transaction.writes = attempt.writes postgres) :
    attempts transaction = true ∧ publishes transaction = attempt.failure.isNone := by
  have published := patch_publishedAt postgres attempt pending
  rw [attempts, publishes, writes, Attempt.writes, List.any_cons, List.any_nil, List.any_cons,
    List.any_nil]
  refine ⟨rfl, ?_⟩
  simp only [published]
  cases attempt.failure <;> rfl

end Ledger

/-! ## The ledger -/

theorem sum_published (rows : List OutboxEventModel) :
    (rows.map fun row => if row.publishedAt.isSome then 1 else 0).sum =
      rows.countP fun row => row.publishedAt.isSome := by
  induction rows with
  | nil => rfl
  | cons row rows inductionHypothesis =>
      rw [List.map_cons, List.sum_cons, inductionHypothesis, List.countP_cons]
      exact Nat.add_comm _ _

section Totals

variable {server : Server} {base : Database} {requests : ProcessId → Request}
  {wal : List Transaction}

theorem publishes_attempts {transaction : Transaction}
    (idle : attempts transaction = false) : settles true transaction = false := by
  rw [settles, idle]
  rfl

theorem published_total (history : History server base False requests wal)
    (empty : base.outboxEvents = []) :
    ((replay base wal).outboxEvents.countP fun row => row.publishedAt.isSome) =
      wal.countP (settles true) := by
  rw [← sum_published]
  refine outbox_sum history empty ?_ (fun _ idle _ => publishes_attempts idle) ?_
  · intro row fresh
    rw [fresh.unpublished]
    rfl
  · intro transaction attempt pending writes
    obtain ⟨counts, succeeded⟩ := settles_of_writes pending writes
    have left : (attemptedRow server.postgres attempt).publishedAt =
        ((server.postgres.outboxPatch attempt.patch).publishedAt).getD
          attempt.row.publishedAt := rfl
    rw [left, patch_publishedAt _ _ pending, pending, settles, counts, succeeded]
    cases attempt.failure <;> rfl

end Totals

instance (server : Server) (requests : ProcessId → Request) (log : Log) :
    Decidable (Steady server requests log) :=
  inferInstanceAs (Decidable (List.Pairwise _ _))

instance (requests : ProcessId → Request) (log : Log) : Decidable (Settled requests log) :=
  inferInstanceAs (Decidable (∀ _ ∈ log, _))

end Freight.Relay
