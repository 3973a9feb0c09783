/-
Module: Freight.Proofs.RelaySafety
Purpose: Any number of relays over one outbox: a row has one claimant, is
  published before it is marked published, is left alone from then on, and every
  call of the publisher is accounted for.
Trusted boundary: none
Main exports:
  Effect.published_row_kept, History.published_row_kept, RowStep.confirmed, attemptsOf,
  RowStep.attempts, History.attempts, Ledger.committed_calls, relay_safety
-/
import Freight.Proofs.StoreWellFormed

namespace Freight

open Interaction (ProcessId)

section Rows

variable {server : Server} {base : Database} {quiet : Prop}
  {requests : ProcessId → Request} {wal : List Transaction} {request : Request}
  {transaction : Transaction} {id : UUID} {row : OutboxEventModel}

/-! ## Published rows -/

/-- The writes of a legal entry update at most the row that its relay has claimed,
and that row was not published. -/
theorem Effect.updates_claimed (effect : Effect server base quiet wal request transaction)
    {patch : OutboxPatch} (updated : Write.updateOutbox id patch ∈ transaction.writes) :
    ∃ attempt : Attempt, attempt.row.id = id ∧
      (replay base wal).outbox id = some attempt.row ∧ attempt.row.publishedAt = none ∧
      transaction.writes = attempt.writes server.postgres ∧
      transaction.published = [attempt.publication transaction.process] ∧
      (attempt.failure = none → attempt.confirmed = true) := by
  cases effect with
  | nothing writes published =>
      rw [writes] at updated
      cases updated
  | created creation createdAt receivedAt freshShipment freshEvent freshOutbox writes =>
      rw [writes] at updated
      simp [Creation.writes] at updated
  | received reception reports lsn current found saved loaded identity handled payload
      reads freshEvent freshOutbox writes =>
      rw [writes] at updated
      simp only [Reception.writes, List.mem_append, List.mem_cons, reduceCtorEq,
        List.not_mem_nil, or_self, false_or] at updated
      unfold Reception.projection at updated
      split at updated <;> simp at updated
  | attempted attempt locked pending confirmed writes published =>
      rw [writes] at updated
      obtain ⟨rfl, -⟩ : id = attempt.row.id ∧ _ := by
        simpa [Attempt.writes] using updated
      exact ⟨attempt, rfl, locked, pending, writes, published, confirmed⟩

/-- Step lemma: an entry leaves a published row alone. -/
theorem Effect.published_row_kept
    (effect : Effect server base quiet wal request transaction)
    (found : (replay base wal).outbox id = some row) (published : row.publishedAt ≠ none) :
    ((replay base wal).writeAll transaction.writes).outbox id = some row := by
  refine Database.outbox_writeAll_of_some_of_not_updated ?_ found
  intro patch updated
  obtain ⟨attempt, -, claimed, pending, -⟩ := effect.updates_claimed updated
  rw [found] at claimed
  cases claimed
  exact published pending

/-- Run lemma: a published row stays as it is. -/
theorem History.published_row_kept (history : History server base quiet requests wal)
    {index : Nat} (found : (replay base (wal.take index)).outbox id = some row)
    (published : row.publishedAt ≠ none) :
    (replay base wal).outbox id = some row := by
  induction history with
  | start => simpa using found
  | @commit wal transaction earlier effect first inductionHypothesis =>
      by_cases inside : index ≤ wal.length
      · rw [List.take_append_of_le_length inside] at found
        rw [replay_snoc]
        exact effect.published_row_kept (inductionHypothesis found) published
      · rwa [List.take_of_length_le (by simp; omega)] at found

/-- A published row stays as it is up to any later point. -/
theorem History.published_row_kept_at (history : History server base quiet requests wal)
    {first second : Nat} (ordered : first ≤ second)
    (found : (replay base (wal.take first)).outbox id = some row)
    (published : row.publishedAt ≠ none) :
    (replay base (wal.take second)).outbox id = some row := by
  have shorter : wal.take first = (wal.take second).take first := by
    rw [List.take_take, Nat.min_eq_left ordered]
  rw [shorter] at found
  exact (history.take second).published_row_kept found published

/-- What was pending at some point had not been published before. -/
theorem History.pending_lt (history : History server base quiet requests wal)
    {index lsn : Nat} {claimed : OutboxEventModel}
    (found : (replay base (wal.take index)).outbox claimed.id = some row)
    (published : row.publishedAt ≠ none) (pending : Pending base wal lsn claimed) :
    lsn < index := by
  by_contra later
  have kept := history.published_row_kept_at (Nat.not_lt.mp later) found published
  rw [pending.2.1] at kept
  cases kept
  exact published pending.2.2

/-! ## One row over one entry -/

/-- Calls of the publisher for a row. -/
def callsFor (id : UUID) (publications : List Publication) : Nat :=
  publications.countP fun publication => publication.message.messageId = id

/-- What an entry does to the row with an id: nothing, enqueue it, or count an
attempt to publish it. -/
inductive RowStep (postgres : Postgres) (transaction : Transaction) (id : UUID) :
    Option OutboxEventModel → Option OutboxEventModel → Prop where
  | same (row : Option OutboxEventModel)
      (calls : callsFor id transaction.published = 0) :
      RowStep postgres transaction id row row
  | enqueued (row : OutboxEventModel) (unpublished : row.publishedAt = none)
      (unattempted : row.attempts = 0) (calls : callsFor id transaction.published = 0) :
      RowStep postgres transaction id none (some row)
  | attempted (attempt : Attempt) (own : attempt.row.id = id)
      (pending : attempt.row.publishedAt = none)
      (confirmed : attempt.failure = none → attempt.confirmed = true)
      (published : transaction.published = [attempt.publication transaction.process]) :
      RowStep postgres transaction id (some attempt.row)
        (some ((postgres.outboxPatch attempt.patch).applyTo attempt.row))

/-- Inserting one outbox row is a step of every row. -/
theorem RowStep.insert {postgres : Postgres} {before : Option OutboxEventModel}
    (silent : transaction.published = []) (fresh : row.id = id → before = none)
    (unpublished : row.publishedAt = none) (unattempted : row.attempts = 0) :
    RowStep postgres transaction id before
      (before.or (if row.id = id then some row else none)) := by
  have calls : callsFor id transaction.published = 0 := by rw [silent]; rfl
  by_cases own : row.id = id
  · rw [fresh own, if_pos own]
    exact .enqueued row unpublished unattempted calls
  · rw [if_neg own, Option.or_none]
    exact .same before calls

/-- Step lemma: every entry is a step of every outbox row. -/
theorem Effect.rowStep (effect : Effect server base quiet wal request transaction)
    (id : UUID) :
    RowStep server.postgres transaction id ((replay base wal).outbox id)
      (((replay base wal).writeAll transaction.writes).outbox id) := by
  cases effect with
  | nothing writes published =>
      rw [writes]
      exact .same _ (by rw [published]; rfl)
  | created creation createdAt receivedAt freshShipment freshEvent freshOutbox writes raised
      published =>
      rw [writes]
      simp only [Creation.writes, Database.writeAll_cons, Database.writeAll_nil,
        Database.outbox_insertOutbox, Database.outbox_insertEvent,
        Database.outbox_insertShipment]
      refine RowStep.insert published ?_ rfl rfl
      rintro rfl
      exact freshOutbox
  | received reception reports lsn current found saved loaded identity handled payload
      reads freshEvent freshOutbox writes raised published =>
      have projected : ∀ database : Database,
          (database.writeAll (reception.projection server.postgres)).outbox id =
            database.outbox id := by
        intro database
        unfold Reception.projection
        split <;> rfl
      rw [writes, Reception.writes, Database.writeAll_append, projected]
      simp only [Database.writeAll_cons, Database.writeAll_nil, Database.outbox_insertOutbox,
        Database.outbox_insertEvent]
      refine RowStep.insert published ?_ rfl rfl
      rintro rfl
      exact freshOutbox
  | attempted attempt locked pending confirmed writes published =>
      rw [writes]
      simp only [Attempt.writes, Database.writeAll_cons, Database.writeAll_nil,
        Database.outbox_updateOutbox]
      by_cases own : id = attempt.row.id
      · subst own
        rw [if_pos rfl, locked]
        exact .attempted attempt rfl pending confirmed published
      · rw [if_neg own]
        refine .same _ ?_
        rw [published]
        simp [callsFor, Attempt.publication, SQLAlchemyOutboxRepository.message,
          Ne.symm own]

/-- An entry that leaves a row published, when it was not, has had its publication
confirmed. -/
theorem RowStep.confirmed {postgres : Postgres} {before after : Option OutboxEventModel}
    (step : RowStep postgres transaction id before after) (left : after = some row)
    (published : row.publishedAt ≠ none) :
    ∃ earlier, before = some earlier ∧
      (earlier.publishedAt ≠ none ∨
        ∃ publication ∈ transaction.published, publication.confirmed = true ∧
          publication.process = transaction.process ∧
          publication.message = SQLAlchemyOutboxRepository.message earlier) := by
  cases step with
  | same _ calls => exact ⟨row, left, .inl published⟩
  | enqueued _ unpublished =>
      cases left
      exact absurd unpublished published
  | attempted attempt own pending confirmed published' =>
      refine ⟨attempt.row, rfl, .inr ?_⟩
      cases outcome : attempt.failure with
      | none =>
          refine ⟨attempt.publication transaction.process, ?_, confirmed outcome, rfl, rfl⟩
          rw [published']
          exact List.mem_singleton_self _
      | some error =>
          -- a failed attempt does not touch the column
          cases left
          refine absurd ?_ published
          simp [Attempt.patch, Attempt.marked, outcome, OutboxPatch.between, changedColumn,
            SQLAlchemyOutboxRepository.failed, pending, optionalDateTimeEq,
            Postgres.outboxPatch, OutboxPatch.applyTo]

/-! ## Attempts -/

/-- The attempts counted on a row, if there is one. -/
def attemptsOf (row : Option OutboxEventModel) : Nat := (row.map OutboxEventModel.attempts).getD 0

/-- Step lemma: an entry counts the calls that it made. -/
theorem RowStep.attempts {postgres : Postgres} {before after : Option OutboxEventModel}
    (step : RowStep postgres transaction id before after) :
    attemptsOf after = attemptsOf before + callsFor id transaction.published := by
  cases step with
  | same _ calls => rw [calls, Nat.add_zero]
  | enqueued row unpublished unattempted calls =>
      rw [calls, Nat.add_zero]
      exact unattempted
  | attempted attempt own pending confirmed published =>
      have calls : callsFor id transaction.published = 1 := by
        rw [published]
        simp [callsFor, Attempt.publication, SQLAlchemyOutboxRepository.message, own]
      have marked : attempt.marked.attempts = attempt.row.attempts + 1 := by
        unfold Attempt.marked
        split <;> rfl
      rw [calls]
      simp [attemptsOf, OutboxPatch.applyTo, Postgres.outboxPatch, Attempt.patch,
        OutboxPatch.between, changedColumn, marked]

/-- Run lemma: the attempts counted since the start are the calls made by the
transactions that have committed. -/
theorem History.attempts (history : History server base quiet requests wal) (id : UUID) :
    attemptsOf ((replay base wal).outbox id) =
      attemptsOf (base.outbox id) +
        (wal.map fun transaction => callsFor id transaction.published).sum := by
  induction history with
  | start => simp
  | @commit wal transaction earlier effect first inductionHypothesis =>
      rw [replay_snoc, (effect.rowStep id).attempts, inductionHypothesis, List.map_append,
        List.sum_append, Nat.add_assoc]
      simp

end Rows

/-! ## The ledger -/

section Ledger

variable {server : Server} {base : Database} {quiet : Prop}
  {requests : ProcessId → Request} {wal : List Transaction} {id : UUID}
  {publications : List Publication} {published : ProcessId → List Publication}

/-- The calls of one more process. -/
theorem callsFor_cons {process : ProcessId} {processes : List ProcessId}
    (other : process ∉ processes) (publications : List Publication) :
    callsFor id (publications.filter fun publication =>
        publication.process ∈ process :: processes) =
      callsFor id (publications.filter fun publication => publication.process = process) +
        callsFor id (publications.filter fun publication =>
          publication.process ∈ processes) := by
  induction publications with
  | nil => rfl
  | cons publication publications inductionHypothesis =>
      simp only [callsFor, List.mem_cons] at inductionHypothesis ⊢
      by_cases mine : publication.process = process
      · simp only [List.filter_cons, mine, other, true_or, decide_true, if_true,
          decide_false, Bool.false_eq_true, if_false, List.countP_cons, inductionHypothesis]
        omega
      · by_cases theirs : publication.process ∈ processes
        · simp only [List.filter_cons, mine, theirs, or_true, decide_true,
            if_true, decide_false, Bool.false_eq_true, if_false, List.countP_cons,
            inductionHypothesis]
          omega
        · simpa [List.filter_cons, mine, theirs] using inductionHypothesis

/-- The calls of a list of processes, process by process. -/
theorem callsFor_processes {processes : List ProcessId} (distinct : processes.Nodup)
    (publications : List Publication) :
    callsFor id (publications.filter fun publication =>
        publication.process ∈ processes) =
      (processes.map fun process => callsFor id
        (publications.filter fun publication => publication.process = process)).sum := by
  induction processes with
  | nil => simp [callsFor]
  | cons process processes inductionHypothesis =>
      rw [List.nodup_cons] at distinct
      rw [callsFor_cons distinct.1, inductionHypothesis distinct.2]
      rfl

/-- The calls made by transactions that have committed. -/
theorem Ledger.committed_calls (ledger : Ledger base wal publications published)
    (distinct : (wal.map Transaction.process).Nodup) :
    callsFor id (publications.filter fun publication =>
        publication.process ∈ wal.map Transaction.process) =
      (wal.map fun transaction => callsFor id transaction.published).sum := by
  rw [callsFor_processes distinct, List.map_map]
  congr 1
  apply List.map_congr_left
  intro transaction member
  simp only [Function.comp_apply, ledger.filtered, ledger.settled transaction member]

/-- The message of a row is determined by what the relay leaves alone. -/
theorem message_of_snapshot {first second : OutboxEventModel}
    (same : first.snapshot = second.snapshot) :
    SQLAlchemyOutboxRepository.message first = SQLAlchemyOutboxRepository.message second := by
  have message : ∀ row : OutboxEventModel, SQLAlchemyOutboxRepository.message row =
      SQLAlchemyOutboxRepository.message row.snapshot := fun _ => rfl
  rw [message first, message second, same]

/-- Every call carried the message of the row that is there now. -/
theorem Ledger.current (ledger : Ledger base wal publications published)
    {publication : Publication} (member : publication ∈ publications) :
    ∃ row, (replay base wal).outbox publication.message.messageId = some row ∧
      publication.message = SQLAlchemyOutboxRepository.message row := by
  obtain ⟨row, ⟨-, found, -⟩, same⟩ := ledger.faithful publication member
  obtain ⟨current, foundNow, unchanged⟩ := replay_outbox_of_take found
  refine ⟨current, ?_, same.trans (message_of_snapshot unchanged.symm)⟩
  rw [same]
  exact foundNow

end Ledger

/-- Relay safety, with any number of relays among any other traffic, any faults
and crashes.  No row is locked by two transactions.  A commit that leaves a row
published, when it was not, is that of a transaction whose call of the publisher
for the row returned.  A row that was published after `index` commits is still
what it was then, is locked by nobody, and was claimed and published only before.
A process calls the publisher at most once.  For every row the calls since the
start are the attempts counted since the start and the calls of transactions that
have not committed, and each of them carried the message of the row. -/
theorem relay_safety (server : Server) (base : Database) (keyed : base.outboxKeys.Nodup)
    (requests : ProcessId → Request) (state : PlatformState)
    (reached : (platform server requests).Reachable { base := base } state) :
    (∀ first second id, (first, Lock.outboxRow id) ∈ state.world.locks →
        (second, Lock.outboxRow id) ∈ state.world.locks → first = second) ∧
      (∀ (index : Nat) transaction id row, state.world.wal[index]? = some transaction →
        (replay base (state.world.wal.take (index + 1))).outbox id = some row →
        row.publishedAt ≠ none →
        ∃ earlier, (replay base (state.world.wal.take index)).outbox id = some earlier ∧
          (earlier.publishedAt ≠ none ∨
            ∃ publication ∈ transaction.published, publication.confirmed = true ∧
              publication.process = transaction.process ∧
              publication.message = SQLAlchemyOutboxRepository.message earlier)) ∧
      (∀ (index : Nat) id row,
        (replay base (state.world.wal.take index)).outbox id = some row →
        row.publishedAt ≠ none →
        state.world.database.outbox id = some row ∧
          (∀ process, (process, Lock.outboxRow id) ∉ state.world.locks) ∧
          (∀ process lsn claimed, Read.claimed lsn claimed ∈ state.world.reads process →
            claimed.id = id → lsn < index) ∧
          ∀ publication ∈ state.world.publications,
            publication.message.messageId = id → publication.lsn < index) ∧
      (∀ process, (state.world.publications.filter fun publication =>
        publication.process = process).length ≤ 1) ∧
      (∀ id, callsFor id state.world.publications + attemptsOf (base.outbox id) =
        attemptsOf (state.world.database.outbox id) +
          callsFor id (state.world.publications.filter fun publication =>
            publication.process ∉ state.world.wal.map Transaction.process)) ∧
      ∀ publication ∈ state.world.publications, ∃ row,
        state.world.database.outbox publication.message.messageId = some row ∧
          publication.message = SQLAlchemyOutboxRepository.message row := by
  have kept : Invariant server base False requests state.world :=
    platform_invariant keyed reached
  have tables : state.world.database = replay base state.world.wal := by
    rw [World.database, kept.start]
  rw [tables]
  refine ⟨?_, ?_, ?_, ?_, ?_, ?_⟩
  · exact fun first second id one two => kept.locking.exclusive one two
  · intro index transaction id row found left published
    rw [replay_take_succ base found] at left
    exact ((kept.history.effect_of_getElem found).rowStep id).confirmed left published
  · intro index id row found published
    have current := kept.history.published_row_kept found published
    refine ⟨current, ?_, ?_, ?_⟩
    · intro process locked
      obtain ⟨claimed, there, pending⟩ := kept.locking.claimed locked
      rw [current] at there
      cases there
      exact published pending
    · rintro process lsn claimed seen rfl
      exact kept.history.pending_lt found published (kept.claims process lsn claimed seen)
    · rintro publication member rfl
      obtain ⟨claimed, pending, same⟩ := kept.ledger.faithful publication member
      rw [same] at found
      exact kept.history.pending_lt found published pending
  · intro process
    rw [kept.ledger.filtered]
    exact kept.ledger.once process
  · intro id
    have split : callsFor id state.world.publications =
        callsFor id (state.world.publications.filter fun publication =>
            publication.process ∈ state.world.wal.map Transaction.process) +
          callsFor id (state.world.publications.filter fun publication =>
            publication.process ∉ state.world.wal.map Transaction.process) := by
      have parts := List.countP_eq_countP_filter_add state.world.publications
        (fun publication => decide (publication.message.messageId = id))
        (fun publication =>
          decide (publication.process ∈ state.world.wal.map Transaction.process))
      simp only [callsFor, decide_not]
      exact parts
    rw [split, kept.ledger.committed_calls kept.history.processes_nodup,
      kept.history.attempts id]
    omega
  · exact fun publication member => kept.ledger.current member

/-- The two relays of the journey: each has called the publisher, for rows of their
own, and the one that was killed has left its row unpublished. -/
theorem journey_relays :
    ∃ state : PlatformState, (platform Server.utc journey).Reachable {} state ∧
      state.world.publications.length = 2 ∧
      ∀ id, callsFor id state.world.publications + attemptsOf (({} : Database).outbox id) =
        attemptsOf (state.world.database.outbox id) +
          callsFor id (state.world.publications.filter fun publication =>
            publication.process ∉ state.world.wal.map Transaction.process) := by
  obtain ⟨state, ran, shown⟩ := Option.map_eq_some_iff.mp journeySchedule_runs
  have reached : (platform Server.utc journey).Reachable {} state := ⟨journeySchedule, ran⟩
  obtain ⟨-, -, -, -, counted, -⟩ :=
    relay_safety Server.utc {} List.nodup_nil journey state reached
  exact ⟨state, reached, (Prod.mk.inj shown).2, counted⟩

end Freight
