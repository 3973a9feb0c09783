/-
Module: Freight.Proofs.RelayFairness
Purpose: A message that cannot be published does not hold up the others: between two claims
  of its row a single relay claims every other row that was due.
Trusted boundary: none
Main exports:
  Server.first_le, Relay.Sole, Relay.Steady, Relay.failedCommit, Relay.claimed_between,
  Relay.no_starvation
-/
import Freight.Store.Entries
import Freight.Store.RelayClaims
import Freight.Proofs.StoreWellFormed

namespace Freight

open Interaction (ProcessId)

/-- Equal times are the same point on the time line. -/
theorem DateTime.instant_of_eq {localize : Int → Int} {left right : DateTime}
    (same : left.eq right = true) : left.instant localize = right.instant localize := by
  obtain ⟨leftWall, leftOffset⟩ := left
  obtain ⟨rightWall, rightOffset⟩ := right
  cases leftOffset <;> cases rightOffset <;> simp_all [DateTime.eq, DateTime.instant]

/-! ## The order of claims -/

section Order

variable {server : Server} {rows : List OutboxEventModel} {row other : OutboxEventModel}

/-- When a row may be attempted next. -/
abbrev Server.attemptAt (server : Server) (row : OutboxEventModel) : Int :=
  row.nextAttemptAt.instant server.postgres.localize

theorem Server.le_of_precedes (ahead : server.precedes row other = true) :
    server.attemptAt row ≤ server.attemptAt other := by
  simp only [precedes] at ahead
  split at ahead
  · exact Int.le_of_lt (by simpa using ahead)
  · rename_i same
    exact Int.le_of_eq (by simpa using same)

theorem Server.le_of_not_precedes (behind : server.precedes row other ≠ true) :
    server.attemptAt other ≤ server.attemptAt row := by
  by_contra later
  apply behind
  have earlier : server.attemptAt row < server.attemptAt other := Int.not_le.mp later
  simp only [precedes]
  rw [if_pos (Int.ne_of_lt earlier)]
  exact decide_eq_true earlier

theorem Server.first_eq_none (none : server.first rows = none) : rows = [] := by
  cases rows with
  | nil => rfl
  | cons head tail =>
      simp only [first] at none
      split at none
      · cases none
      · split at none <;> cases none

/-- No row is to be attempted before the one that is claimed. -/
theorem Server.first_le (chosen : server.first rows = some row) (member : other ∈ rows) :
    server.attemptAt row ≤ server.attemptAt other := by
  induction rows generalizing row with
  | nil => cases member
  | cons head tail inductionHypothesis =>
      simp only [first] at chosen
      split at chosen
      · rename_i empty
        cases chosen
        rw [Server.first_eq_none empty] at member
        cases List.mem_singleton.mp member
        exact Int.le_refl _
      · rename_i best found
        split at chosen
        · rename_i ahead
          cases chosen
          rcases List.mem_cons.mp member with rfl | later
          · exact Server.le_of_precedes ahead
          · exact inductionHypothesis found later
        · rename_i behind
          cases chosen
          have front := Server.le_of_not_precedes behind
          rcases List.mem_cons.mp member with rfl | later
          · exact Int.le_refl _
          · exact Int.le_trans front (inductionHypothesis found later)

end Order

/-! ## Rows that no transaction updates -/

theorem replay_outbox_kept {base : Database} {wal : List Transaction} {id : UUID}
    {row : OutboxEventModel} {first second : Nat} (ordered : first ≤ second)
    (untouched : ∀ index transaction, first ≤ index → index < second →
      wal[index]? = some transaction → ∀ patch, Write.updateOutbox id patch ∉ transaction.writes)
    (found : (replay base (wal.take first)).outbox id = some row) :
    (replay base (wal.take second)).outbox id = some row := by
  induction second, ordered using Nat.le_induction with
  | base => exact found
  | succ index inside inductionHypothesis =>
      have kept := inductionHypothesis fun earlier transaction after before =>
        untouched earlier transaction after (Nat.lt_succ_of_lt before)
      cases stands : wal[index]? with
      | none =>
          have short := List.getElem?_eq_none_iff.mp stands
          rw [List.take_of_length_le (Nat.le_succ_of_le short)]
          rwa [List.take_of_length_le short] at kept
      | some transaction =>
          rw [replay_take_succ base stands]
          exact Database.outbox_writeAll_of_some_of_not_updated
            (untouched index transaction inside (Nat.lt_succ_self index) stands) kept

namespace Relay

/-! ## One relay with a clock -/

/-- Whether a process is a relay. -/
def isRelay : Request → Bool
  | .publishOne _ => true
  | _ => false

theorem isRelay_of_exists {request : Request}
    (relays : ∃ retryDelay, request = .publishOne retryDelay) : isRelay request = true := by
  obtain ⟨retryDelay, rfl⟩ := relays
  rfl

/-- One relay at a time: when it does something, the transaction of every other one that has
done something has ended. -/
def Sole (requests : ProcessId → Request) (log : Log) : Prop :=
  log.Each fun earlier process _ => isRelay (requests process) = true →
    ∀ other, other ≠ process → isRelay (requests other) = true →
      earlier.entriesOf other ≠ [] →
        ∃ entry ∈ earlier.entriesOf other, releases entry = true

/-- A call that begins when all others are over keeps it so. -/
theorem Sole.call {requests : ProcessId → Request} {log : Log} (sole : Sole requests log)
    (process : ProcessId) (entries : List LogEntry)
    (finished : ∀ other, other ≠ process → log.entriesOf other ≠ [] →
      ∃ entry ∈ log.entriesOf other, releases entry = true) :
    Sole requests (log ++ entries.map (Prod.mk process)) := by
  induction entries using List.reverseRecOn with
  | nil => simpa using sole
  | append_singleton earlier last inductionHypothesis =>
      rw [List.map_append, ← List.append_assoc]
      refine Interaction.Journal.Each.snoc inductionHypothesis ?_
      intro _ other different _ spoke
      rw [Interaction.Journal.entriesOf_append_of_ne different] at spoke ⊢
      exact finished other different spoke

/-- What an entry says about the time. -/
def reading (localize : Int → Int) (entry : LogEntry) : Option Int :=
  match entry.exchange with
  | some ⟨.statement .now, .ok value⟩ => some (value.instant localize)
  | _ => none

/-- What the clock has shown to the relays. -/
def readings (localize : Int → Int) (requests : ProcessId → Request) (log : Log) : List Int :=
  log.filterMap fun entry =>
    if isRelay (requests entry.1) then reading localize entry.2 else none

/-- The clock that the relays read does not go back. -/
def Steady (server : Server) (requests : ProcessId → Request) (log : Log) : Prop :=
  (readings server.postgres.localize requests log).Pairwise (· ≤ ·)

/-- What a relay has said when its attempt has failed and this has been committed. -/
def failedCommit (retryDelay : Int) (claimedAt : DateTime) (row : OutboxEventModel)
    (error : PyError) (failedAt : DateTime) : List Said :=
  marked retryDelay claimedAt row (.error error) failedAt ++ [⟨.statement .commit, .ok ()⟩]

/-- An entry by which a row is claimed. -/
def Claims (entry : LogEntry) (row : OutboxEventModel) : Prop :=
  ∃ now, entry.exchange = some ⟨.statement (.claimOutbox now), .ok (some row)⟩

section Between

variable {server : Server} {base : Database} {requests : ProcessId → Request}
  {record : Record} {log earlier : Log}
  {process other : ProcessId} {entry : LogEntry} {row : OutboxEventModel}

theorem Sole.at_entry (sole : Sole requests log)
    (inside : earlier ++ [(process, entry)] <+: log) (acts : isRelay (requests process) = true)
    (different : other ≠ process) (relays : isRelay (requests other) = true)
    (spoke : earlier.entriesOf other ≠ []) :
    ∃ released ∈ earlier.entriesOf other, releases released = true :=
  sole earlier process entry inside acts other different relays spoke

/-- What a process has said so far does not end its transaction. -/
theorem open_of_exchanges {spoken : List Said}
    (alive : ∀ former ∈ earlier.entriesOf process, former.exchange ≠ none)
    (said : earlier.exchangesOf process = spoken) (lasting : ∀ x ∈ spoken, ends x = false)
    {former : LogEntry} (member : former ∈ earlier.entriesOf process) :
    releases former = false := by
  cases exchanged : former.exchange with
  | none => exact absurd exchanged (alive former member)
  | some exchange =>
      rw [releases, exchanged]
      refine lasting exchange ?_
      rw [← said]
      exact List.mem_filterMap.mpr ⟨former, member, exchanged⟩

theorem marked_open {retryDelay : Int} {claimedAt now : DateTime}
    {report : Except PyError Unit} :
    ∀ said ∈ marked retryDelay claimedAt row report now, ends said = false := by
  simp [marked, published, claimed, ends]

/-- Entries of a process in an earlier part are entries of it later on. -/
theorem entriesOf_mono {more : Log} (inside : earlier <+: more) {former : LogEntry}
    (member : former ∈ earlier.entriesOf process) : former ∈ more.entriesOf process := by
  rw [Interaction.Journal.mem_entriesOf] at member ⊢
  exact inside.subset member

/-- When another relay acts, an attempt of which something has been said is over. -/
theorem Sole.committed_before (sole : Sole requests log) {spoken : List Said} {later : Log}
    {last : LogEntry} (inside : earlier ++ [(process, entry)] <+: log)
    (acts : isRelay (requests process) = true) (different : other ≠ process)
    (relays : isRelay (requests other) = true) (spoke : earlier.entriesOf other ≠ [])
    (ending : later ++ [(other, last)] <+: log)
    (alive : ∀ former ∈ later.entriesOf other, former.exchange ≠ none)
    (said : later.exchangesOf other = spoken) (lasting : ∀ x ∈ spoken, ends x = false) :
    later ++ [(other, last)] <+: earlier := by
  rcases Interaction.Journal.prefix_cases ending inside with before | same | after
  · exact before
  · cases same.2
    exact absurd rfl different
  · obtain ⟨released, member, closed⟩ := sole.at_entry inside acts different relays spoke
    have there := entriesOf_mono ((List.prefix_append _ _).trans after) member
    rw [open_of_exchanges alive said lasting there] at closed
    cases closed

/-- A commit of which the record tells has been counted. -/
theorem committedBy_lt {later : Log} {said : Said} (exchanged : entry.exchange = some said)
    (final : commits said = true) (inside : earlier ++ [(process, entry)] <+: later) :
    committedBy earlier < committedBy later := by
  refine Nat.lt_of_lt_of_le ?_ (committedBy_mono inside)
  rw [committedBy_snoc, exchanged]
  simp [final]

/-- The claim of a committed attempt. -/
theorem Commitment.claim {index : Nat} {transaction : Transaction}
    (commitment : Commitment server base requests record index transaction) :
    ∃ start claim, start ++ [(transaction.process, claim)] <+: commitment.earlier ∧
      claim.exchange = some ⟨.statement (.claimOutbox commitment.claimedAt),
        .ok (some commitment.row)⟩ := by
  have split : commitment.earlier.exchangesOf transaction.process =
      [⟨.statement .now, .ok commitment.claimedAt⟩] ++
        ⟨.statement (.claimOutbox commitment.claimedAt), .ok (some commitment.row)⟩ ::
          (marked commitment.retryDelay commitment.claimedAt commitment.row commitment.report
            commitment.now).drop 2 := commitment.spoken
  obtain ⟨start, claim, rest, whole, exchanged, -⟩ :=
    Interaction.Journal.exists_of_exchangesOf split
  exact ⟨start, claim, ⟨rest, by rw [whole]; simp⟩, exchanged⟩

/-- Whatever commits between two claims has been claimed between them, unless it is the
attempt that the first claim has begun. -/
theorem claimed_between (lawful : Lawful requests record.log)
    (faithful : Faithful server base record) (sole : Sole requests record.log)
    {before middle : Log} {first : ProcessId} {one : LogEntry} {index : Nat}
    {transaction : Transaction} (inside : before ++ (first, one) :: middle <+: record.log)
    (claims : Claims one row) (after : committedBy before ≤ index)
    (within : index < committedBy (before ++ (first, one) :: middle))
    (commitment : Commitment server base requests record index transaction) :
    (transaction.process = first ∧ commitment.row = row) ∨
      ∃ claim, (transaction.process, claim) ∈ middle ∧ Claims claim commitment.row := by
  obtain ⟨start, claim, started, claimed⟩ := commitment.claim
  obtain ⟨claimedAt, exchanged⟩ := claims
  have oneInside : before ++ [(first, one)] <+: record.log :=
    List.IsPrefix.trans ⟨middle, by simp⟩ inside
  have stamped : index = committedBy commitment.earlier :=
    commitment.stamp.symm.trans (faithful.stamped _ _ _ commitment.inside)
  have late : ¬ commitment.earlier ++ [(transaction.process, commitment.entry)] <+: before := by
    intro early
    have less := committedBy_lt commitment.committed rfl early
    omega
  have early : commitment.earlier ++ [(transaction.process, commitment.entry)] <+:
      before ++ (first, one) :: middle := by
    rcases List.prefix_or_prefix_of_prefix commitment.inside inside with early | late
    · exact early
    · rcases List.prefix_concat_iff.mp late with same | beyond
      · exact same ▸ List.prefix_rfl
      · have less := committedBy_mono beyond
        omega
  have startInside : start ++ [(transaction.process, claim)] <+: record.log :=
    (started.trans (List.prefix_append _ _)).trans commitment.inside
  obtain ⟨acts, spoken, alive⟩ := lawful_claim lawful oneInside exchanged
  rcases Interaction.Journal.prefix_cases startInside oneInside with before' | same | after'
  · exfalso
    have spoke : claim ∈ before.entriesOf transaction.process := by
      rw [Interaction.Journal.mem_entriesOf]
      exact before'.subset (by simp)
    by_cases own : transaction.process = first
    · have twice : (⟨.statement (.claimOutbox commitment.claimedAt),
          .ok (some commitment.row)⟩ : Said) ∈ before.exchangesOf first :=
        own ▸ List.mem_filterMap.mpr ⟨claim, spoke, claimed⟩
      rw [spoken] at twice
      cases List.mem_singleton.mp twice
    · exact late (sole.committed_before oneInside (isRelay_of_exists acts) own
        (isRelay_of_exists ⟨_, commitment.relays⟩) (List.ne_nil_of_mem spoke) commitment.inside
        commitment.alive commitment.spoken marked_open)
  · obtain ⟨-, equality⟩ := same
    cases equality
    rw [exchanged] at claimed
    cases claimed
    exact .inl ⟨rfl, rfl⟩
  · right
    refine ⟨claim, ?_, _, claimed⟩
    obtain ⟨rest, rfl⟩ := after'
    have through : before ++ [(first, one)] ++ (rest ++ [(transaction.process, claim)]) <+:
        before ++ [(first, one)] ++ middle := by
      have whole := started.trans ((List.prefix_append _ _).trans early)
      simpa using whole
    exact ((List.prefix_append_right_inj _).mp through).subset (by simp)

/-- A row that nobody claims between two claims stays as it is. -/
theorem outbox_between (lawful : Lawful requests record.log)
    (faithful : Faithful server base record) (current : Current base record)
    (history : History server base False requests record.world.wal)
    (sole : Sole requests record.log) {before middle : Log} {first : ProcessId}
    {one : LogEntry} (inside : before ++ (first, one) :: middle <+: record.log)
    (claims : Claims one row) {id : UUID}
    (unclaimed : ∀ claimant claim other, (claimant, claim) ∈ middle → Claims claim other →
      other.id ≠ id)
    {start : Nat} (after : committedBy before ≤ start)
    (bystander : row.id = id → ∀ index transaction, start ≤ index →
      record.world.wal[index]? = some transaction → transaction.process ≠ first)
    {found : OutboxEventModel}
    (there : (replay base (record.world.wal.take start)).outbox id = some found)
    (ordered : start ≤ committedBy (before ++ (first, one) :: middle)) :
    (replay base (record.world.wal.take
      (committedBy (before ++ (first, one) :: middle)))).outbox id = some found := by
  refine replay_outbox_kept ordered ?_ there
  intro index transaction later within stands patch updated
  have effect := history.effect_of_getElem stands
  obtain ⟨retryDelay, relays⟩ := relays_of_update effect updated
  rcases commitment lawful faithful current stands relays with idle | ⟨⟨commitment⟩⟩
  · rw [idle] at updated
    cases updated
  · have target : id = commitment.row.id := by
      rw [commitment.writes] at updated
      cases List.mem_singleton.mp updated
      rfl
    rcases claimed_between lawful faithful sole inside claims (Nat.le_trans after later) within
      commitment with ⟨own, same⟩ | ⟨claim, member, claimed⟩
    · exact bystander (by rw [target, same]) index transaction later stands own
    · exact unclaimed _ claim _ member claimed target.symm

/-- A relay that holds a row has not finished when another one claims. -/
theorem Sole.not_holds (sole : Sole requests log) (lawful : Lawful requests log)
    (inside : earlier ++ [(process, entry)] <+: log)
    (acts : isRelay (requests process) = true) (different : other ≠ process) {id : UUID} :
    ¬ Holds earlier other id := by
  intro holds
  obtain ⟨before, taking, said, after, split, exchanged, taken, lasting⟩ := holds
  obtain ⟨start, rest, whole, entries⟩ := Interaction.Journal.exists_of_entriesOf split
  have started : start ++ [(other, taking)] <+: log := by
    refine List.IsPrefix.trans ⟨rest, ?_⟩ ((List.prefix_append _ _).trans inside)
    rw [whole]
    simp
  obtain ⟨alive, law⟩ := lawful start other taking started
  have allowed : Law (requests other) (start.exchangesOf other) said := law _ exchanged
  have relays : isRelay (requests other) = true ∧
      ends said = false ∧ ∀ x ∈ start.exchangesOf other, ends x = false := by
    generalize requests other = request at allowed
    generalize start.exchangesOf other = spoken at allowed
    cases request with
    | publishOne retryDelay =>
        refine ⟨rfl, ?_⟩
        cases allowed with
        | claim now answer => exact ⟨rfl, by simp [ends]⟩
        | mark claimedAt row report now answer =>
            exact ⟨rfl, by simp [published, claimed, ends]⟩
        | _ => cases taken
    | _ =>
        obtain ⟨operation, answer⟩ := said
        obtain ⟨statement, same, foreign⟩ := allowed
        cases same
        cases statement with
        | claimOutbox now => exact foreign.elim
        | updateOutbox target patch => exact foreign.elim
        | _ => cases taken
  obtain ⟨relays, open', quiet⟩ := relays
  have spoke : earlier.entriesOf other ≠ [] := by
    rw [split]
    simp
  obtain ⟨released, member, closed⟩ := sole.at_entry inside acts different relays spoke
  rw [split] at member
  rcases List.mem_append.mp member with early | late
  · rw [← entries] at early
    rw [open_of_exchanges alive rfl quiet early] at closed
    cases closed
  · rcases List.mem_cons.mp late with rfl | later
    · simp [releases, exchanged, open'] at closed
    · rw [lasting released later] at closed
      cases closed

/-! ## The row of a failed attempt -/

/-- It is due again after the delay. -/
theorem attemptAt_failed {retryDelay : Int} {error : PyError} {failedAt : DateTime}
    (utc : failedAt.utcoffset = some 0) :
    server.attemptAt ((server.postgres.outboxPatch
        (attempt retryDelay row (.error error) failedAt).patch).applyTo row) =
      failedAt.instant server.postgres.localize + retryDelay := by
  have later : (failedAt.add retryDelay).instant server.postgres.localize =
      failedAt.instant server.postgres.localize + retryDelay := by
    simp only [DateTime.instant, DateTime.add, utc]
    omega
  by_cases unchanged : row.nextAttemptAt.eq (failedAt.add retryDelay) = true
  · -- the column is left out, because it would not change
    have same : row.nextAttemptAt.instant server.postgres.localize =
        (failedAt.add retryDelay).instant server.postgres.localize :=
      DateTime.instant_of_eq unchanged
    rw [← later, ← same]
    simp [Server.attemptAt, OutboxPatch.applyTo, Postgres.outboxPatch, Attempt.patch,
      OutboxPatch.between, changedColumn, Attempt.marked, attempt,
      SQLAlchemyOutboxRepository.failed, unchanged]
  · rw [← later]
    simp [Server.attemptAt, OutboxPatch.applyTo, Postgres.outboxPatch, Attempt.patch,
      OutboxPatch.between, changedColumn, Attempt.marked, attempt,
      SQLAlchemyOutboxRepository.failed, unchanged, Postgres.timestamptz]

/-- Of the two readings of an attempt the second is not the earlier one. -/
theorem Steady.marked {localize : Int → Int} (relays : isRelay (requests process) = true)
    (steady : (readings localize requests earlier).Pairwise (· ≤ ·)) {retryDelay : Int}
    {claimedAt now : DateTime} {report : Except PyError Unit}
    (spoken : earlier.exchangesOf process = marked retryDelay claimedAt row report now) :
    claimedAt.instant localize ≤ now.instant localize := by
  have split : earlier.exchangesOf process = published claimedAt row report ++
      ⟨.statement .now, .ok now⟩ :: (Relay.marked retryDelay claimedAt row report now).drop 5 :=
    spoken
  obtain ⟨start, entry, rest, rfl, exchanged, said⟩ :=
    Interaction.Journal.exists_of_exchangesOf split
  have first : (⟨.statement .now, .ok claimedAt⟩ : Said) ∈ start.exchangesOf process := by
    rw [said]
    simp [published, claimed]
  obtain ⟨opening, member, opened⟩ := Interaction.Journal.mem_exchangesOf.mp first
  rw [readings, List.filterMap_append, List.pairwise_append] at steady
  refine steady.2.2 _ (List.mem_filterMap.mpr ⟨(process, opening), member, ?_⟩) _
    (List.mem_filterMap.mpr ⟨(process, entry), List.mem_cons_self, ?_⟩)
  · simp [relays, reading, opened]
  · simp [relays, reading, exchanged]

/-- The row that a committed attempt leaves. -/
theorem committed_marked (faithful : Faithful server base record) (current : Current base record)
    (inside : earlier ++ [(process, entry)] <+: record.log)
    (committed : entry.exchange = some ⟨.statement .commit, .ok ()⟩)
    (alive : ∀ former ∈ earlier.entriesOf process, former.exchange ≠ none) {retryDelay : Int}
    {claimedAt now : DateTime} {report : Except PyError Unit}
    (spoken : earlier.exchangesOf process = marked retryDelay claimedAt row report now) :
    (∃ transaction, record.world.wal[entry.stamp]? = some transaction ∧
        transaction.process = process) ∧
      (replay base (record.world.wal.take (entry.stamp + 1))).outbox row.id =
        some ((server.postgres.outboxPatch
          (attempt retryDelay row report now).patch).applyTo row) := by
  obtain ⟨transaction, stands, own, writes⟩ :=
    faithful.committed earlier process entry inside _ committed rfl
  refine ⟨⟨transaction, stands, own⟩, ?_⟩
  have found := current.earlier earlier _ entry inside _ row (hasClaimed_of_marked alive spoken)
  have update : transaction.writes = (attempt retryDelay row report now).writes
      server.postgres := by
    rw [writes, openWrites_of_alive alive, spoken]
    rfl
  rw [replay_take_succ base stands, update]
  simp [Attempt.writes, attempt, found]

/-- A committed failure lies between the two claims. -/
theorem failed_between (lawful : Lawful requests log) (sole : Sole requests log)
    {before middle : Log} {first second : ProcessId} {one two : LogEntry}
    {again : OutboxEventModel} {retryDelay : Int} {claimedAt failedAt reclaimedAt : DateTime}
    {error : PyError}
    (inside : before ++ (first, one) :: middle ++ [(second, two)] <+: log)
    (claims : one.exchange = some ⟨.statement (.claimOutbox claimedAt), .ok (some row)⟩)
    (reclaims : two.exchange = some ⟨.statement (.claimOutbox reclaimedAt), .ok (some again)⟩)
    (failed : failedCommit retryDelay claimedAt row error failedAt <+:
      log.exchangesOf first) :
    ∃ (until' : Log) (entry : LogEntry),
      before ++ [(first, one)] <+: until' ∧
      until' ++ [(first, entry)] <+: before ++ (first, one) :: middle ∧
      entry.exchange = some ⟨.statement .commit, .ok ()⟩ ∧
      (∀ former ∈ until'.entriesOf first, former.exchange ≠ none) ∧
      until'.exchangesOf first = marked retryDelay claimedAt row (.error error) failedAt := by
  obtain ⟨rest, said⟩ := failed
  rw [failedCommit, List.append_assoc] at said
  obtain ⟨until', entry, later, whole, committed, spoken⟩ :=
    Interaction.Journal.exists_of_exchangesOf said.symm
  have ending : until' ++ [(first, entry)] <+: log := ⟨later, by rw [whole]; simp⟩
  have oneInside : before ++ [(first, one)] <+: log :=
    List.IsPrefix.trans ⟨middle ++ [(second, two)], by simp⟩ inside
  obtain ⟨firstRelays, opened, -⟩ := lawful_claim lawful oneInside claims
  obtain ⟨secondRelays, reopened, -⟩ := lawful_claim lawful inside reclaims
  have alive := (lawful until' first entry ending).1
  have there : (first, one) ∈ before ++ (first, one) :: middle := by simp
  have different : first ≠ second := by
    intro same
    have twice : (⟨.statement (.claimOutbox claimedAt), .ok (some row)⟩ : Said) ∈
        Interaction.Journal.exchangesOf (before ++ (first, one) :: middle) second :=
      Interaction.Journal.mem_exchangesOf.mpr ⟨one, same ▸ there, claims⟩
    rw [reopened] at twice
    cases List.mem_singleton.mp twice
  have spoke : Interaction.Journal.entriesOf (before ++ (first, one) :: middle) first ≠ [] :=
    List.ne_nil_of_mem (Interaction.Journal.mem_entriesOf.mpr there)
  refine ⟨until', entry, ?_, ?_, committed, alive, spoken⟩
  · rcases Interaction.Journal.prefix_cases ending oneInside with early | same | late
    · exfalso
      have spent : (⟨.statement .commit, .ok ()⟩ : Said) ∈ before.exchangesOf first :=
        Interaction.Journal.mem_exchangesOf.mpr ⟨entry, early.subset (by simp), committed⟩
      rw [opened] at spent
      cases List.mem_singleton.mp spent
    · obtain ⟨-, equality⟩ := same
      cases equality
      rw [claims] at committed
      cases committed
    · exact late
  · exact sole.committed_before inside (isRelay_of_exists secondRelays) different
      (isRelay_of_exists firstRelays) spoke ending alive spoken marked_open

/-- What a relay claims is a committed row that is due, and the rows that would come before it
are locked by others. -/
theorem claimed_first (lawful : Lawful requests record.log)
    (faithful : Faithful server base record)
    (inside : earlier ++ [(process, entry)] <+: record.log) {now : DateTime}
    (claims : entry.exchange = some ⟨.statement (.claimOutbox now), .ok (some row)⟩) :
    row ∈ (replay base (record.world.wal.take (committedBy earlier))).outboxEvents ∧
      server.attemptAt row ≤ now.instant server.postgres.localize ∧
      ∀ other ∈ (replay base (record.world.wal.take (committedBy earlier))).outboxEvents,
        other.publishedAt = none → server.attemptAt other < server.attemptAt row →
          ∃ holder, holder ≠ process ∧ Holds earlier holder other.id := by
  obtain ⟨-, spoken, alive⟩ := lawful_claim lawful inside claims
  obtain ⟨free, taken, chosen⟩ := faithful.claims earlier process entry inside now row claims
  have clean : openWrites server.postgres earlier process = [] := by
    rw [openWrites_of_alive alive, spoken]
    rfl
  rw [clean, Database.writeAll_nil, faithful.stamped earlier process entry inside] at chosen
  have member := Server.mem_of_first chosen
  simp only [due, List.mem_filter, Bool.and_eq_true, decide_eq_true_eq] at member
  refine ⟨member.1, member.2.1.2, ?_⟩
  intro other present pending ahead
  by_contra unlocked
  have loose : free other = true := by
    by_contra locked
    exact unlocked (taken other (by simpa using locked))
  have candidate : other ∈ due server now free
      (replay base (record.world.wal.take (committedBy earlier))) := by
    simp only [due, List.mem_filter, Bool.and_eq_true, decide_eq_true_eq]
    exact ⟨present, ⟨by simp [pending], Int.le_trans (Int.le_of_lt ahead) member.2.1.2⟩, loose⟩
  exact absurd (Server.first_le chosen candidate) (Int.not_le.mpr ahead)

end Between

/-! ## Fairness -/

/-- Between two claims of a row by a single relay with a steady clock, the first of which has
ended in a committed failure, every other row that was due has been claimed, and the retry
delay has passed since the failure was recorded. -/
theorem no_starvation (server : Server) (base : Database) (keyed : base.outboxKeys.Nodup)
    (requests : ProcessId → Request) (state : RelayingState)
    (reached : (relaying server requests).Reachable { world := { base := base } } state)
    (sole : Sole requests state.world.log) (steady : Steady server requests state.world.log)
    (retryDelay : Int) (positive : 0 < retryDelay) (before middle after : Log)
    (first second : ProcessId) (one two : LogEntry) (row again : OutboxEventModel)
    (claimedAt failedAt reclaimedAt : DateTime) (error : PyError)
    (split : state.world.log = before ++ (first, one) :: middle ++ (second, two) :: after)
    (claims : one.exchange = some ⟨.statement (.claimOutbox claimedAt), .ok (some row)⟩)
    (reclaims : two.exchange = some ⟨.statement (.claimOutbox reclaimedAt), .ok (some again)⟩)
    (same : again.id = row.id)
    (successive : ∀ claimant claim other, (claimant, claim) ∈ middle → Claims claim other →
      other.id ≠ row.id)
    (failed : failedCommit retryDelay claimedAt row error failedAt <+:
      state.world.log.exchangesOf first) :
    (∀ other ∈ (replay base (state.world.world.wal.take one.stamp)).outboxEvents,
        other.id ≠ row.id → other.publishedAt = none →
        server.attemptAt other ≤ claimedAt.instant server.postgres.localize →
        ∃ claimant claim claimed, (claimant, claim) ∈ middle ∧ Claims claim claimed ∧
          claimed.id = other.id) ∧
      failedAt.instant server.postgres.localize + retryDelay ≤
        reclaimedAt.instant server.postgres.localize := by
  obtain ⟨processes, projected⟩ := platform_of_relaying reached
  have invariant := platform_invariant keyed projected
  have lawful := relaying_lawful reached
  have faithful := relaying_faithful reached
  have current := relaying_current keyed reached
  have twoInside : before ++ (first, one) :: middle ++ [(second, two)] <+: state.world.log :=
    ⟨after, by rw [split]; simp⟩
  have inside : before ++ (first, one) :: middle <+: state.world.log :=
    (List.prefix_append _ _).trans twoInside
  have oneInside : before ++ [(first, one)] <+: state.world.log :=
    List.IsPrefix.trans ⟨middle, by simp⟩ inside
  obtain ⟨start, entry, opened, ended, committed, alive, spoken⟩ :=
    failed_between lawful sole twoInside claims reclaims failed
  have ending : start ++ [(first, entry)] <+: state.world.log := ended.trans inside
  have relays := isRelay_of_exists (lawful_claim lawful oneInside claims).1
  obtain ⟨⟨transaction, stands, own⟩, left⟩ :=
    committed_marked faithful current ending committed alive spoken
  rw [faithful.stamped _ _ _ ending] at stands left
  -- the row stays as the failure has left it until it is claimed again
  have before' : committedBy before ≤ committedBy start + 1 :=
    Nat.le_succ_of_le (committedBy_mono ((List.prefix_append _ _).trans opened))
  have bystander : row.id = row.id → ∀ index transaction, committedBy start + 1 ≤ index →
      state.world.world.wal[index]? = some transaction → transaction.process ≠ first := by
    intro _ index later beyond there mine
    have twice := invariant.history.index_unique stands there (own.trans mine.symm)
    omega
  have final := outbox_between lawful faithful current invariant.history sole inside
    ⟨claimedAt, claims⟩ successive before' bystander left
    (Nat.succ_le_of_lt (committedBy_lt committed rfl ended))
  obtain ⟨present, dueAgain, locked⟩ := claimed_first lawful faithful twoInside reclaims
  have keyedThen := (invariant.history.take
    (committedBy (before ++ (first, one) :: middle))).outboxKeys_nodup keyed
  have found := Database.outbox_of_mem keyedThen present
  rw [same, final] at found
  have utc : failedAt.utcoffset = some 0 := by
    have said : (⟨.statement .now, .ok failedAt⟩ : Said) ∈ start.exchangesOf first := by
      rw [spoken]
      simp [marked]
    obtain ⟨reading, member, read⟩ := Interaction.Journal.mem_exchangesOf.mp said
    exact faithful.clock.of_mem
      (((List.prefix_append _ _).trans ending).subset member) failedAt read
  have delayed : server.attemptAt again =
      failedAt.instant server.postgres.localize + retryDelay := by
    rw [← Option.some.inj found]
    exact attemptAt_failed utc
  refine ⟨?_, delayed ▸ dueAgain⟩
  intro other there different pending dueThen
  by_contra unclaimed
  rw [faithful.stamped _ _ _ oneInside] at there
  have keyedBefore := (invariant.history.take (committedBy before)).outboxKeys_nodup keyed
  have kept := outbox_between lawful faithful current invariant.history sole inside
    ⟨claimedAt, claims⟩
    (fun claimant claim claimed member claims same =>
      unclaimed ⟨claimant, claim, claimed, member, claims, same⟩)
    (Nat.le_refl _) (fun same => absurd same.symm different)
    (Database.outbox_of_mem keyedBefore there)
    (committedBy_mono ⟨_, rfl⟩)
  have steadyThen : (readings server.postgres.localize requests start).Pairwise (· ≤ ·) :=
    List.Pairwise.sublist
      (((List.prefix_append _ _).trans ending).sublist.filterMap _) steady
  have later := Steady.marked relays steadyThen spoken
  obtain ⟨holder, foreign, holds⟩ := locked other (Table.mem_of_lookup kept) pending (by omega)
  exact sole.not_holds lawful twoInside
    (isRelay_of_exists (lawful_claim lawful twoInside reclaims).1) foreign holds

/-- The row that an entry claims. -/
def claimedRow (entry : LogEntry) : Option OutboxEventModel :=
  match entry.exchange with
  | some ⟨.statement (.claimOutbox _), .ok row⟩ => row
  | _ => none

theorem claimedRow_of_claims {entry : LogEntry} {row : OutboxEventModel}
    (claims : Claims entry row) : claimedRow entry = some row := by
  obtain ⟨now, exchanged⟩ := claims
  rw [claimedRow, exchanged]

/-! A run in which the first of two rows cannot be published, the second one can, and then the
first one is claimed again. -/

/-- A row that is due from some time on. -/
def enqueued (id : BitVec 128) (due : Int) : OutboxEventModel where
  id := ⟨id⟩
  eventId := ⟨id⟩
  shipmentId := ⟨0⟩
  messageType := eventRecordedRoutingKey
  payload := .obj []
  createdAt := .utc due
  nextAttemptAt := .utc due
  attempts := 0
  correlationId := none

def twoDue : Database := { outboxEvents := [enqueued 1 10, enqueued 2 20] }

def brokerDown : PyError := .operationalError "connection refused"

def retries : ProcessId → Request := fun _ => .publishOne 5

def retrySchedule : List (Interaction.System.Action Choice) :=
  turns 0 [.time (.utc 30), .proceed, .fault brokerDown, .proceed, .time (.utc 31), .proceed,
      .proceed] ++
    turns 1 [.time (.utc 32), .proceed, .proceed, .proceed, .time (.utc 33), .proceed,
      .proceed] ++
    turns 2 [.time (.utc 40), .proceed]

/-- The row as its failure has left it. -/
def retried : OutboxEventModel :=
  { enqueued 1 10 with
    attempts := 1
    nextAttemptAt := .utc 36
    lastError := some "OperationalError" }

/-- What a relay says while some number of transactions has been committed. -/
def call (stamp : Nat) (spoken : List Said) : List LogEntry :=
  spoken.map fun said => { stamp := stamp, exchange := some said }

def failedCall : List LogEntry :=
  call 0 (failedCommit 5 (.utc 30) (enqueued 1 10) brokerDown (.utc 31))

def publishedCall : List LogEntry :=
  call 1 (marked 5 (.utc 32) (enqueued 2 20) (.ok ()) (.utc 33) ++
    [⟨.statement .commit, .ok ()⟩])

def retryCall : List LogEntry := call 2 (claimed (.utc 40) retried)

def retryLog : Log :=
  failedCall.map (Prod.mk 0) ++ publishedCall.map (Prod.mk 1) ++ retryCall.map (Prod.mk 2)

theorem retrySchedule_runs :
    ((((relaying Server.flaky retries).run retrySchedule
      ((relaying Server.flaky retries).initial { world := { base := twoDue } })).map fun state =>
        state.world.log)) = some retryLog := by
  decide +kernel

theorem retryLog_sole : Sole retries retryLog := by
  have first : Sole retries ([] ++ failedCall.map (Prod.mk 0)) :=
    Sole.call .nil 0 failedCall fun other _ spoke => absurd rfl spoke
  have second : Sole retries ([] ++ failedCall.map (Prod.mk 0) ++
      publishedCall.map (Prod.mk 1)) := by
    refine first.call 1 publishedCall ?_
    intro other _ spoke
    by_cases zero : other = 0
    · subst zero
      decide
    · rw [Interaction.Journal.entriesOf_append_of_ne zero] at spoke
      exact absurd rfl spoke
  refine second.call 2 retryCall ?_
  intro other _ spoke
  by_cases one : other = 1
  · subst one
    decide
  · by_cases zero : other = 0
    · subst zero
      decide
    · rw [Interaction.Journal.entriesOf_append_of_ne one,
        Interaction.Journal.entriesOf_append_of_ne zero] at spoke
      exact absurd rfl spoke

theorem retryLog_steady : Steady Server.flaky retries retryLog := by
  unfold Steady
  decide

/-- What lies between the two claims of the first row. -/
def retryMiddle : Log :=
  failedCall.tail.tail.map (Prod.mk 0) ++ publishedCall.map (Prod.mk 1) ++
    [(2, { stamp := 2, exchange := some ⟨.statement .now, .ok (.utc 40)⟩ })]

/-- In between the other row has been claimed, and the failed one has waited. -/
theorem retry_fair :
    ∃ state : RelayingState,
      (relaying Server.flaky retries).Reachable { world := { base := twoDue } } state ∧
      state.world.log = retryLog ∧
      (∀ other ∈ (replay twoDue (state.world.world.wal.take 0)).outboxEvents,
        other.id ≠ (enqueued 1 10).id → other.publishedAt = none →
        Server.flaky.attemptAt other ≤ 30 →
        ∃ claimant claim claimed, (claimant, claim) ∈ retryMiddle ∧ Claims claim claimed ∧
          claimed.id = other.id) ∧
      (31 : Int) + 5 ≤ 40 := by
  obtain ⟨state, ran, logged⟩ := Option.map_eq_some_iff.mp retrySchedule_runs
  have reached :
      (relaying Server.flaky retries).Reachable { world := { base := twoDue } } state :=
    ⟨retrySchedule, ran⟩
  have successive : ∀ claimant claim other, (claimant, claim) ∈ retryMiddle →
      Claims claim other → other.id ≠ (enqueued 1 10).id := by
    intro claimant claim other member claims
    have among : other ∈ retryMiddle.filterMap fun entry => claimedRow entry.2 :=
      List.mem_filterMap.mpr ⟨(claimant, claim), member, claimedRow_of_claims claims⟩
    have only : (retryMiddle.filterMap fun entry => claimedRow entry.2) = [enqueued 2 20] := by
      decide
    rw [only] at among
    cases List.mem_singleton.mp among
    decide
  have failed : failedCommit 5 (.utc 30) (enqueued 1 10) brokerDown (.utc 31) <+:
      state.world.log.exchangesOf 0 := by
    rw [logged]
    exact ⟨[], by decide⟩
  have fair := no_starvation Server.flaky twoDue (by decide) retries state reached
    (logged ▸ retryLog_sole) (logged ▸ retryLog_steady) 5 (by decide)
    [(0, { stamp := 0, exchange := some ⟨.statement .now, .ok (.utc 30)⟩ })] retryMiddle []
    0 2
    { stamp := 0
      exchange := some ⟨.statement (.claimOutbox (.utc 30)), .ok (some (enqueued 1 10))⟩ }
    { stamp := 2
      exchange := some ⟨.statement (.claimOutbox (.utc 40)), .ok (some retried)⟩ }
    (enqueued 1 10) retried (.utc 30) (.utc 31) (.utc 40) brokerDown (by rw [logged]; rfl)
    rfl rfl rfl successive failed
  exact ⟨state, reached, logged, fair⟩

end Relay

end Freight
