/-
Module: Freight.Store.RelayClaims
Purpose: What a relay knows about the row that it has claimed, and what it has said by the
  time it commits.
Trusted boundary: none
Main exports:
  Relay.Lawful, Relay.lawful_claim, Relay.HasClaimed, Relay.relaying_current,
  Relay.Commitment, Relay.commitment
-/
import Freight.Store.RelayLog
import Freight.Store.Verified

namespace Freight.Relay

open Interaction (ProcessId)

/-- Every process keeps to what its code says. -/
abbrev Lawful (requests : ProcessId → Request) (log : Log) : Prop :=
  Interaction.Journal.Lawful (fun process => Law (requests process)) log

section Laws

variable {requests : ProcessId → Request} {log earlier : Log} {process : ProcessId}
  {entry : LogEntry}

/-! ## Claims and commits in the record -/

/-- Only a relay claims, and it does so right after it has read the clock. -/
theorem lawful_claim (lawful : Lawful requests log)
    (inside : earlier ++ [(process, entry)] <+: log) {now : DateTime}
    {answer : Except PyError (Option OutboxEventModel)}
    (exchanged : entry.exchange = some ⟨.statement (.claimOutbox now), answer⟩) :
    (∃ retryDelay, requests process = .publishOne retryDelay) ∧
      earlier.exchangesOf process = [⟨.statement .now, .ok now⟩] ∧
      ∀ former ∈ earlier.entriesOf process, former.exchange ≠ none := by
  obtain ⟨alive, law⟩ := lawful earlier process entry inside
  have said : Law (requests process) (earlier.exchangesOf process) _ := law _ exchanged
  generalize requests process = request at said
  generalize earlier.exchangesOf process = spoken at said
  cases request with
  | publishOne retryDelay =>
      cases said with
      | claim now answer => exact ⟨⟨retryDelay, rfl⟩, rfl, alive⟩
  | _ =>
      obtain ⟨statement, same, foreign⟩ := said
      cases same
      exact absurd foreign id

/-- The open writes of a process that has not been killed follow from what it has said. -/
theorem openWrites_of_alive {postgres : Postgres}
    (alive : ∀ former ∈ log.entriesOf process, former.exchange ≠ none) :
    openWrites postgres log process = (log.exchangesOf process).foldl (pending postgres) [] := by
  rw [openWrites, Interaction.Journal.exchangesOf]
  generalize log.entriesOf process = entries at alive
  generalize ([] : List Write) = writes
  induction entries generalizing writes with
  | nil => rfl
  | cons first rest inductionHypothesis =>
      have others := inductionHypothesis fun former member =>
        alive former (List.mem_cons_of_mem _ member)
      cases exchanged : first.exchange with
      | none => exact absurd exchanged (alive first List.mem_cons_self)
      | some said =>
          rw [List.foldl_cons, List.filterMap_cons_some exchanged, List.foldl_cons, others,
            settled, exchanged]

end Laws

/-! ## A row that is claimed stays as it is -/

/-- A process has claimed a row, and its transaction has not ended since. -/
def HasClaimed (log : Log) (process : ProcessId) (row : OutboxEventModel) : Prop :=
  ∃ before entry now after, log.entriesOf process = before ++ entry :: after ∧
    entry.exchange = some ⟨.statement (.claimOutbox now), .ok (some row)⟩ ∧
    ∀ later ∈ after, releases later = false

section Claims

variable {log : Log} {process other : ProcessId} {row : OutboxEventModel}
  {entry : LogEntry}

/-- What has been claimed after one more entry. -/
theorem HasClaimed.of_snoc (claimed : HasClaimed (log ++ [(process, entry)]) other row) :
    (HasClaimed log other row ∧ (other = process → releases entry = false)) ∨
      (other = process ∧ ∃ now,
        entry.exchange = some ⟨.statement (.claimOutbox now), .ok (some row)⟩) := by
  obtain ⟨before, claim, now, after, split, exchanged, lasting⟩ := claimed
  by_cases same : other = process
  · subst same
    rw [Interaction.Journal.entriesOf_snoc_self] at split
    rcases List.eq_nil_or_concat after with rfl | ⟨rest, last, rfl⟩
    · obtain ⟨-, equality⟩ := List.append_inj' split rfl
      cases equality
      exact .inr ⟨rfl, now, exchanged⟩
    · have whole : log.entriesOf other ++ [entry] = (before ++ claim :: rest) ++ [last] := by
        rw [split]
        simp
      obtain ⟨same, equality⟩ := List.append_inj' whole rfl
      cases equality
      refine .inl ⟨⟨before, claim, now, rest, same, exchanged, ?_⟩, fun _ => ?_⟩
      · exact fun later member => lasting later (by simp [member])
      · exact lasting _ (by simp)
  · rw [Interaction.Journal.entriesOf_snoc_of_ne same] at split
    exact .inl ⟨⟨before, claim, now, after, split, exchanged, lasting⟩, fun own =>
      absurd own same⟩

end Claims

/-- A claimed row is locked and as it was claimed, now and at every entry before. -/
structure Current (base : Database)
    (record : Record) : Prop where
  now : ∀ process row, HasClaimed record.log process row →
    (process, Lock.outboxRow row.id) ∈ record.world.locks ∧
      (replay base record.world.wal).outbox row.id = some row
  earlier : record.log.Each fun earlier _ entry =>
    ∀ process row, HasClaimed earlier process row →
      (replay base (record.world.wal.take entry.stamp)).outbox row.id = some row

theorem eq_of_commits {said : Said} (final : commits said = true) :
    said = ⟨.statement .commit, .ok ()⟩ := by
  unfold commits at final
  split at final
  · rfl
  · cases final

/-- A commit ends a transaction. -/
theorem ends_of_commits {said : Said} (final : commits said = true) : ends said = true := by
  rw [eq_of_commits final]
  rfl

namespace Current

variable {server : Server} {base : Database} {requests : ProcessId → Request}
  {process : ProcessId} {before after : Record}

/-- Step lemma: an operation that is put on record. -/
theorem perform (kept : Current base before) (faithful : Faithful server base before)
    (invariant : Invariant server base False requests before.world)
    (keyed : base.outboxKeys.Nodup) {said : Said}
    (performed : Performed server process said before.world after.world)
    (logged : after.log = before.log ++
      [(process, { stamp := before.world.wal.length, exchange := some said })])
    (lawful : Lawful requests after.log) : Current base after := by
  have still : ∀ other row, HasClaimed before.log other row →
      (other = process → ends said = false) →
      (other, Lock.outboxRow row.id) ∈ after.world.locks ∧
        (replay base after.world.wal).outbox row.id = some row := by
    intro other row claimed lasting
    obtain ⟨locked, found⟩ := kept.now other row claimed
    refine ⟨(performed.locks other row.id).mpr (.inr ⟨locked, lasting⟩), ?_⟩
    rw [performed.wal]
    split
    · rename_i final
      have different : other ≠ process := by
        intro same
        have closed := ends_of_commits final
        rw [lasting same] at closed
        cases closed
      rw [replay_snoc]
      exact (invariant.locking.outbox_of_commit different locked).trans found
    · exact found
  have within : ∀ (earlier : Log) owner (entry : LogEntry),
      earlier ++ [(owner, entry)] <+: before.log →
      replay base (after.world.wal.take entry.stamp) =
        replay base (before.world.wal.take entry.stamp) := by
    intro earlier owner entry inside
    have bound : entry.stamp ≤ before.world.wal.length := by
      rw [faithful.length, faithful.stamped earlier owner entry inside]
      exact committedBy_mono ((List.prefix_append _ _).trans inside)
    rw [performed.wal]
    split
    · rw [List.take_append_of_le_length bound]
    · rfl
  constructor
  · intro other row claimed
    rw [logged] at claimed
    rcases claimed.of_snoc with ⟨earlier, lasting⟩ | ⟨rfl, now, exchanged⟩
    · exact still other row earlier lasting
    · cases exchanged
      have locked : (other, Lock.outboxRow row.id) ∈ after.world.locks :=
        (performed.locks other row.id).mpr (.inl ⟨rfl, by simp [takes]⟩)
      refine ⟨locked, ?_⟩
      -- the relay has written nothing before its claim, so it sees what is committed
      rw [logged] at lawful
      obtain ⟨-, spoken, alive⟩ := lawful_claim lawful List.prefix_rfl rfl
      have clean : before.world.writes other = [] := by
        rw [faithful.writes, openWrites_of_alive alive, spoken]
        rfl
      have member := Server.mem_of_first performed.chosen
      rw [Server.claimable, List.mem_filter, World.visible, World.database, faithful.start,
        clean] at member
      rw [performed.wal]
      exact Database.outbox_of_mem (invariant.history.outboxKeys_nodup keyed) member.1
  · rw [logged]
    refine Interaction.Journal.Each.snoc (kept.earlier.mono ?_) ?_
    · intro earlier owner entry inside held other row claimed
      rw [within earlier owner entry inside]
      exact held other row claimed
    · intro other row claimed
      have whole : after.world.wal.take before.world.wal.length = before.world.wal := by
        rw [performed.wal]
        split
        · exact List.take_left
        · exact List.take_length
      rw [whole]
      exact (kept.now other row claimed).2

/-- Step lemma: a process that is killed. -/
theorem crash (kept : Current base before)
    (same : after.world = before.world.discard process)
    (logged : after.log = before.log ++
      [(process, { stamp := before.world.wal.length, exchange := none })]) :
    Current base after := by
  have wal : after.world.wal = before.world.wal := by rw [same]; rfl
  constructor
  · intro other row claimed
    rw [logged] at claimed
    rcases claimed.of_snoc with ⟨earlier, lasting⟩ | ⟨rfl, now, exchanged⟩
    · obtain ⟨locked, found⟩ := kept.now other row earlier
      have different : other ≠ process := by
        intro own
        cases lasting own
      rw [wal, same]
      exact ⟨Locking.mem_of_release different locked, found⟩
    · cases exchanged
  · rw [logged, wal]
    refine Interaction.Journal.Each.snoc kept.earlier ?_
    intro other row claimed
    rw [List.take_length]
    exact (kept.now other row claimed).2

end Current

/-- Run lemma: a claimed row stays as it was claimed. -/
theorem relaying_current {server : Server} {base : Database} {requests : ProcessId → Request}
    (keyed : base.outboxKeys.Nodup) {state : RelayingState}
    (reached : (relaying server requests).Reachable { world := { base := base } } state) :
    Current base state.world := by
  obtain ⟨actions, ran⟩ := reached
  have both := (relaying server requests).run_induction
    (motive := fun state =>
      (relaying server requests).Reachable { world := { base := base } } state ∧
        Current base state.world) ?_ ?_ ran
  · exact both.2
  · intro action state next both stepped
    obtain ⟨reached, kept⟩ := both
    have goes : (relaying server requests).Reachable { world := { base := base } } next :=
      Interaction.System.Reachable.step _ reached stepped
    refine ⟨goes, ?_⟩
    obtain ⟨processes, projected⟩ := platform_of_relaying reached
    rcases (relaying server requests).step_cases stepped with
      ⟨process, choice, operation, resume, answer, after, rfl, found, acted, rfl⟩ |
        ⟨process, program, rfl, found, rfl⟩
    · obtain ⟨-, acts, logged⟩ := Interaction.System.recorded_act acted
      exact kept.perform (relaying_faithful reached) (platform_invariant keyed projected) keyed
        (performed acts) logged (relaying_lawful goes)
    · exact kept.crash rfl rfl
  · refine ⟨⟨[], rfl⟩, ?_, .nil⟩
    intro process row claimed
    obtain ⟨before, entry, now, after, split, -⟩ := claimed
    simp [Interaction.System.initial] at split

/-! ## What a relay has said by the time it commits -/

section Commits

variable {requests : ProcessId → Request} {log earlier : Log} {process : ProcessId}
  {entry : LogEntry} {retryDelay : Int}

/-- A relay commits after it has found nothing to do, or after it has marked its row. -/
theorem lawful_commit (lawful : Lawful requests log)
    (inside : earlier ++ [(process, entry)] <+: log)
    (relays : requests process = .publishOne retryDelay) {said : Said}
    (exchanged : entry.exchange = some said) (final : commits said = true) :
    (∀ former ∈ earlier.entriesOf process, former.exchange ≠ none) ∧
      ((∃ now, earlier.exchangesOf process =
          [⟨.statement .now, .ok now⟩, ⟨.statement (.claimOutbox now), .ok none⟩]) ∨
        ∃ claimedAt row report now,
          earlier.exchangesOf process = marked retryDelay claimedAt row report now) := by
  obtain ⟨alive, law⟩ := lawful earlier process entry inside
  have allowed : Law (requests process) (earlier.exchangesOf process) said := law _ exchanged
  rw [relays] at allowed
  refine ⟨alive, ?_⟩
  generalize earlier.exchangesOf process = spoken at allowed
  cases allowed with
  | idle now answer => exact .inl ⟨now, rfl⟩
  | commit claimedAt row report now answer => exact .inr ⟨claimedAt, row, report, now, rfl⟩
  | _ => cases final

/-- What has been claimed, from what has been said. -/
theorem hasClaimed_of_exchanges {before after : List Said} {now : DateTime}
    {row : OutboxEventModel}
    (alive : ∀ former ∈ log.entriesOf process, former.exchange ≠ none)
    (split : log.exchangesOf process =
      before ++ ⟨.statement (.claimOutbox now), .ok (some row)⟩ :: after)
    (lasting : ∀ later ∈ after, ends later = false) : HasClaimed log process row := by
  obtain ⟨first, rest, whole, -, behind⟩ := List.filterMap_eq_append_iff.mp split
  obtain ⟨skipped, claim, last, same, -, exchanged, following⟩ :=
    List.filterMap_eq_cons_iff.mp behind
  refine ⟨first ++ skipped, claim, now, last, ?_, exchanged, ?_⟩
  · rw [whole, same, List.append_assoc]
  · intro later member
    have present : later ∈ log.entriesOf process := by
      rw [whole, same]
      simp [member]
    cases said : later.exchange with
    | none => exact absurd said (alive later present)
    | some exchange =>
        have spoken : exchange ∈ after := by
          rw [← following]
          exact List.mem_filterMap.mpr ⟨later, member, said⟩
        rw [releases, said]
        exact lasting exchange spoken

theorem hasClaimed_of_marked {claimedAt now : DateTime} {row : OutboxEventModel}
    {report : Except PyError Unit}
    (alive : ∀ former ∈ log.entriesOf process, former.exchange ≠ none)
    (spoken : log.exchangesOf process = marked retryDelay claimedAt row report now) :
    HasClaimed log process row := by
  have split : log.exchangesOf process =
      [⟨.statement .now, .ok claimedAt⟩] ++
        ⟨.statement (.claimOutbox claimedAt), .ok (some row)⟩ ::
          (marked retryDelay claimedAt row report now).drop 2 := spoken
  refine hasClaimed_of_exchanges alive split ?_
  simp [marked, published, claimed, ends]

/-- Only a relay updates rows of the outbox. -/
theorem relays_of_update {server : Server} {base : Database} {quiet : Prop}
    {wal : List Transaction} {request : Request} {transaction : Transaction}
    (effect : Effect server base quiet wal request transaction) {id : UUID}
    {patch : OutboxPatch} (updated : Write.updateOutbox id patch ∈ transaction.writes) :
    ∃ retryDelay, request = .publishOne retryDelay := by
  cases effect with
  | nothing writes published =>
      rw [writes] at updated
      cases updated
  | created creation createdAt receivedAt freshShipment freshEvent freshOutbox writes =>
      rw [writes] at updated
      simp [Creation.writes] at updated
  | received reception reports lsn current found saved loaded identity handled payload
      reads freshEvent freshOutbox writes =>
      rw [writes] at updated
      simp only [Reception.writes, List.mem_append, List.mem_cons, reduceCtorEq,
        List.not_mem_nil, or_self, false_or] at updated
      unfold Reception.projection at updated
      split at updated <;> simp at updated
  | attempted attempt => exact ⟨_, rfl⟩

end Commits

/-- A committed attempt, as the record has it: what its relay had said, and the row as it was
claimed and as it still was when the attempt was committed. -/
structure Commitment (server : Server) (base : Database) (requests : ProcessId → Request)
    (record : Record) (index : Nat)
    (transaction : Transaction) where
  earlier : Log
  entry : LogEntry
  retryDelay : Int
  claimedAt : DateTime
  row : OutboxEventModel
  report : Except PyError Unit
  now : DateTime
  inside : earlier ++ [(transaction.process, entry)] <+: record.log
  stamp : entry.stamp = index
  committed : entry.exchange = some ⟨.statement .commit, .ok ()⟩
  relays : requests transaction.process = .publishOne retryDelay
  alive : ∀ former ∈ earlier.entriesOf transaction.process, former.exchange ≠ none
  spoken : earlier.exchangesOf transaction.process = marked retryDelay claimedAt row report now
  writes : transaction.writes = (attempt retryDelay row report now).writes server.postgres
  found : (replay base (record.world.wal.take index)).outbox row.id = some row

section Commitments

variable {server : Server} {base : Database} {requests : ProcessId → Request}
  {record : Record} {index : Nat}
  {transaction : Transaction} {retryDelay : Int}

/-- A relay's transaction has done nothing, or is a committed attempt. -/
theorem commitment (lawful : Lawful requests record.log) (faithful : Faithful server base record)
    (current : Current base record) (stands : record.world.wal[index]? = some transaction)
    (relays : requests transaction.process = .publishOne retryDelay) :
    transaction.writes = [] ∨
      Nonempty (Commitment server base requests record index transaction) := by
  obtain ⟨earlier, entry, said, inside, stamp, exchanged, final, writes⟩ :=
    faithful.entered index transaction stands
  obtain ⟨alive, idle | ⟨claimedAt, row, report, now, spoken⟩⟩ :=
    lawful_commit lawful inside relays exchanged final
  · left
    obtain ⟨now, spoken⟩ := idle
    rw [writes, openWrites_of_alive alive, spoken]
    rfl
  · right
    have committed := eq_of_commits final
    subst committed
    have claimed := hasClaimed_of_marked alive spoken
    exact ⟨earlier, entry, retryDelay, claimedAt, row, report, now, inside, stamp, exchanged,
      relays, alive, spoken, writes.trans (by rw [openWrites_of_alive alive, spoken]; rfl),
      stamp ▸ current.earlier earlier _ entry inside _ row claimed⟩

end Commitments

end Freight.Relay
