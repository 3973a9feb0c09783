/-
Module: Freight.Store.Relaying
Purpose: The specification of the relay's `publish_one`: it claims a row under a
  lock, calls the publisher once and commits what came of it.
Trusted boundary: none
Main exports:
  Claiming, Attempted, holds_observedPublish, holds_mark, holds_publishOutboxEvent,
  holds_flush_attempted, holds_publishOne
-/
import Freight.Store.Repositories

namespace Freight

open Interaction (ProcessId Contract)

/-- What a relay may assert while it has a row claimed. -/
def Claiming (base : Database) (quiet : Prop) (process : ProcessId)
    (start : List Transaction) (row : OutboxEventModel) (world : World) : Prop :=
  Untouched quiet process start world.wal ∧ (process, .outboxRow row.id) ∈ world.locks ∧
    (replay base world.wal).outbox row.id = some row

/-- How `PublishOutboxEvent.execute` returns: nothing was due, or a row has been
claimed, published once and marked. -/
inductive Attempted (base : Database) (quiet : Prop) (process : ProcessId)
    (start : List Transaction) (retryDelay : Int) : Session → World → Prop where
  | idle {world : World}
      (mine : Mine process {} (fun world => Untouched quiet process start world.wal) world) :
      Attempted base quiet process start retryDelay {} world
  | marked (attempt : Attempt) (claimedLsn : Nat) (raised : List PyError) {world : World}
      (delay : attempt.retryDelay = retryDelay)
      (pending : attempt.row.publishedAt = none)
      (confirmed : attempt.failure = none → attempt.confirmed = true)
      (mine : Mine process
        { reads := [.claimed claimedLsn attempt.row]
          raised := raised
          published := [attempt.publication process] }
        (Claiming base quiet process start attempt.row) world) :
      Attempted base quiet process start retryDelay
        { outboxEvents := [{ loaded := attempt.row, assigned := some attempt.marked }] }
        world

section Rules

variable {server : Server} {base : Database} {quiet : Prop} {requests : ProcessId → Request}
  {process : ProcessId} {start : List Transaction} {connection : Connection} {world : World}
  {assertion : World → Prop} {session : Session}

theorem Claiming.lasting (row : OutboxEventModel) :
    Lasting base quiet process (Claiming base quiet process start row) :=
  Untouched.archival.lasting.and (Lasting.claimed row)

/-- `ObservedPublisher.publish`: one call of the publisher, confirmed if it
returns. -/
theorem holds_observedPublish {row : OutboxEventModel} {reads : List Read}
    {post : Contract.Post PyError Session World Unit}
    (pending : row.publishedAt = none)
    (mine : Mine process { reads := reads } (Claiming base quiet process start row) world)
    (outcome : ∀ result lsn confirmed raised after, (result = .ok () → confirmed = true) →
      Mine process
        { reads := reads
          raised := raised
          published :=
            [{ process := process
               message := SQLAlchemyOutboxRepository.message row
               confirmed := confirmed
               lsn := lsn }] }
        (Claiming base quiet process start row) after →
      post result session after) :
    (storeContract server base quiet requests process).holds
      (ObservedPublisher.publish (SQLAlchemyOutboxRepository.message row)) post session
      world := by
  have lasting : Lasting base quiet process (Claiming base quiet process start row) :=
    Claiming.lasting row
  apply Contract.holds_onExit
  refine holds_publish lasting mine (fun _ holds => holds.1.1) rfl pending
    (fun _ holds => holds.2.2) ?_ ?_
  · intro lsn after held
    refine holds_observe lasting held ?_ ?_
    · exact fun after held => outcome _ lsn true [] after (fun _ => rfl) held
    · exact fun error after _ held => outcome _ lsn true [error] after (fun _ => rfl) held
  · intro error lsn after held
    refine holds_observe lasting held ?_ ?_
    · exact fun after held =>
        outcome _ lsn false [error] after (fun equality => by cases equality) held
    · exact fun other after _ held =>
        outcome _ lsn false [other, error] after (fun equality => by cases equality) held

/-- Marking the one claimed row. -/
theorem holds_mark {Env Choices : Type}
    {contract : Contract Statement (fun op => Except PyError (Reply op)) Env Choices}
    {row : OutboxEventModel} {change : OutboxEventModel → OutboxEventModel} {world : Env}
    {post : Contract.Post PyError Session Env Unit}
    (claimed : session = { outboxEvents := [{ loaded := row }] })
    (marked : post (.ok ())
      { outboxEvents := [{ loaded := row, assigned := some (change row) }] } world) :
    contract.holds (SQLAlchemyOutboxRepository.mark row.id change) post session world := by
  subst claimed
  apply Contract.holds_bind
  apply Contract.holds_bind
  apply Contract.holds_read
  apply Contract.holds_pure
  have tracked : Session.trackedOutbox { outboxEvents := [{ loaded := row }] } row.id =
      some { loaded := row } := by
    rw [Session.trackedOutbox, Table.lookup_singleton]
    simp
  simp only [tracked, Option.map_some, Contract.Post.on]
  apply Contract.holds_modify
  simpa [Session.changeOutbox, Table.modify, Tracked.current] using marked

/-- `PublishOutboxEvent.execute`. -/
theorem holds_publishOutboxEvent {retryDelay : Int} (keyed : base.outboxKeys.Nodup)
    (mine : Mine process {} (fun world => Untouched quiet process start world.wal) world) :
    (storeContract server base quiet requests process).holds
      (PublishOutboxEvent.execute retryDelay)
      (Contract.Post.on
        (fun _ => Attempted base quiet process start retryDelay)
        (fun _ _ => Abandoned base quiet process start))
      {} world := by
  have opening : Lasting base quiet process fun world =>
      Untouched quiet process start world.wal := Untouched.archival.lasting
  apply Contract.holds_bind
  refine holds_now opening mine ?_ ?_
  swap
  · exact fun error after _ held => ⟨_, _, opening, held, fun _ holds => holds⟩
  intro claimedAt after _ held
  apply Contract.holds_bind
  apply Contract.holds_bind
  refine holds_claimOutbox keyed opening held rfl rfl ?_ ?_ ?_
  · intro after held
    apply Contract.holds_pure
    apply Contract.holds_pure
    exact .idle held
  swap
  · exact fun error after _ held => ⟨_, _, opening, held, fun _ holds => holds⟩
  intro row claimedLsn after pending held
  apply Contract.holds_bind
  apply Contract.holds_modify
  apply Contract.holds_pure
  have lasting : Lasting base quiet process (Claiming base quiet process start row) :=
    Claiming.lasting row
  apply Contract.holds_bind
  apply Contract.holds_tryExcept
  apply Contract.holds_bind
  refine holds_observedPublish pending held ?_
  intro result lsn confirmed raised after reported held
  cases result with
  | ok done =>
      apply Contract.holds_pure
      apply Contract.holds_bind
      refine holds_now lasting held ?_ ?_
      · intro now after _ held
        apply Contract.holds_bind
        refine holds_mark rfl ?_
        apply Contract.holds_pure
        exact .marked
          { row, lsn, confirmed, now, retryDelay, failure := none }
          claimedLsn raised rfl pending (fun _ => reported rfl) held
      · exact fun error after _ held => ⟨_, _, lasting, held, fun _ holds => holds.1⟩
  | error error =>
      simp only [Contract.Post.on]
      apply Contract.holds_pure
      apply Contract.holds_bind
      refine holds_now lasting held ?_ ?_
      · intro now after _ held
        apply Contract.holds_bind
        apply Contract.holds_ofExcept
        rcases DateTime.plus_cases now retryDelay with later | overflow
        · rw [later]
          apply Contract.holds_bind
          refine holds_mark rfl ?_
          apply Contract.holds_pure
          exact .marked
            { row, lsn, confirmed, now, retryDelay, failure := some error }
            claimedLsn raised rfl pending (fun equality => by cases equality) held
        · rw [overflow]
          exact ⟨_, _, lasting, held, fun _ holds => holds.1⟩
      · exact fun error after _ held => ⟨_, _, lasting, held, fun _ holds => holds.1⟩

/-! ## The flush and the end of the transaction -/

/-- Counting an attempt changes the row. -/
theorem Attempt.patch_ne (attempt : Attempt) : attempt.patch ≠ {} := by
  intro equality
  have counted : attempt.patch.attempts = some (attempt.row.attempts + 1) := by
    have marked : attempt.marked.attempts = attempt.row.attempts + 1 := by
      unfold Attempt.marked
      split <;> rfl
    simp [Attempt.patch, OutboxPatch.between, changedColumn, marked]
  rw [equality] at counted
  cases counted

theorem Session.updateOutbox_changed {row current : OutboxEventModel}
    (changed : OutboxPatch.between row current ≠ {}) :
    Session.updateOutbox { loaded := row, assigned := some current } =
      call (.updateOutbox row.id (OutboxPatch.between row current)) :=
  if_neg changed

/-- Flushing what a relay has left pending makes it ready to commit. -/
theorem holds_flush_attempted {retryDelay : Int}
    (requested : requests process = .publishOne retryDelay)
    (attempted : Attempted base quiet process start retryDelay session world) :
    (storeContract server base quiet requests process).holds Session.flush
      (Contract.Post.on
        (fun _ _ => Ready server base quiet requests process start fun _ => True)
        (fun _ _ => Abandoned base quiet process start))
      session world := by
  cases attempted with
  | idle mine =>
      have opening : Lasting base quiet process fun world =>
          Untouched quiet process start world.wal := Untouched.archival.lasting
      apply holds_flush_clean ⟨by simp, by simp, rfl, rfl, rfl⟩
      exact .intro _ _ opening mine (fun _ holds => holds)
        (fun _ _ _ => .nothing rfl rfl) fun _ _ => trivial
  | marked attempt claimedLsn raised delay pending confirmed mine =>
      subst delay
      have lasting : Lasting base quiet process
          (Claiming base quiet process start attempt.row) := Claiming.lasting attempt.row
      apply Contract.holds_bind
      apply Contract.holds_read
      apply Contract.holds_bind
      apply Contract.holds_forEach_cons
      rw [Session.updateOutbox_changed attempt.patch_ne]
      refine holds_updateOutbox lasting mine (fun _ holds => holds.2.1) ?_ ?_
      · intro after held
        apply Contract.holds_forEach_nil
        apply Contract.holds_bind
        apply holds_flushNewOutboxEvents_nil rfl
        apply Contract.holds_bind
        apply Contract.holds_forEach_nil
        apply Contract.holds_bind
        apply holds_flushNewShipments_nil rfl
        apply Contract.holds_bind
        apply holds_flushNewEvents_nil rfl
        apply Contract.holds_modify
        refine .intro _ _ lasting held (fun _ holds => holds.1) ?_ fun _ _ => trivial
        intro reached held kept
        rw [requested]
        exact .attempted attempt held.lasts.2.2 pending confirmed rfl rfl
      · exact fun error after held => ⟨_, _, lasting, held, fun _ holds => holds.1⟩

/-- `publish_one`. -/
theorem holds_publishOne {retryDelay : Int} (keyed : base.outboxKeys.Nodup)
    (requested : requests process = .publishOne retryDelay)
    (mine : Mine process {} (fun world => Untouched quiet process start world.wal) world) :
    (storeContract server base quiet requests process).holds (publishOne retryDelay)
      (fun _ _ last => Finished quiet process start last.wal) {} world := by
  have finished : Lasting base quiet process fun world =>
      Finished quiet process start world.wal := Finished.archival.lasting
  have begun : (storeContract server base quiet requests process).holds
      (sessionBegin (PublishOutboxEvent.execute retryDelay))
      (fun _ _ last => ∃ connection,
        Mine process connection (fun world => Finished quiet process start world.wal) last)
      {} world := by
    refine holds_sessionBegin (Contract.holds_mono (holds_publishOutboxEvent keyed mine) ?_)
    rintro (error | result) session after established
    · exact established
    · exact holds_flush_attempted requested established
  -- an exception is observed before it is raised again
  have observed : ∀ error session connection after,
      Mine process connection (fun world => Finished quiet process start world.wal) after →
      (storeContract server base quiet requests process).holds
        (do
          call .observe
          Interaction.Computation.raise error : Py (Option PublicationResult))
        (fun _ _ last => ∃ connection,
          Mine process connection (fun world => Finished quiet process start world.wal) last)
        session after := by
    intro error session connection after held
    apply Contract.holds_bind
    refine holds_observe finished held ?_ ?_
    · intro after held
      simp only [Contract.Post.on]
      apply Contract.holds_raise
      exact ⟨_, held⟩
    · exact fun _ after _ held => ⟨_, held⟩
  have closed : (storeContract server base quiet requests process).holds
      (Interaction.Computation.tryExcept
        (Interaction.Computation.onExit
          (sessionBegin (PublishOutboxEvent.execute retryDelay)) Session.close)
        (fun error => do
          call .observe
          Interaction.Computation.raise error))
      (fun _ _ last => ∃ connection,
        Mine process connection (fun world => Finished quiet process start world.wal) last)
      {} world := by
    apply Contract.holds_tryExcept
    apply Contract.holds_onExit
    refine Contract.holds_mono begun ?_
    rintro outcome session after ⟨connection, held⟩
    refine holds_rollback (Finished quiet process start) finished held (fun _ holds => holds)
      ?_ ?_
    · intro after ended
      cases outcome with
      | ok result => exact ⟨_, ended⟩
      | error error => exact observed error session _ after ended
    · exact fun error after _ ended => observed error session _ after ended
  apply Contract.holds_bind
  refine Contract.holds_mono closed ?_
  rintro (error | result) session after ⟨connection, held⟩
  · exact held.lasts
  simp only [Contract.Post.on]
  cases result with
  | none => exact Contract.holds_pure held.lasts
  | some result =>
      apply Contract.holds_bind
      refine holds_observe finished held ?_ ?_
      · intro after held
        simp only [Contract.Post.on]
        apply Contract.holds_pure
        exact held.lasts
      · exact fun _ after _ held => held.lasts

end Rules

end Freight
