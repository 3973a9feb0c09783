/-
Module: Freight.Store.RelayAlone
Purpose: A relay that nobody interferes with, on a server that raises nothing but
  publications: what one `publish_one` leaves.
Trusted boundary: none
Main exports:
  Stretch, Server.attend, Attended, ends_attend, ends_clock, ends_publish, ends_claim,
  ends_publishOutboxEvent, ends_commit, ends_publishOne, ends_publishOne_none
-/
import Freight.Proofs.RetryDelay
import Freight.Store.Alone

namespace Freight

open Interaction (ProcessId Contract Computation)

/-! ## A stretch of time -/

/-- A stretch of time that is shorter than the delay of a retry, and at whose end the delay
can still be added to the clock. -/
structure Stretch (retryDelay : Int) where
  opening : Int
  closing : Int
  ordered : opening ≤ closing
  short : closing < opening + retryDelay
  early : 0 ≤ opening
  late : closing + retryDelay < DateTime.ending

namespace Stretch

variable {retryDelay : Int} (stretch : Stretch retryDelay)

/-- A reading of the clock in that time. -/
def Shows (value : DateTime) : Prop :=
  value.utcoffset = some 0 ∧ stretch.opening ≤ value.wall ∧ value.wall ≤ stretch.closing

instance (value : DateTime) : Decidable (stretch.Shows value) :=
  inferInstanceAs (Decidable (_ ∧ _))

/-- What the environment may do: a publication may raise, and the clock shows a time of the
stretch. -/
def allows : Statement → Choice → Bool
  | .publish _, _ => true
  | _, .fault _ => false
  | .now, .time value => stretch.Shows value
  | _, _ => true

variable {stretch} {value : DateTime}

theorem Shows.instant (shown : stretch.Shows value) (localize : Int → Int) :
    value.instant localize = value.wall := by
  rw [DateTime.instant, shown.1]
  exact Int.sub_zero _

/-- The delay can be added. -/
theorem Shows.plus (shown : stretch.Shows value) :
    value.plus retryDelay = .ok (value.add retryDelay) := by
  have ordered := stretch.ordered
  have short := stretch.short
  have early := stretch.early
  have late := stretch.late
  obtain ⟨-, after, before⟩ := shown
  exact DateTime.plus_eq_ok_iff.mpr ⟨rfl, by omega, by omega⟩

end Stretch

/-- The server in such a time. -/
def Server.attend {retryDelay : Int} (server : Server) (stretch : Stretch retryDelay)
    (process : ProcessId) :
    Interaction.Program.Interpreter Statement (fun op => Except PyError (Reply op))
      World Choice :=
  fun statement choice world =>
    if stretch.allows statement choice then server.perform process statement choice world
    else none

/-! ## Locks -/

/-- Locks of its own do not hold up a process. -/
theorem World.heldByOther_hold (world : World) (process : ProcessId) (locks : List Lock)
    (lock : Lock) :
    (world.hold process locks).heldByOther process lock = world.heldByOther process lock := by
  have own : ((locks.map (process, ·)).any fun held =>
      held.2 = lock && held.1 ≠ process) = false := by
    rw [List.any_eq_false]
    intro held member
    obtain ⟨taken, -, rfl⟩ := List.mem_map.mp member
    simp
  rw [World.heldByOther, World.hold, List.any_append, own, Bool.false_or]
  rfl

/-- Locks that a process gives up were in nobody else's way. -/
theorem World.heldByOther_discard (world : World) (process : ProcessId) (lock : Lock) :
    (world.discard process).heldByOther process lock = world.heldByOther process lock := by
  rw [World.heldByOther, World.discard, List.any_filter, World.heldByOther]
  congr 1
  funext held
  by_cases own : held.1 = process <;> simp [own]

/-! ## What a relay leaves -/

/-- What attempts leave behind that a process has made, one after the other. -/
structure Attended (postgres : Postgres) (process : ProcessId) (before : World)
    (attempts : List Attempt) (after : World) : Prop where
  database : after.database =
    before.database.writeAll (attempts.flatMap fun attempt => attempt.writes postgres)
  writes : after.writes process = []
  held : ∀ lock, after.heldByOther process lock = before.heldByOther process lock
  publications : after.publications =
    (attempts.map fun attempt => attempt.publication process).reverse ++ before.publications

namespace Attended

variable {postgres : Postgres} {process : ProcessId} {before middle after : World}
  {attempts more : List Attempt}

theorem nothing (idle : before.writes process = []) :
    Attended postgres process before [] before :=
  ⟨rfl, idle, fun _ => rfl, rfl⟩

theorem trans (earlier : Attended postgres process before attempts middle)
    (later : Attended postgres process middle more after) :
    Attended postgres process before (attempts ++ more) after where
  database := by
    rw [later.database, earlier.database, List.flatMap_append, Database.writeAll_append]
  writes := later.writes
  held := fun lock => (later.held lock).trans (earlier.held lock)
  publications := by
    rw [later.publications, earlier.publications, List.map_append, List.reverse_append,
      List.append_assoc]

/-- A rollback after them changes nothing. -/
theorem discard (attended : Attended postgres process before attempts after) :
    Attended postgres process before attempts (after.discard process) where
  database := attended.database
  writes := by simp [World.discard]
  held := fun lock => (after.heldByOther_discard process lock).trans (attended.held lock)
  publications := attended.publications

end Attended

/-! ## Statements -/

section Rules

variable {server : Server} {retryDelay : Int} {stretch : Stretch retryDelay}
  {process : ProcessId} {session : Session} {world : World}

/-- The rule for every statement but `publish`, `uuid4` and `now`. -/
theorem ends_attend {statement : Statement}
    {post : Contract.Post PyError Session World (Reply statement)}
    {answer : Except PyError (Reply statement)} {after : World}
    (proceeds : server.proceed process statement world = some (answer, after))
    (allowed : stretch.allows statement .proceed = true)
    (calm : ∀ error, stretch.allows statement (.fault error) = false)
    (established : post answer session (after.settle process answer)) :
    (call statement).ends (server.attend stretch process) post session world := by
  apply Computation.ends_call
  · exact ⟨.proceed, answer, after.settle process answer, by
      simp [Server.attend, allowed, Server.perform, Server.execute, proceeds]⟩
  · intro choice other reached performed
    rw [Server.attend] at performed
    split at performed
    · cases choice with
      | proceed =>
          simp only [Server.perform, Server.execute, proceeds, Option.map_some,
            Option.some.injEq, Prod.mk.injEq] at performed
          obtain ⟨rfl, rfl⟩ := performed
          exact established
      | fault error =>
          rename_i raises
          rw [calm error] at raises
          cases raises
      | uuid id =>
          cases statement with
          | uuid4 => cases proceeds
          | _ => cases performed
      | time value =>
          cases statement with
          | now => cases proceeds
          | _ => cases performed
    · cases performed

/-- The clock shows a time of the stretch. -/
theorem ends_clock {post : Contract.Post PyError Session World DateTime}
    (established : ∀ value, stretch.Shows value → post (.ok value) session world) :
    (call .now).ends (server.attend stretch process) post session world := by
  apply Computation.ends_call
  · have shown : stretch.Shows (.utc stretch.opening) :=
      ⟨rfl, Int.le_refl _, stretch.ordered⟩
    refine ⟨.time (.utc stretch.opening), .ok (.utc stretch.opening), world, ?_⟩
    simp only [Server.attend, Stretch.allows, decide_eq_true shown, if_true]
    rfl
  · intro choice answer after performed
    rw [Server.attend] at performed
    split at performed
    · rename_i allowed
      cases choice with
      | proceed => cases performed
      | fault error => cases allowed
      | uuid id => cases performed
      | time value =>
          have shown : stretch.Shows value := of_decide_eq_true allowed
          simp only [Server.perform, Server.execute, Server.readClock, shown.1, if_true,
            Option.map_some, Option.some.injEq, Prod.mk.injEq] at performed
          obtain ⟨rfl, rfl⟩ := performed
          exact established value shown
    · cases performed

/-- A publication is called once, and returns or raises. -/
theorem ends_publish {message : RecordedEventMessage}
    {post : Contract.Post PyError Session World Unit}
    (returned : post (.ok ()) session (world.publish process message true))
    (raised : ∀ error, post (.error error) session
      ((world.publish process message false).raise process error)) :
    (call (.publish message)).ends (server.attend stretch process) post session world := by
  apply Computation.ends_call
  · exact ⟨.proceed, .ok (), world.publish process message true, rfl⟩
  · intro choice answer after performed
    rw [Server.attend] at performed
    split at performed
    · cases choice with
      | proceed =>
          cases performed
          exact returned
      | fault error =>
          simp only [Server.perform, Server.execute] at performed
          split at performed
          · cases performed
            exact raised error
          · cases performed
      | uuid id => cases performed
      | time value => cases performed
    · cases performed

/-- The observed publisher: what the observation raises is none of the publication. -/
theorem ends_observedPublish {message : RecordedEventMessage}
    {post : Contract.Post PyError Session World Unit}
    (returned : post (.ok ()) session (world.publish process message true))
    (raised : ∀ error, post (.error error) session
      ((world.publish process message false).raise process error)) :
    (ObservedPublisher.publish message).ends (server.attend stretch process) post session
      world := by
  apply Computation.ends_onExit
  refine ends_publish ?_ ?_
  · exact ends_attend rfl rfl (fun _ => rfl) returned
  · exact fun error => ends_attend rfl rfl (fun _ => rfl) (raised error)

/-- The row that the relay is given, with its lock. -/
theorem ends_claim {now : DateTime} {row : OutboxEventModel}
    {post : Contract.Post PyError Session World (Option RecordedEventMessage)}
    (first : server.first (server.claimable world process now) = some row)
    (established : post (.ok (some (SQLAlchemyOutboxRepository.message row)))
      { session with outboxEvents := { loaded := row } :: session.outboxEvents }
      ((world.hold process [.outboxRow row.id]).note process
        (.claimed world.wal.length row))) :
    (SQLAlchemyOutboxRepository.claimNext now).ends (server.attend stretch process) post
      session world := by
  apply Computation.ends_bind
  refine ends_attend (by rw [Server.proceed, first]) rfl (fun _ => rfl) ?_
  simp only [Contract.Post.on]
  apply Computation.ends_bind
  apply Computation.ends_modify
  exact Computation.ends_pure established

theorem ends_claim_none {now : DateTime}
    {post : Contract.Post PyError Session World (Option RecordedEventMessage)}
    (none : server.first (server.claimable world process now) = none)
    (established : post (.ok Option.none) session world) :
    (SQLAlchemyOutboxRepository.claimNext now).ends (server.attend stretch process) post
      session world := by
  apply Computation.ends_bind
  refine ends_attend (by rw [Server.proceed, none]) rfl (fun _ => rfl) ?_
  exact Computation.ends_pure established

/-- Marking the one claimed row. -/
theorem ends_mark {row : OutboxEventModel} {change : OutboxEventModel → OutboxEventModel}
    {post : Contract.Post PyError Session World Unit}
    (marked : post (.ok ())
      { outboxEvents := [{ loaded := row, assigned := some (change row) }] } world) :
    (SQLAlchemyOutboxRepository.mark row.id change).ends (server.attend stretch process) post
      { outboxEvents := [{ loaded := row }] } world := by
  apply Computation.ends_bind
  apply Computation.ends_bind
  apply Computation.ends_read
  apply Computation.ends_pure
  have tracked : Session.trackedOutbox { outboxEvents := [{ loaded := row }] } row.id =
      some { loaded := row } := by
    rw [Session.trackedOutbox, Table.lookup_singleton]
    simp
  simp only [tracked, Option.map_some, Contract.Post.on]
  apply Computation.ends_modify
  simpa [Session.changeOutbox, Table.modify, Tracked.current] using marked

/-! ## One call -/

/-- An attempt on a row, as it is told to the log. -/
def World.attempt (world : World) (retryDelay : Int) (row : OutboxEventModel)
    (report : Except PyError Unit) (now : DateTime) : Attempt :=
  { Relay.attempt retryDelay row report now with lsn := world.wal.length }

/-- The world after a row has been claimed and its publication been called. -/
structure Called (process : ProcessId) (before : World) (attempt : Attempt) (after : World) :
    Prop where
  base : after.base = before.base
  wal : after.wal = before.wal
  writes : after.writes process = []
  held : ∀ lock, after.heldByOther process lock = before.heldByOther process lock
  publications : after.publications = attempt.publication process :: before.publications

variable {row : OutboxEventModel}

/-- `execute`, where there is a row to claim. -/
theorem ends_publishOutboxEvent
    {post : Contract.Post PyError Session World (Option PublicationResult)}
    (idle : world.writes process = [])
    (first : ∀ claimedAt, stretch.Shows claimedAt →
      server.first (server.claimable world process claimedAt) = some row)
    (established : ∀ report now result after, stretch.Shows now →
      Called process world (world.attempt retryDelay row report now) after →
        post (.ok (some result))
          { outboxEvents :=
              [{ loaded := row
                 assigned := some (world.attempt retryDelay row report now).marked }] }
          after) :
    (PublishOutboxEvent.execute retryDelay).ends (server.attend stretch process) post {}
      world := by
  apply Computation.ends_bind
  refine ends_clock fun claimedAt claimedThen => ?_
  simp only [Contract.Post.on]
  apply Computation.ends_bind
  refine ends_claim (first claimedAt claimedThen) ?_
  simp only [Contract.Post.on]
  apply Computation.ends_bind
  apply Computation.ends_tryExcept
  apply Computation.ends_bind
  refine ends_observedPublish ?_ ?_
  · apply Computation.ends_pure
    apply Computation.ends_bind
    refine ends_clock fun now shown => ?_
    simp only [Contract.Post.on]
    apply Computation.ends_bind
    apply ends_mark
    apply Computation.ends_pure
    refine established (.ok ()) now _ _ shown ⟨rfl, rfl, idle, ?_, rfl⟩
    exact fun lock => world.heldByOther_hold process _ lock
  · intro error
    simp only [Contract.Post.on]
    apply Computation.ends_pure
    apply Computation.ends_bind
    refine ends_clock fun now shown => ?_
    simp only [Contract.Post.on]
    apply Computation.ends_bind
    apply Computation.ends_ofExcept
    rw [shown.plus]
    apply Computation.ends_bind
    apply ends_mark
    apply Computation.ends_pure
    refine established (.error error) now _ _ shown ⟨rfl, rfl, idle, ?_, rfl⟩
    exact fun lock => world.heldByOther_hold process _ lock

/-- The commit of the attempt. -/
theorem ends_commit {attempt : Attempt} {start : World}
    {post : Contract.Post PyError Session World Unit}
    (called : Called process start attempt world)
    (present : start.database.outbox attempt.row.id = some attempt.row)
    (free : start.heldByOther process (.outboxRow attempt.row.id) = false)
    (established : ∀ last after, Attended server.postgres process start [attempt] after →
      post (.ok ()) last after) :
    Session.commit.ends (server.attend stretch process) post
      { outboxEvents := [{ loaded := attempt.row, assigned := some attempt.marked }] }
      world := by
  have database : world.database = start.database := by
    rw [World.database, called.base, called.wal]
    rfl
  have visible : world.visible process = start.database := by
    rw [World.visible, called.writes, database]
    rfl
  have updated : server.proceed process (.updateOutbox attempt.row.id attempt.patch) world =
      some (.ok (), (world.hold process [.outboxRow attempt.row.id]).append process
        (.updateOutbox attempt.row.id (server.postgres.outboxPatch attempt.patch))) := by
    simp only [Server.proceed, updateRow, called.held, free, visible, present,
      Option.isSome_some, if_true, Bool.false_eq_true, if_false]
    rfl
  apply Computation.ends_bind
  apply Computation.ends_bind
  apply Computation.ends_read
  apply Computation.ends_bind
  apply Computation.ends_forEach_cons
  rw [Session.updateOutbox_changed attempt.patch_ne]
  refine ends_attend updated rfl (fun _ => rfl) ?_
  apply Computation.ends_forEach_nil
  apply Computation.ends_bind
  apply ends_flushNewOutboxEvents_nil rfl
  apply Computation.ends_bind
  apply Computation.ends_forEach_nil
  apply Computation.ends_bind
  apply ends_flushNewShipments_nil rfl
  apply Computation.ends_bind
  apply ends_flushNewEvents_nil rfl
  apply Computation.ends_modify
  refine ends_attend rfl rfl (fun _ => rfl) (established _ _ ?_)
  constructor
  · simp [World.database, World.commit, World.discard, World.connection, World.append,
      World.hold, World.settle, called.writes, called.base, called.wal, Attempt.writes]
  · simp [World.commit, World.discard, World.settle]
  · intro lock
    refine Eq.trans ?_ (called.held lock)
    refine Eq.trans (World.heldByOther_discard _ process lock) ?_
    exact World.heldByOther_hold world process [.outboxRow attempt.row.id] lock
  · exact called.publications

/-- `publish_one`, where there is a row to claim. -/
theorem ends_publishOne {post : Contract.Post PyError Session World Bool}
    (idle : world.writes process = [])
    (first : ∀ claimedAt, stretch.Shows claimedAt →
      server.first (server.claimable world process claimedAt) = some row)
    (present : world.database.outbox row.id = some row)
    (free : world.heldByOther process (.outboxRow row.id) = false)
    (established : ∀ report now last after, stretch.Shows now →
      Attended server.postgres process world [world.attempt retryDelay row report now] after →
        post (.ok true) last after) :
    (publishOne retryDelay).ends (server.attend stretch process) post {} world := by
  apply Computation.ends_bind
  apply Computation.ends_tryExcept
  apply Computation.ends_onExit
  apply Computation.ends_tryExcept
  apply Computation.ends_bind
  refine ends_publishOutboxEvent idle first fun report now result called shown called => ?_
  simp only [Contract.Post.on]
  apply Computation.ends_bind
  refine ends_commit called present free fun last after attended => ?_
  simp only [Contract.Post.on]
  apply Computation.ends_pure
  refine ends_attend rfl rfl (fun _ => rfl) ?_
  simp only [Contract.Post.on]
  apply Computation.ends_bind
  refine ends_attend rfl rfl (fun _ => rfl) ?_
  simp only [Contract.Post.on]
  apply Computation.ends_pure
  exact established report now _ _ shown attended.discard

/-- `publish_one`, where there is none. -/
theorem ends_publishOne_none {post : Contract.Post PyError Session World Bool}
    (idle : world.writes process = [])
    (none : ∀ claimedAt, stretch.Shows claimedAt →
      server.first (server.claimable world process claimedAt) = none)
    (established : ∀ last after, Attended server.postgres process world [] after →
      post (.ok false) last after) :
    (publishOne retryDelay).ends (server.attend stretch process) post {} world := by
  have committed : Attended server.postgres process world [] (world.commit process) := by
    constructor
    · simp [World.database, World.commit, World.discard, World.connection, idle]
    · simp [World.commit, World.discard]
    · exact fun lock => World.heldByOther_discard world process lock
    · rfl
  apply Computation.ends_bind
  apply Computation.ends_tryExcept
  apply Computation.ends_onExit
  apply Computation.ends_tryExcept
  apply Computation.ends_bind
  apply Computation.ends_bind
  refine ends_clock fun claimedAt shown => ?_
  simp only [Contract.Post.on]
  apply Computation.ends_bind
  refine ends_claim_none (none claimedAt shown) ?_
  apply Computation.ends_pure
  apply Computation.ends_bind
  apply Computation.ends_bind
  apply ends_flush_clean ⟨by simp, by simp, rfl, rfl, rfl⟩
  refine ends_attend rfl rfl (fun _ => rfl) ?_
  simp only [Contract.Post.on]
  apply Computation.ends_pure
  refine ends_attend rfl rfl (fun _ => rfl) ?_
  simp only [Contract.Post.on]
  apply Computation.ends_pure
  exact established _ _ committed.discard

end Rules

end Freight
