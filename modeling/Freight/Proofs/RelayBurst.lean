/-
Module: Freight.Proofs.RelayBurst
Purpose: What the loop of the outbox worker does in a stretch of time: it goes through the
  rows that are due, each of them once and in their order, whatever becomes of the
  publications, and then waits.
Trusted boundary: none
Main exports:
  Server.claimOrder, Server.precedes_iff, Server.first_least, Stretch.Settled,
  Relay.run_goes_through, Relay.burst_visits_each_due_row_once
-/
import Freight.Proofs.OutboxLedger
import Freight.Relational.OrderBy
import Freight.Store.RelayAlone
import Mathlib.Data.Prod.Lex

namespace Freight

open Interaction (ProcessId Contract Computation)

/-! ## The order of the rows -/

section Order

variable {server : Server} {rows : List OutboxEventModel} {row other : OutboxEventModel}

/-- `ORDER BY next_attempt_at, created_at, id`, as one key. -/
def Server.claimOrder (server : Server) (row : OutboxEventModel) : Int ×ₗ Int ×ₗ Nat :=
  toLex (server.attemptAt row,
    toLex (row.createdAt.instant server.postgres.localize, row.id.int.toNat))

theorem Server.precedes_iff :
    server.precedes row other = true ↔ server.claimOrder row < server.claimOrder other := by
  rw [claimOrder, claimOrder, Prod.Lex.toLex_lt_toLex, Prod.Lex.toLex_lt_toLex, precedes]
  simp only [attemptAt]
  split
  · rename_i apart
    simp [apart]
  · rename_i same
    split
    · rename_i apart
      simp [not_ne_iff.mp same, apart]
    · rename_i sameToo
      simp [not_ne_iff.mp same, not_ne_iff.mp sameToo]

/-- The claimed row comes first. -/
theorem Server.first_least (chosen : server.first rows = some row) (member : other ∈ rows) :
    server.claimOrder row ≤ server.claimOrder other := by
  induction rows generalizing row with
  | nil => cases member
  | cons head tail inductionHypothesis =>
      simp only [first] at chosen
      split at chosen
      · rename_i empty
        cases chosen
        rw [Server.first_eq_none empty] at member
        rw [List.mem_singleton.mp member]
      · rename_i best found
        split at chosen
        · rename_i ahead
          cases chosen
          rcases List.mem_cons.mp member with same | later
          · rw [same]
            exact le_of_lt (Server.precedes_iff.mp ahead)
          · exact inductionHypothesis found later
        · rename_i behind
          cases chosen
          have front : server.claimOrder head ≤ server.claimOrder best :=
            le_of_not_gt fun ahead => behind (Server.precedes_iff.mpr ahead)
          rcases List.mem_cons.mp member with same | later
          · rw [same]
          · exact le_trans front (inductionHypothesis found later)

/-- No two rows stand at the same place. -/
theorem Server.claimOrder_ne (apart : row.id ≠ other.id) :
    server.claimOrder row ≠ server.claimOrder other := by
  intro same
  have ids : row.id.int.toNat = other.id.int.toNat :=
    (Prod.ext_iff.mp (Prod.ext_iff.mp same).2).2
  exact apart (congrArg UUID.mk (BitVec.eq_of_toNat_eq ids))

end Order

/-! ## What is due -/

namespace Stretch

variable {retryDelay : Int} (stretch : Stretch retryDelay)

/-- Every row that is not published is due when the stretch begins, or not before its end. -/
def Settled (server : Server) (database : Database) : Prop :=
  ∀ row ∈ database.outboxEvents, row.publishedAt = none →
    server.attemptAt row ≤ stretch.opening ∨ stretch.closing < server.attemptAt row

instance (server : Server) (database : Database) :
    Decidable (stretch.Settled server database) :=
  inferInstanceAs (Decidable (∀ row ∈ database.outboxEvents, _))

end Stretch

/-- The rows that a process may claim when the stretch begins. -/
def World.due {retryDelay : Int} (world : World) (server : Server) (process : ProcessId)
    (stretch : Stretch retryDelay) : List OutboxEventModel :=
  server.claimable world process (.utc stretch.opening)

section Due

variable {server : Server} {retryDelay : Int} {stretch : Stretch retryDelay}
  {process : ProcessId} {world after : World} {row : OutboxEventModel}

theorem World.visible_idle (idle : world.writes process = []) :
    world.visible process = world.database := by
  rw [World.visible, idle]
  rfl

theorem World.mem_due (idle : world.writes process = []) :
    row ∈ world.due server process stretch ↔
      row ∈ world.database.outboxEvents ∧ row.publishedAt = none ∧
        server.attemptAt row ≤ stretch.opening ∧
        world.heldByOther process (.outboxRow row.id) = false := by
  rw [World.due, Server.claimable, World.visible_idle idle, List.mem_filter]
  simp [and_assoc]

/-- They stay due, and no others become due. -/
theorem World.claimable_eq_due (idle : world.writes process = [])
    (settled : stretch.Settled server world.database) {claimedAt : DateTime}
    (shown : stretch.Shows claimedAt) :
    server.claimable world process claimedAt = world.due server process stretch := by
  rw [World.due, Server.claimable, Server.claimable, World.visible_idle idle]
  apply List.filter_congr
  intro row member
  cases published : row.publishedAt with
  | some publishedAt => rfl
  | none =>
      have times := settled row member published
      obtain ⟨-, begun, going⟩ := id shown
      rw [shown.instant, DateTime.instant_utc]
      have same : (server.attemptAt row ≤ claimedAt.wall) =
          (server.attemptAt row ≤ stretch.opening) := by
        apply propext
        omega
      simp only [same]

/-- The row that an attempt leaves is not due again. -/
theorem World.attempt_not_due (world : World) {report : Except PyError Unit} {now : DateTime}
    (pending : row.publishedAt = none) (shown : stretch.Shows now) :
    (Relay.attemptedRow server.postgres
        (world.attempt retryDelay row report now)).publishedAt ≠ none ∨
      stretch.closing < server.attemptAt
        (Relay.attemptedRow server.postgres (world.attempt retryDelay row report now)) := by
  cases report with
  | ok reply =>
      left
      have published := Relay.patch_publishedAt server.postgres
        (world.attempt retryDelay row (.ok reply) now) pending
      have left : (Relay.attemptedRow server.postgres
          (world.attempt retryDelay row (.ok reply) now)).publishedAt =
            some (server.postgres.timestamptz now) :=
        congrArg (Option.getD · row.publishedAt) published
      rw [left]
      exact Option.some_ne_none _
  | error error =>
      right
      have again : server.attemptAt (Relay.attemptedRow server.postgres
          (world.attempt retryDelay row (.error error) now)) =
            now.instant server.postgres.localize + retryDelay := Relay.attemptAt_failed shown.1
      have short := stretch.short
      obtain ⟨-, begun, going⟩ := id shown
      rw [again, shown.instant]
      omega

variable {report : Except PyError Unit} {now : DateTime}

/-- The outbox after an attempt. -/
theorem Attended.outboxEvents
    (attended : Attended server.postgres process world
      [world.attempt retryDelay row report now] after) :
    after.database.outboxEvents =
      Table.modify OutboxEventModel.id world.database.outboxEvents row.id
        (server.postgres.outboxPatch (world.attempt retryDelay row report now).patch).applyTo := by
  rw [attended.database]
  rfl

theorem Attended.keyed (keyed : world.database.outboxKeys.Nodup)
    (attended : Attended server.postgres process world
      [world.attempt retryDelay row report now] after) :
    after.database.outboxKeys.Nodup := by
  have kept : after.database.outboxKeys = world.database.outboxKeys := by
    rw [Database.outboxKeys, attended.outboxEvents]
    exact Table.keys_modify fun _ => rfl
  rw [kept]
  exact keyed

/-- Step lemma: the row that has been attempted is not due any more, and the others are. -/
theorem Attended.due (keyed : world.database.outboxKeys.Nodup)
    (idle : world.writes process = []) (due : row ∈ world.due server process stretch)
    (shown : stretch.Shows now)
    (attended : Attended server.postgres process world
      [world.attempt retryDelay row report now] after) :
    after.due server process stretch =
      (world.due server process stretch).filter fun other => other.id ≠ row.id := by
  obtain ⟨present, pending, -, -⟩ := (World.mem_due idle).mp due
  have held : ∀ other : OutboxEventModel,
      after.heldByOther process (.outboxRow other.id) =
        world.heldByOther process (.outboxRow other.id) := fun other => attended.held _
  rw [World.due, World.due, Server.claimable, Server.claimable, World.visible_idle idle,
    World.visible_idle attended.writes, attended.outboxEvents]
  simp only [held]
  refine Table.filter_modify fun other member own => ?_
  have same : other = row := Table.eq_of_mem_of_key_eq keyed member present own
  subst same
  have gone : (Relay.attemptedRow server.postgres
        (world.attempt retryDelay other report now)).publishedAt ≠ none ∨
      stretch.closing < server.attemptAt
        (Relay.attemptedRow server.postgres (world.attempt retryDelay other report now)) :=
    world.attempt_not_due pending shown
  change (_ && decide (server.attemptAt (Relay.attemptedRow server.postgres
    (world.attempt retryDelay other report now)) ≤ _) && _) = false
  rcases gone with published | late
  · rw [Bool.and_eq_false_iff, Bool.and_eq_false_iff]
    have left : ((server.postgres.outboxPatch (world.attempt retryDelay other report
        now).patch).applyTo other).publishedAt ≠ none := published
    exact .inl (.inl (by simpa [Option.isSome_iff_ne_none] using left))
  · have ordered := stretch.ordered
    have notYet : ¬ server.attemptAt (Relay.attemptedRow server.postgres
        (world.attempt retryDelay other report now)) ≤ stretch.opening := by omega
    simp [notYet]

/-- What has attempted nothing leaves the same rows due. -/
theorem Attended.due_nothing (idle : world.writes process = [])
    (attended : Attended server.postgres process world [] after) :
    after.due server process stretch = world.due server process stretch := by
  have held : ∀ other : OutboxEventModel,
      after.heldByOther process (.outboxRow other.id) =
        world.heldByOther process (.outboxRow other.id) := fun other => attended.held _
  have same : after.database = world.database := attended.database
  rw [World.due, World.due, Server.claimable, Server.claimable, World.visible_idle idle,
    World.visible_idle attended.writes, same]
  simp only [held]

/-- Step lemma: nothing else becomes due. -/
theorem Attended.settled (keyed : world.database.outboxKeys.Nodup)
    (settled : stretch.Settled server world.database) (idle : world.writes process = [])
    (due : row ∈ world.due server process stretch) (shown : stretch.Shows now)
    (attended : Attended server.postgres process world
      [world.attempt retryDelay row report now] after) :
    stretch.Settled server after.database := by
  obtain ⟨present, pending, -, -⟩ := (World.mem_due idle).mp due
  intro other member unpublished
  rw [attended.outboxEvents] at member
  obtain ⟨before, there, rfl⟩ := Table.mem_modify_iff.mp member
  by_cases own : before.id = row.id
  · have same : before = row := Table.eq_of_mem_of_key_eq keyed there present own
    subst same
    rw [if_pos rfl] at unpublished ⊢
    rcases world.attempt_not_due pending shown with published | late
    · exact absurd unpublished published
    · exact .inr late
  · rw [if_neg own] at unpublished ⊢
    exact settled before there unpublished

end Due

/-! ## The loop -/

namespace Relay

/-- What a relay asks of the server in a stretch of time. -/
def attended {retryDelay : Int} (server : Server) (stretch : Stretch retryDelay)
    (process : ProcessId) :
    Interaction.Program.Interpreter Operation Operation.Answer World Choice :=
  fun operation => server.attend stretch process operation.erase

section Loop

variable {server : Server} {settings : OutboxSettings} {retryDelay : Int}
  {stretch : Stretch retryDelay} {process : ProcessId} {world : World} {session : Session}

/-- One turn of the loop: it waits unless there was a row to claim. -/
theorem ends_turn {post : Contract.Post PyError Session World (Option Double)}
    (delayed : timedelta settings.retrySeconds = .ok retryDelay)
    (verified : (Freight.publishOne retryDelay).ends (server.attend stretch process)
      (Contract.Post.on
        (fun worked _ => post (.ok (if worked then none else some settings.pollSeconds)) session)
        (fun _ _ _ => False)) {} world) :
    (turn settings).ends (attended server stretch process) post session world := by
  apply Computation.ends_tryExcept
  rw [delayed]
  apply Computation.ends_bind
  apply Computation.ends_ofExcept
  simp only [Contract.Post.on]
  apply Computation.ends_bind
  apply Computation.ends_withState
  rw [← relabel_publishOne, Computation.ends_relabel] at verified
  refine Computation.ends_mono verified ?_
  intro outcome last reached ended
  cases outcome with
  | error error => exact ended.elim
  | ok worked => exact Computation.ends_pure ended

/-- What has become of the rows that were due, after some turns. -/
structure WentThrough (server : Server) (stretch : Stretch retryDelay) (process : ProcessId)
    (queue : List OutboxEventModel) (turns : Nat) (world : World) (attempts : List Attempt)
    (after : World) : Prop where
  attended : Attended server.postgres process world attempts after
  rows : attempts.map Attempt.row = queue.take turns
  made : ∀ attempt ∈ attempts, attempt.retryDelay = retryDelay ∧ stretch.Shows attempt.now ∧
    attempt.confirmed = attempt.failure.isNone
  settled : stretch.Settled server after.database
  keyed : after.database.outboxKeys.Nodup
  remaining : Table.OrderedBy server.claimOrder (after.due server process stretch)
    (queue.drop turns)

/-- One turn, and then others. -/
theorem WentThrough.after_turn {queue : List OutboxEventModel} {turns : Nat}
    {middle after : World} {made attempts : List Attempt}
    (first : Attended server.postgres process world made middle)
    (rows : made.map Attempt.row = queue.take 1)
    (proper : ∀ attempt ∈ made, attempt.retryDelay = retryDelay ∧ stretch.Shows attempt.now ∧
      attempt.confirmed = attempt.failure.isNone)
    (others : WentThrough server stretch process (queue.drop 1) turns middle attempts after) :
    WentThrough server stretch process queue (turns + 1) world (made ++ attempts) after where
  attended := first.trans others.attended
  rows := by
    rw [List.map_append, rows, others.rows, Nat.add_comm turns 1, List.take_add]
  made := by
    intro attempt member
    rcases List.mem_append.mp member with one | other
    · exact proper attempt one
    · exact others.made attempt other
  settled := others.settled
  keyed := others.keyed
  remaining := by
    have remaining := others.remaining
    rwa [List.drop_drop, Nat.add_comm 1 turns] at remaining

/-- Run lemma: the turns go through the rows that are due, one after the other. -/
theorem run_goes_through (delayed : timedelta settings.retrySeconds = .ok retryDelay)
    {turns : Nat} {queue : List OutboxEventModel} (keyed : world.database.outboxKeys.Nodup)
    (idle : world.writes process = []) (settled : stretch.Settled server world.database)
    (ordered : Table.OrderedBy server.claimOrder (world.due server process stretch) queue) :
    (run settings turns).ends (attended server stretch process)
      (fun outcome _ after => outcome = .ok () ∧ ∃ attempts,
        WentThrough server stretch process queue turns world attempts after)
      session world := by
  induction turns generalizing world queue with
  | zero =>
      apply Computation.ends_pure
      exact ⟨rfl, [], .nothing idle, rfl, by simp, settled, keyed, ordered⟩
  | succ turns inductionHypothesis =>
      apply Computation.ends_bind
      apply ends_turn delayed
      cases first : server.first (world.due server process stretch) with
      | none =>
          -- nothing is due, and the rest of the turns find that again
          have empty := Server.first_eq_none first
          have nobody : queue = [] := by
            have perm := ordered.perm
            rw [empty] at perm
            exact perm.eq_nil
          subst nobody
          refine ends_publishOne_none idle (fun claimedAt shown => ?_) fun last after nothing => ?_
          · rw [World.claimable_eq_due idle settled shown]
            exact first
          · have same : after.database = world.database := nothing.database
            simp only [Contract.Post.on]
            refine Computation.ends_mono (inductionHypothesis (by rwa [same]) nothing.writes
              (by rwa [same]) (by rwa [nothing.due_nothing idle])) ?_
            intro outcome last final ended
            obtain ⟨returned, attempts, through⟩ := ended
            exact ⟨returned, [] ++ attempts, .after_turn nothing rfl (by simp) through⟩
      | some row =>
          have due := Server.mem_of_first first
          obtain ⟨present, pending, -, free⟩ := (World.mem_due idle).mp due
          have once : (world.due server process stretch).Nodup := by
            rw [World.due, Server.claimable, World.visible_idle idle]
            exact (List.Nodup.of_map _ keyed).filter _
          have distinct : ∀ other ∈ world.due server process stretch,
              (other.id = row.id ↔ other = row) := by
            intro other member
            refine ⟨fun own => ?_, congrArg _⟩
            exact Table.eq_of_mem_of_key_eq keyed ((World.mem_due idle).mp member).1 present own
          obtain ⟨rest, rfl, remaining⟩ := ordered.cons_of_least
            (fun other => other.id ≠ row.id) once due
            (fun other member different =>
              lt_of_le_of_ne (Server.first_least first member)
                (Server.claimOrder_ne fun own =>
                  different ((distinct other member).mp own.symm)))
            (fun other member => by simp [distinct other member])
          refine ends_publishOne idle (fun claimedAt shown => ?_)
            (Database.outbox_of_mem keyed present) free fun report now last after shown made => ?_
          · rw [World.claimable_eq_due idle settled shown]
            exact first
          · simp only [Contract.Post.on]
            refine Computation.ends_mono (inductionHypothesis (made.keyed keyed) made.writes
              (made.settled keyed settled idle due shown)
              (by rwa [made.due keyed idle due shown])) ?_
            intro outcome last final ended
            obtain ⟨returned, attempts, through⟩ := ended
            refine ⟨returned, _, .after_turn made rfl ?_ through⟩
            intro attempt member
            rw [List.mem_singleton.mp member]
            exact ⟨rfl, shown, by cases report <;> rfl⟩

/-- The loop of the outbox worker runs alone: nobody else does anything meanwhile, and nothing
but a publication raises.  In any stretch of time that is shorter than the retry delay, in which
no row falls due, and whose end plus the retry delay is before the year 10000, it goes through
the rows that are due when it begins, whatever becomes of the publications: after any number of
turns it has attempted the first so many of them, in the order of `next_attempt_at`,
`created_at` and `id`, and called the publisher once for each.  The outbox is as these attempts
leave it, and nothing else has changed.  The next turn does not wait while a row is left, and
waits `poll_seconds` once there is none.  Rows that other relays have locked are passed over. -/
theorem burst_visits_each_due_row_once (server : Server) (settings : OutboxSettings)
    {retryDelay : Int} (delayed : timedelta settings.retrySeconds = .ok retryDelay)
    (stretch : Stretch retryDelay) (process : ProcessId) (world : World)
    (keyed : world.database.outboxKeys.Nodup) (idle : world.writes process = [])
    (settled : stretch.Settled server world.database) (queue : List OutboxEventModel)
    (ordered : Table.OrderedBy server.claimOrder (world.due server process stretch) queue)
    (turns : Nat) (session : Session) :
    (run settings turns).ends (attended server stretch process)
      (fun outcome _ after => outcome = .ok () ∧ ∃ attempts : List Attempt,
        attempts.map Attempt.row = queue.take turns ∧
        (∀ attempt ∈ attempts, attempt.retryDelay = retryDelay ∧ stretch.Shows attempt.now ∧
          attempt.confirmed = attempt.failure.isNone) ∧
        after.publications =
          (attempts.map fun attempt => attempt.publication process).reverse ++
            world.publications ∧
        after.database = world.database.writeAll
          (attempts.flatMap fun attempt => attempt.writes server.postgres) ∧
        (turn settings).ends (attended server stretch process)
          (fun answer _ _ => answer =
            .ok (if turns < queue.length then none else some settings.pollSeconds))
          session after)
      session world := by
  refine Computation.ends_mono (run_goes_through delayed keyed idle settled ordered) ?_
  intro outcome last after ended
  obtain ⟨returned, attempts, through⟩ := ended
  refine ⟨returned, attempts, through.rows, through.made, through.attended.publications,
    through.attended.database, ?_⟩
  apply ends_turn delayed
  have idleThen := through.attended.writes
  have left := through.remaining.perm.length_eq
  rw [List.length_drop] at left
  cases first : server.first (after.due server process stretch) with
  | none =>
      have empty := Server.first_eq_none first
      rw [empty, List.length_nil] at left
      refine ends_publishOne_none idleThen (fun claimedAt shown => ?_) fun _ _ _ => ?_
      · rw [World.claimable_eq_due idleThen through.settled shown]
        exact first
      · have beyond : ¬ turns < queue.length := by omega
        simp only [Contract.Post.on, if_neg beyond]
        rfl
  | some row =>
      have due := Server.mem_of_first first
      obtain ⟨present, -, -, free⟩ := (World.mem_due idleThen).mp due
      have several := List.length_pos_of_mem due
      refine ends_publishOne idleThen (fun claimedAt shown => ?_)
        (Database.outbox_of_mem through.keyed present) free fun _ _ _ _ _ _ => ?_
      · rw [World.claimable_eq_due idleThen through.settled shown]
        exact first
      · have more : turns < queue.length := by omega
        simp only [Contract.Post.on, if_pos more]
        rfl

end Loop

/-! Two rows that are due, behind each other in the table, and one that will be due later. -/

def dueLater : Database :=
  { outboxEvents := [enqueued 2 20, enqueued 3 9000000, enqueued 1 10] }

def quietStretch : Stretch 5000000 where
  opening := 100
  closing := 200
  ordered := by decide
  short := by decide
  early := by decide
  late := by decide

theorem five_seconds : timedelta (.finite false 5629499534213120 (-50)) = .ok 5000000 := by
  have whole : microsecondsOf 5629499534213120 (-50) = 5000000 := by
    rw [microsecondsOf, ← Double.roundHalfEven_natCast 5000000]
    norm_num
  rw [timedelta_finite_iff, whole]
  decide

/-- Both are attempted in three turns, and then the worker waits. -/
theorem two_due_rows_visited :
    (run (retrying (.finite false 5629499534213120 (-50))) 3).ends
      (attended Server.flaky quietStretch 0)
      (fun outcome _ after => outcome = .ok () ∧ ∃ attempts : List Attempt,
        attempts.map Attempt.row = [enqueued 1 10, enqueued 2 20] ∧
        after.publications.length = 2)
      {} { base := dueLater } := by
  refine Computation.ends_mono (burst_visits_each_due_row_once Server.flaky
    (retrying (.finite false 5629499534213120 (-50))) five_seconds quietStretch 0
    { base := dueLater } (by decide) rfl (by decide) [enqueued 1 10, enqueued 2 20] (by decide)
    3 {}) ?_
  intro outcome last after ended
  obtain ⟨returned, attempts, rows, -, publications, -⟩ := ended
  refine ⟨returned, attempts, rows, ?_⟩
  have count := congrArg List.length rows
  rw [List.length_map] at count
  rw [publications]
  simpa using count

end Relay

end Freight
