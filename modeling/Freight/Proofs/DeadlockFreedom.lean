/-
Module: Freight.Proofs.DeadlockFreedom
Purpose: No set of requests, deliveries and relays can block each other for good, because
  every transaction takes its locks in one order; from every reachable state all of them
  can be brought to their end.
Trusted boundary: none
Main exports:
  lockResources, Standing, platform_disciplined, lock_waits_end, processes_can_finish
-/
import Freight.Interaction.Resources
import Freight.Proofs.StoreWellFormed
import Freight.Store.OrderedTransactions

namespace Freight

open Interaction (ProcessId Program Protocol Resources)

/-- The locks of the server as resources that processes wait for. -/
def lockResources (postgres : Postgres) : Resources Statement World Lock where
  held := World.locks
  wanted := Statement.wanted postgres
  level := Lock.level

/-! ## What the protocol says about the lock table -/

/-- A process holds nothing above the level of its place, and what it has claimed it holds
alone. -/
structure Standing (process : ProcessId) (place : LockPlace) (world : World) : Prop where
  below : ∀ lock, (process, lock) ∈ world.locks → lock.level ≤ place.level
  claimed : ∀ id, place.claimed = some id → (process, .outboxRow id) ∈ world.locks ∧
    ∀ other, (other, .outboxRow id) ∈ world.locks → other = process

section Table

variable {server : Server} {process other : ProcessId} {place reached : LockPlace}
  {statement : Statement} {answer : Except PyError (Reply statement)} {before after : World}
  {lock : Lock}

theorem LockPlace.lt_of_climb {α : Type} {level : Nat} {answer : Except PyError α}
    (moved : place.climb level answer = some reached) : place.level < level := by
  cases answer with
  | ok value =>
      simp only [LockPlace.climb] at moved
      split at moved
      · assumption
      · cases moved
  | error error =>
      simp only [LockPlace.climb] at moved
      split at moved
      · assumption
      · cases moved

theorem LockPlace.climb_ok {α : Type} {level : Nat} {value : α}
    (moved : place.climb level (.ok value) = some reached) :
    reached = { place with level } := by
  simp only [LockPlace.climb] at moved
  split at moved
  · exact (Option.some.inj moved).symm
  · cases moved

theorem LockPlace.climb_error {α : Type} {level : Nat} {error : PyError}
    (moved : place.climb level (.error error : Except PyError α) = some reached) :
    reached = place := by
  simp only [LockPlace.climb] at moved
  split at moved
  · exact (Option.some.inj moved).symm
  · cases moved

/-- A lock that a statement waits for is above the place, or the row that was claimed. -/
theorem LockPlace.above_of_next (postgres : Postgres)
    (moved : LockPlace.next place statement answer = some reached)
    (wanted : lock ∈ statement.wanted postgres) :
    place.level < lock.level ∨ ∃ id, place.claimed = some id ∧ lock = .outboxRow id := by
  cases statement with
  | insertShipment row =>
      have under := LockPlace.lt_of_climb moved
      simp only [Statement.wanted, List.mem_cons, List.not_mem_nil, or_false] at wanted
      rcases wanted with rfl | rfl
      · exact .inl under
      · exact .inl under
  | insertEvent row =>
      simp only [Statement.wanted, List.mem_singleton] at wanted
      subst wanted
      exact .inl (LockPlace.lt_of_climb moved)
  | insertOutbox row =>
      have under := LockPlace.lt_of_climb moved
      simp only [Statement.wanted, List.mem_cons, List.not_mem_nil, or_false] at wanted
      rcases wanted with rfl | rfl
      · exact .inl under
      · exact .inl under
  | updateShipment id patch =>
      simp only [Statement.wanted, List.mem_singleton] at wanted
      subst wanted
      exact .inl (LockPlace.lt_of_climb moved)
  | updateOutbox id patch =>
      simp only [Statement.wanted, List.mem_singleton] at wanted
      subst wanted
      simp only [LockPlace.next] at moved
      split at moved
      · rename_i claimed
        exact .inr ⟨id, claimed, rfl⟩
      · cases moved
  | _ => cases wanted

/-- What a place has become after an answer that does not end the transaction. -/
structure LockPlace.Moved (place reached : LockPlace) (locks : List Lock) : Prop where
  higher : place.level ≤ reached.level
  taken : ∀ lock ∈ locks, lock.level ≤ reached.level ∨
    ∃ id, place.claimed = some id ∧ lock = .outboxRow id
  claimed : reached.claimed = place.claimed ∨
    ∃ id, reached.claimed = some id ∧ Lock.outboxRow id ∈ locks

theorem LockPlace.Moved.still (place : LockPlace) : place.Moved place [] where
  higher := Nat.le_refl _
  taken := nofun
  claimed := .inl rfl

theorem LockPlace.Moved.of_climb {level : Nat} {taken : List Lock}
    (under : place.level < level) (within : ∀ lock ∈ taken, lock.level ≤ level) :
    place.Moved { place with level } taken where
  higher := Nat.le_of_lt under
  taken := fun lock member => .inl (within lock member)
  claimed := .inl rfl

/-- A statement that climbs takes the locks of its level. -/
theorem LockPlace.moved_of_climb {level : Nat} (postgres : Postgres)
    (moved : place.climb level answer = some reached)
    (within : ∀ lock ∈ statement.wanted postgres, lock.level ≤ level)
    (takes : ∀ value, statement.taken postgres (.ok value) = statement.wanted postgres)
    (nothing : ∀ error, statement.taken postgres (.error error) = []) :
    place.Moved reached (statement.taken postgres answer) := by
  have under := LockPlace.lt_of_climb moved
  cases answer with
  | ok value =>
      rw [LockPlace.climb_ok moved, takes]
      exact .of_climb under within
  | error error =>
      rw [LockPlace.climb_error moved, nothing]
      exact .still place

theorem LockPlace.moved_of_next (postgres : Postgres)
    (moved : LockPlace.next place statement answer = some reached) :
    (statement.ends answer = true ∧ reached = {}) ∨
      (statement.ends answer = false ∧
        place.Moved reached (statement.taken postgres answer)) := by
  cases statement with
  | insertShipment row =>
      exact .inr ⟨rfl, LockPlace.moved_of_climb postgres moved
        (by simp [Statement.wanted, Lock.level]) (fun _ => rfl) (fun _ => rfl)⟩
  | insertEvent row =>
      exact .inr ⟨rfl, LockPlace.moved_of_climb postgres moved
        (by simp [Statement.wanted, Lock.level]) (fun _ => rfl) (fun _ => rfl)⟩
  | insertOutbox row =>
      exact .inr ⟨rfl, LockPlace.moved_of_climb postgres moved
        (by simp [Statement.wanted, Lock.level]) (fun _ => rfl) (fun _ => rfl)⟩
  | updateShipment id patch =>
      exact .inr ⟨rfl, LockPlace.moved_of_climb postgres moved
        (by simp [Statement.wanted, Lock.level]) (fun _ => rfl) (fun _ => rfl)⟩
  | claimOutbox now =>
      right
      rcases answer with error | (none | row)
      · cases moved
        exact ⟨rfl, .still place⟩
      · cases moved
        exact ⟨rfl, .still place⟩
      · simp only [LockPlace.next] at moved
        split at moved
        · rename_i under
          cases moved
          refine ⟨rfl, Nat.le_of_lt under, ?_, .inr ⟨row.id, rfl, List.mem_cons_self⟩⟩
          intro lock member
          cases List.mem_singleton.mp member
          exact .inl (Nat.le_refl 5)
        · cases moved
  | updateOutbox id patch =>
      right
      simp only [LockPlace.next] at moved
      split at moved
      · rename_i claimed
        cases moved
        cases answer with
        | ok value =>
            refine ⟨rfl, Nat.le_refl _, ?_, .inl rfl⟩
            intro lock member
            cases List.mem_singleton.mp member
            exact .inr ⟨id, claimed, rfl⟩
        | error error => exact ⟨rfl, .still place⟩
      · cases moved
  | commit =>
      cases answer with
      | ok value =>
          cases moved
          exact .inl ⟨rfl, rfl⟩
      | error error =>
          cases moved
          exact .inr ⟨rfl, .still place⟩
  | rollback =>
      cases moved
      exact .inl ⟨rfl, rfl⟩
  | _ =>
      cases moved
      right
      cases answer with
      | ok value => exact ⟨rfl, .still place⟩
      | error error => exact ⟨rfl, .still place⟩

/-! ## Operations on the table -/

/-- What a process holds after an operation of its own. -/
theorem Locks.mem_own (spec : Locks server.postgres process statement answer before after)
    (goesOn : statement.ends answer = false) :
    (process, lock) ∈ after.locks ↔
      lock ∈ statement.taken server.postgres answer ∨ (process, lock) ∈ before.locks := by
  rw [spec.table, goesOn]
  exact mem_hold_iff.trans (by simp)

theorem Locks.not_mem_of_ends
    (spec : Locks server.postgres process statement answer before after)
    (ended : statement.ends answer = true) : (process, lock) ∉ after.locks := by
  rw [spec.table, ended]
  intro member
  exact (mem_release_iff.mp member).2 rfl

/-- The others hold what they held. -/
theorem Locks.mem_other (spec : Locks server.postgres process statement answer before after)
    (different : other ≠ process) :
    (other, lock) ∈ after.locks ↔ (other, lock) ∈ before.locks := by
  rw [spec.table]
  split
  · exact mem_release_iff.trans (and_iff_left different)
  · exact mem_hold_iff.trans (or_iff_right fun taken => different taken.1)

theorem Standing.own (stands : Standing process place before)
    (spec : Locks server.postgres process statement answer before after)
    (moved : LockPlace.next place statement answer = some reached) :
    Standing process reached after := by
  rcases LockPlace.moved_of_next server.postgres moved with ⟨ended, rfl⟩ | ⟨goesOn, change⟩
  · constructor
    · intro lock held
      exact absurd held (spec.not_mem_of_ends ended)
    · exact fun id claimed => nomatch claimed
  constructor
  · intro lock held
    rcases (spec.mem_own goesOn).mp held with taken | earlier
    · rcases change.taken lock taken with low | ⟨id, claimed, rfl⟩
      · exact low
      · exact (stands.below _ (stands.claimed id claimed).1).trans change.higher
    · exact (stands.below lock earlier).trans change.higher
  · intro id claimed
    rcases change.claimed with same | ⟨row, fresh, taken⟩
    · rw [same] at claimed
      obtain ⟨held, alone⟩ := stands.claimed id claimed
      refine ⟨(spec.mem_own goesOn).mpr (.inr held), ?_⟩
      intro other holds
      by_contra different
      exact different (alone other ((spec.mem_other different).mp holds))
    · cases fresh.symm.trans claimed
      refine ⟨(spec.mem_own goesOn).mpr (.inl taken), ?_⟩
      intro other holds
      by_contra different
      exact different (free_of_heldByOther (spec.free _ taken) other
        ((spec.mem_other different).mp holds))

theorem Standing.others (stands : Standing process place before)
    (different : other ≠ process)
    (spec : Locks server.postgres other statement answer before after) :
    Standing process place after := by
  constructor
  · intro lock held
    exact stands.below lock ((spec.mem_other (Ne.symm different)).mp held)
  · intro id claimed
    obtain ⟨held, alone⟩ := stands.claimed id claimed
    refine ⟨(spec.mem_other (Ne.symm different)).mpr held, ?_⟩
    intro holder holds
    by_cases same : holder = other
    · subst same
      cases ended : statement.ends answer with
      | true => exact absurd holds (spec.not_mem_of_ends ended)
      | false =>
          rcases (spec.mem_own ended).mp holds with taken | earlier
          · exact absurd (free_of_heldByOther (spec.free _ taken) process held)
              (Ne.symm different)
          · exact alone holder earlier
    · exact alone holder ((spec.mem_other same).mp holds)

theorem Standing.killed (process : ProcessId) (world : World) :
    Standing process lockProtocol.start (world.discard process) := by
  constructor
  · intro lock held
    exact absurd rfl (mem_release_iff.mp held).2
  · exact fun id claimed => nomatch claimed

theorem Standing.survives (stands : Standing process place before)
    (different : other ≠ process) : Standing process place (before.discard other) := by
  constructor
  · intro lock held
    exact stands.below lock (mem_release_iff.mp held).1
  · intro id claimed
    obtain ⟨held, alone⟩ := stands.claimed id claimed
    exact ⟨mem_release_iff.mpr ⟨held, Ne.symm different⟩,
      fun holder holds => alone holder (mem_release_iff.mp holds).1⟩

end Table

/-! ## The platform -/

section Platform

variable (server : Server) (base : Database) (requests : ProcessId → Request)

instance (statement : Statement) : Nonempty (Except PyError (Reply statement)) :=
  ⟨.error (.exception "" "")⟩

/-- Every process of the platform moves through its places. -/
theorem platform_kept : lockProtocol.Kept (platform server requests) Standing { base } where
  begins _ := { below := nofun, claimed := nofun }
  own stands acted moved := stands.own (Locks.of_perform acted) moved
  others different stands acted := stands.others different (Locks.of_perform acted)
  killed := Standing.killed
  survives different stands := stands.survives different
  programs process := lockProtocol_follows (requests process)

variable {server base requests} {state : PlatformState}

/-- Who waits for a lock holds none of its level or above. -/
theorem platform_ordered (reached : (platform server requests).Reachable { base } state) :
    (lockResources server.postgres).Ordered state := by
  intro process op resume other lock found different wanted held own mine
  obtain ⟨place, stands, follows, -⟩ :=
    (platform_kept server base requests).placed_reachable reached process
  obtain ⟨next, moved, -⟩ := (follows _ found).perform (.error (.exception "" ""))
  rcases LockPlace.above_of_next server.postgres moved wanted with above | ⟨id, claimed, rfl⟩
  · exact Nat.lt_of_le_of_lt (stands.below own mine) above
  · exact absurd ((stands.claimed id claimed).2 other held) different

/-- Locks have holders that are still at work. -/
theorem platform_holders (reached : (platform server requests).Reachable { base } state)
    {process : ProcessId} {lock : Lock} (held : (process, lock) ∈ state.world.locks) :
    ∃ op resume, state.processes process = some (.perform op resume) := by
  obtain ⟨place, stands, follows, gone⟩ :=
    (platform_kept server base requests).placed_reachable reached process
  have above : 0 < place.level := by
    have positive : 0 < lock.level := by cases lock <;> exact Nat.succ_pos _
    exact Nat.lt_of_lt_of_le positive (stands.below lock held)
  cases program : state.processes process with
  | none =>
      rw [gone program] at above
      cases above
  | some rest =>
      cases rest with
      | done value =>
          rw [(follows _ program).done] at above
          cases above
      | perform op resume => exact ⟨op, resume, rfl⟩

/-- A statement that nobody blocks goes through. -/
theorem platform_goes {process : ProcessId} {op : Statement} {world : World}
    (free : ∀ other, ¬ (lockResources server.postgres).Blocked world process op other) :
    Exhausted world ∨ ∃ choice answer after, choice.isFault = false ∧
      server.perform process op choice world = some (answer, after) := by
  have unheld : ∀ lock ∈ op.wanted server.postgres,
      world.heldByOther process lock = false := by
    intro lock wanted
    rw [World.heldByOther, List.any_eq_false]
    intro held member
    simp only [Bool.and_eq_true, decide_eq_true_eq, not_and, not_not]
    intro same
    by_contra different
    exact free held.1 ⟨different, lock, wanted, same ▸ member⟩
  rcases Server.goes_of_free unheld with exhausted | ⟨choice, outcome, calm, executed⟩
  · exact .inl exhausted
  · refine .inr ⟨choice, outcome.1, outcome.2.settle process outcome.1, calm, ?_⟩
    simp [Server.perform, executed]

theorem platform_disciplined (server : Server) (base : Database)
    (requests : ProcessId → Request) :
    (lockResources server.postgres).Disciplined (platform server requests)
      (fun choice => choice.isFault = false) Exhausted { base } where
  ordered _ reached := platform_ordered reached
  others different acted := (Locks.of_perform acted).mem_other different
  grows {_ op _ _ answer _} acted := by
    cases ended : op.ends answer with
    | true => exact .inr fun lock => (Locks.of_perform acted).not_mem_of_ends ended
    | false =>
        exact .inl fun lock held => ((Locks.of_perform acted).mem_own ended).mpr (.inr held)
  holders _ reached _ _ held := platform_holders reached held
  goes _ free := platform_goes free

end Platform

/-! ## A creation that waits for another one -/

/-- Everybody creates a shipment with one reference number. -/
def creations : ProcessId → Request := fun _ => journey 0

/-- The first creation has inserted its shipment and its event, and the second is about to
insert its own shipment. -/
def contention : List (Interaction.System.Action Choice) :=
  (createTurns 0).take 10 ++
    turns 1 [.time (.utc 8), .uuid ⟨4#128⟩, .uuid ⟨5#128⟩, .time (.utc 9), .proceed, .proceed,
      .proceed, .uuid ⟨6#128⟩]

/-- The locks that the next statement of a process waits for. -/
def waitingFor (state : PlatformState) (process : ProcessId) : Option (List Lock) :=
  match state.processes process with
  | some (.perform statement _) => some (statement.wanted Server.utc.postgres)
  | _ => none

theorem waitsFor_of_waitingFor {state : PlatformState} {process other : ProcessId}
    {locks : List Lock} {lock : Lock} (waiting : waitingFor state process = some locks)
    (wanted : lock ∈ locks) (different : other ≠ process)
    (held : (other, lock) ∈ state.world.locks) :
    (lockResources Server.utc.postgres).WaitsFor state process other := by
  simp only [waitingFor] at waiting
  split at waiting
  · rename_i statement resume found
    cases waiting
    exact ⟨statement, resume, found, different, lock, wanted, held⟩
  · cases waiting

theorem contention_runs :
    (((platform Server.utc creations).run contention
      ((platform Server.utc creations).initial {})).map fun state =>
        (state.world.locks, waitingFor state 1)) =
      some
        ([(0, .eventKey ⟨2#128⟩), (0, .shipmentKey parcel), (0, .referenceNumber "FRT-1")],
          some [.shipmentKey ⟨4#128⟩, .referenceNumber "FRT-1"]) := by
  decide +kernel

theorem contention_waits :
    ∃ state : PlatformState, (platform Server.utc creations).Reachable {} state ∧
      (lockResources Server.utc.postgres).WaitsFor state 1 0 := by
  obtain ⟨state, ran, shown⟩ := Option.map_eq_some_iff.mp contention_runs
  obtain ⟨locks, waiting⟩ := Prod.mk.inj shown
  refine ⟨state, ⟨contention, ran⟩,
    waitsFor_of_waitingFor waiting (List.mem_cons_of_mem _ List.mem_cons_self) (by decide) ?_⟩
  rw [locks]
  exact List.mem_cons_of_mem _ (List.mem_cons_of_mem _ List.mem_cons_self)

/-! ## Nobody waits for ever -/

/-- No process of a reachable state waits for itself through others, and from every process
that has not ended, waits lead to one whose next statement the server can carry out without
a fault, unless the identifiers have run out. -/
theorem lock_waits_end (server : Server) (base : Database) (requests : ProcessId → Request)
    (state : PlatformState) (reached : (platform server requests).Reachable { base } state) :
    (∀ process, ¬ Relation.TransGen ((lockResources server.postgres).WaitsFor state)
        process process) ∧
      ∀ process statement resume,
        state.processes process = some (.perform statement resume) →
          ∃ last,
            Relation.ReflTransGen ((lockResources server.postgres).WaitsFor state)
              process last ∧
            (Exhausted state.world ∨ ∃ choice, choice.isFault = false ∧
              ((platform server requests).step (.perform last choice) state).isSome =
                true) := by
  have ordered := platform_ordered reached
  refine ⟨ordered.not_waitsFor_self, ?_⟩
  intro process statement resume found
  obtain ⟨last, chain, unblocked⟩ := ordered.exists_unblocked process
  refine ⟨last, chain, ?_⟩
  -- the last of the chain is at work: either it is the process itself, or it holds a lock
  have working : ∃ op rest, state.processes last = some (.perform op rest) := by
    cases chain with
    | refl => exact ⟨statement, resume, found⟩
    | tail _ wait =>
        obtain ⟨_, _, _, _, lock, _, held⟩ := wait
        exact platform_holders reached held
  obtain ⟨op, rest, atWork⟩ := working
  have free : ∀ other, ¬ (lockResources server.postgres).Blocked state.world last op other :=
    fun other blocked => unblocked other ⟨op, rest, atWork, blocked⟩
  rcases platform_goes free with exhausted | ⟨choice, answer, after, calm, acted⟩
  · exact .inl exhausted
  · refine .inr ⟨choice, calm, ?_⟩
    have performed : (platform server requests).act last op choice state.world =
        some (answer, after) := acted
    simp [Interaction.System.step, atWork, performed]

/-- The second creation waits for the first one, and that is all. -/
theorem contention_ends :
    ∃ state : PlatformState, (platform Server.utc creations).Reachable {} state ∧
      (lockResources Server.utc.postgres).WaitsFor state 1 0 ∧
      ¬ Relation.TransGen ((lockResources Server.utc.postgres).WaitsFor state) 1 1 := by
  obtain ⟨state, reached, waits⟩ := contention_waits
  exact ⟨state, reached, waits, (lock_waits_end Server.utc {} creations state reached).1 1⟩

/-- From every reachable state, one run without faults and crashes brings any number of
processes that are alive to their end, unless it uses up the identifiers. -/
theorem processes_can_finish (server : Server) (base : Database)
    (requests : ProcessId → Request) (state : PlatformState)
    (reached : (platform server requests).Reachable { base } state)
    (processes : List ProcessId)
    (alive : ∀ process ∈ processes, state.processes process ≠ none) :
    ∃ actions final,
      (∀ action ∈ actions, ∃ process choice,
        action = .perform process choice ∧ choice.isFault = false) ∧
      (platform server requests).run actions state = some final ∧
      ((∀ process ∈ processes, ∃ value, final.processes process = some (.done value)) ∨
        Exhausted final.world) :=
  (platform_disciplined server base requests).completes reached alive

/-- It can be brought to its end all the same. -/
theorem contention_can_finish :
    ∃ state : PlatformState, (platform Server.utc creations).Reachable {} state ∧
      (lockResources Server.utc.postgres).WaitsFor state 1 0 ∧
      ∃ actions final, (platform Server.utc creations).run actions state = some final ∧
        ((∃ value, final.processes 1 = some (.done value)) ∨ Exhausted final.world) := by
  obtain ⟨state, reached, waits⟩ := contention_waits
  have alive : ∀ process ∈ [1], state.processes process ≠ none := by
    intro process member
    obtain ⟨statement, resume, found, -⟩ := waits
    rw [List.mem_singleton.mp member, found]
    exact nofun
  obtain ⟨actions, final, -, ran, ended⟩ :=
    processes_can_finish Server.utc {} creations state reached [1] alive
  refine ⟨state, reached, waits, actions, final, ran, ?_⟩
  rcases ended with finished | exhausted
  · exact .inl (finished 1 List.mem_cons_self)
  · exact .inr exhausted

end Freight
