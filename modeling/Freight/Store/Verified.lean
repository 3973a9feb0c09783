/-
Module: Freight.Store.Verified
Purpose: Every request is verified against the store's contract, so the
  invariant holds in every state that any number of processes can reach, and of
  every run of one request alone.
Trusted boundary: none
Main exports:
  Request.Ended, holds_request, platform_verified, platform_invariant,
  platform_ended, run_alone
-/
import Freight.Store.Creating
import Freight.Store.Receiving
import Freight.Store.Relaying

namespace Freight

open Interaction (ProcessId Contract)

section Requests

variable (server : Server) (base : Database) (quiet : Prop) (process : ProcessId)
  (start : List Transaction)

/-- What is promised of each request when it ends. -/
def Request.Ended : Request → Except PyError Unit → World → Prop
  | .createShipment _ _ =>
      Settled quiet process start (fun _ => True) (fun _ _ => True)
  | .receiveEvent _ _ =>
      Settled quiet process start (NoDuplicate server base) (fun _ _ => True)
  | .handleEvent _ event =>
      Settled quiet process start (fun _ => True)
        (fun _ wal => ∃ row, (replay base wal).event event.eventId = some row)
  | .publishOne _ => fun _ world => Finished quiet process start world.wal

end Requests

section Rules

variable {server : Server} {base : Database} {quiet : Prop} {requests : ProcessId → Request}
  {process : ProcessId} {start : List Transaction} {connection : Connection} {world : World}
  {assertion : World → Prop} {session : Session}

theorem Extends.belated {error : PyError} {raised : List PyError} {after : World}
    (grown : Extends base process world after)
    (belated : Belated process error raised world.wal) :
    Belated process error raised after.wal := by
  obtain ⟨more, log, others⟩ := grown.log
  rw [log]
  intro transaction member own
  rcases List.mem_append.mp member with earlier | later
  · exact belated transaction earlier own
  · exact absurd (own ▸ List.mem_map_of_mem later) others

/-- What has been promised stays true while the others go on. -/
theorem Settled.stable {α : Type} {allowed : PyError → Prop}
    {answered : α → List Transaction → Prop}
    (archival : ∀ value, Archival quiet process (answered value))
    (outcome : Except PyError α) :
    (storeContract server base quiet requests process).Stable
      (Settled quiet process start allowed answered outcome) := by
  rintro before after ⟨finished, promised⟩ ⟨undisturbed, still⟩ -
  refine ⟨Finished.archival.lasting before after undisturbed.toExtends still finished, ?_⟩
  cases outcome with
  | ok value =>
      exact (archival value).lasting before after undisturbed.toExtends still promised
  | error error =>
      have raised : after.raised process = before.raised process :=
        congrArg Connection.raised undisturbed.connection
      exact ⟨promised.1, raised ▸ undisturbed.toExtends.belated promised.2⟩

theorem Request.Ended.stable (request : Request) (outcome : Except PyError Unit) :
    (storeContract server base quiet requests process).Stable
      (request.Ended server base quiet process start outcome) := by
  cases request with
  | createShipment correlationId input =>
      exact Settled.stable (fun _ => Archival.const True) outcome
  | receiveEvent correlationId reported =>
      exact Settled.stable (fun _ => Archival.const True) outcome
  | handleEvent correlationId event =>
      exact Settled.stable (fun _ => Archival.recorded _) outcome
  | publishOne retryDelay =>
      rintro before after finished ⟨undisturbed, still⟩ -
      exact Finished.archival.lasting before after undisturbed.toExtends still finished

/-- Dropping the value of a transaction. -/
theorem holds_dropped {α : Type} {body : Py α} {allowed : PyError → Prop}
    (verified : (storeContract server base quiet requests process).holds body
      (fun outcome _ last =>
        Settled quiet process start allowed (fun _ _ => True) outcome last) session world) :
    (storeContract server base quiet requests process).holds
      (do
        let _ ← body : Py Unit)
      (fun outcome _ last =>
        Settled quiet process start allowed (fun _ _ => True) outcome last)
      session world := by
  apply Contract.holds_bind
  refine Contract.holds_mono verified ?_
  rintro (error | value) after reached settled
  · exact settled
  · exact settled

/-- Every request keeps the store's contract.  Only the relay relies on the primary
key of the outbox. -/
theorem holds_request
    (keyed : ∀ retryDelay, requests process = .publishOne retryDelay →
      base.outboxKeys.Nodup)
    (mine : Mine process {} (fun world => Untouched quiet process start world.wal) world) :
    (storeContract server base quiet requests process).holds (requests process).code
      (fun outcome _ last =>
        (requests process).Ended server base quiet process start outcome last)
      {} world := by
  cases requested : requests process with
  | createShipment correlationId input =>
      exact holds_dropped (holds_createShipment requested mine)
  | receiveEvent correlationId reported =>
      exact holds_dropped (holds_receiveEvent requested mine)
  | handleEvent correlationId event => exact holds_handleEvent requested mine
  | publishOne retryDelay =>
      apply Contract.holds_bind
      refine Contract.holds_mono (holds_publishOne (keyed retryDelay requested) requested mine) ?_
      rintro (error | value) after reached finished
      · exact finished
      · exact finished

end Rules

/-! ## Any number of processes -/

section Platform

variable {server : Server} {base : Database} {quiet : Prop}
  {requests : ProcessId → Request}

/-- The invariant holds at the start. -/
theorem Invariant.initial : Invariant server base quiet requests { base := base } where
  start := rfl
  history := .start
  locking :=
    { exclusive := by simp
      backed := by simp
      outboxEvent := by simp
      claimed := by simp }
  ownership :=
    { unused := by simp
      owner := by simp
      shipments := by simp
      outboxEvents := by simp }
  ledger :=
    { filtered := by simp
      once := by simp
      settled := by simp
      faithful := by simp }
  claims := by simp
  refusals := by simp
  answers := by simp

/-- The processes of the platform keep the discipline of the store. -/
theorem platform_verified (server : Server) (requests : ProcessId → Request)
    (keyed : base.outboxKeys.Nodup) :
    (platform server requests).Verified (discipline server base False requests)
      (fun process outcome =>
        (requests process).Ended server base False process [] outcome.1)
      { base := base } where
  refl process world := ⟨Undisturbed.refl world, fun _ => rfl⟩
  trans process first second third one two :=
    ⟨one.1.trans two.1, fun calm => (two.2 calm).trans (one.2 calm)⟩
  stable process outcome := Request.Ended.stable (requests process) outcome.1
  compatible process other before after different guarantee :=
    ⟨guarantee other (Ne.symm different), False.elim⟩
  crash process world kept := by
    have discarded :
        Step server base False requests process world (world.discard process) :=
      Step.discard kept
    rcases discarded with ⟨after, undisturbed⟩
    exact ⟨after, fun other different =>
      ⟨undisturbed other (Ne.symm different), fun _ => rfl⟩⟩
  begins := Invariant.initial
  programs process := by
    refine holds_request (fun _ _ => keyed) ⟨rfl, ?_⟩
    exact ⟨by simp, fun _ => rfl⟩

/-- The invariant holds in every reachable state. -/
theorem platform_invariant (keyed : base.outboxKeys.Nodup)
    {state : PlatformState}
    (reached : (platform server requests).Reachable { base := base } state) :
    Invariant server base False requests state.world :=
  (platform_verified server requests keyed).invariant_reachable reached

/-- What a process has promised holds once it has ended. -/
theorem platform_ended (keyed : base.outboxKeys.Nodup)
    {state : PlatformState}
    (reached : (platform server requests).Reachable { base := base } state)
    {process : ProcessId} {outcome : Except PyError Unit} {session : Session}
    (finished : state.processes process = some (.done (outcome, session))) :
    (requests process).Ended server base False process [] outcome state.world :=
  (platform_verified server requests keyed).post_reachable reached finished

/-! ## One request alone -/

/-- A request that runs alone from a world in which it has not started yet. -/
theorem run_alone {process : ProcessId}
    (keyed : ∀ retryDelay, requests process = .publishOne retryDelay →
      base.outboxKeys.Nodup)
    {choices : List Choice} {world after : World} {outcome : Except PyError Unit}
    {session : Session} (kept : Invariant server base True requests world)
    (fresh : world.connection process = {})
    (uncommitted : process ∉ world.wal.map Transaction.process)
    (ran : (requests process).program.run (server.perform process) choices world =
      some ((outcome, session), after)) :
    (requests process).Ended server base True process world.wal outcome after ∧
      Invariant server base True requests after ∧
      ∀ other, other ≠ process → Undisturbed base other world after := by
  have verified : (storeContract server base True requests process).wp
      (requests process).program
      (fun outcome => (requests process).Ended server base True process world.wal outcome.1)
      world := holds_request keyed ⟨fresh, uncommitted, fun _ => rfl⟩
  refine Contract.wp_run ?_ ?_ ?_ verified kept ran
  · exact fun world => ⟨Undisturbed.refl world, fun _ => rfl⟩
  · exact fun world other _ => Undisturbed.refl world
  · exact fun first second third one two other different =>
      (one other different).trans (two other different)

end Platform

end Freight
