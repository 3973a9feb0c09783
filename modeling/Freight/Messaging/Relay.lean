/-
Module: Freight.Messaging.Relay
Purpose: The relay with its counters: `publish_one` as before, with every increment of
  `worker_metrics.outbox` in sight, among the other processes and on the record.
Trusted boundary: none
Main exports:
  Relay.Outcome, Relay.Operation, Relay.publish, Relay.execute, Relay.publishOne,
  Relay.relabel_publishOne, Relay.relaying, Relay.platform_of_relaying
-/
import Freight.Application.EntryPoints
import Freight.Interaction.Recording

namespace Freight.Relay

open Interaction (Computation Exchange Entry Program ProcessId)
open Interaction.Computation (raise ofExcept tryExcept onExit relabel)

/-! ## Counting -/

/-- The labels of `worker_metrics.outbox`. -/
inductive Outcome where
  | brokerConfirmed
  | publishFailed
  | publishedCommitted
  | retryCommitted
  | transactionFailed
deriving DecidableEq, Repr

/-- What a process does: statements, and increments of a counter with the log record that
follows. -/
inductive Operation where
  | statement (statement : Statement)
  | count (outcome : Outcome)
deriving DecidableEq, Repr

namespace Operation

/-- What the server sees of it. -/
def erase : Operation → Statement
  | .statement performed => performed
  | .count _ => .observe

abbrev Answer (operation : Operation) : Type := Except PyError (Reply operation.erase)

end Operation

/-- Python code that works with a session and counts. -/
abbrev Py (α : Type) : Type :=
  Computation Operation (fun operation => Reply operation.erase) PyError Session α

/-- Code that does not count. -/
def plain {α : Type} (body : Freight.Py α) : Py α := relabel Operation.statement body

/-- `worker_metrics.outbox.labels(outcome).inc()`, and `observe`. -/
def count (outcome : Outcome) : Py Unit := Computation.call (Operation.count outcome)

/-! ## The code -/

/-- `ObservedPublisher.publish`: the `finally` clause counts the outcome that the `except`
clause has set. -/
def publish (message : RecordedEventMessage) : Py Unit := do
  tryExcept (plain (call (.publish message))) fun error => do
    count .publishFailed
    raise error
  count .brokerConfirmed

/-- `PublishOutboxEvent.execute`, with that publisher. -/
def execute (retryDelay : Int) : Py (Option PublicationResult) := do
  let claimedAt : DateTime ← plain (call .now)
  match ← plain (SQLAlchemyOutboxRepository.claimNext claimedAt) with
  | none => pure none
  | some message =>
      let failure : Option PyError ←
        tryExcept
          (do
            publish message
            pure none)
          (fun error => pure (some error))
      let now : DateTime ← plain (call .now)
      match failure with
      | some error =>
          let retryAt ← ofExcept (now.plus retryDelay)
          plain (SQLAlchemyOutboxRepository.markFailed message.messageId retryAt
            (SQLAlchemyOutboxRepository.truncated error.typeName))
          pure (some { message, confirmed := false, errorType := some error.typeName })
      | none =>
          plain (SQLAlchemyOutboxRepository.markPublished message.messageId now)
          pure (some { message, confirmed := true })

/-- `with session.begin()`. -/
def sessionBegin {α : Type} (body : Py α) : Py α :=
  tryExcept
    (do
      let answer ← body
      plain Session.commit
      pure answer)
    (fun error => do
      plain Session.rollback
      raise error)

/-- `publish_one`. -/
def publishOne (retryDelay : Int) : Py Bool := do
  let result ←
    tryExcept (onExit (sessionBegin (execute retryDelay)) (plain Session.close))
      (fun error => do
        count .transactionFailed
        raise error)
  match result with
  | none => pure false
  | some result => do
      count (if result.confirmed then .publishedCommitted else .retryCommitted)
      pure true

/-- The code of a process. -/
def code : Request → Py Unit
  | .publishOne retryDelay => do
      let _ ← publishOne retryDelay
  | request => plain request.code

/-! ## Without the counters -/

theorem relabel_plain {α : Type} (body : Freight.Py α) :
    relabel Operation.erase (plain body) = body := by
  have same : ∀ program : Program Statement (fun op => Except PyError (Reply op))
      (Except PyError α × Session),
      Program.relabel Operation.erase (show Program Operation Operation.Answer _ from
        Program.relabel Operation.statement program) = program := by
    intro program
    induction program with
    | done value => rfl
    | perform op resume inductionHypothesis =>
        exact congrArg (Program.perform op) (funext inductionHypothesis)
  exact funext fun session => same (body session)

theorem relabel_publish (message : RecordedEventMessage) :
    relabel Operation.erase (publish message) = ObservedPublisher.publish message := by
  funext session
  refine congrArg (Program.perform _) (funext ?_)
  intro answer
  cases answer with
  | error error =>
      refine congrArg (Program.perform _) (funext ?_)
      intro counted
      cases counted <;> rfl
  | ok reply =>
      refine congrArg (Program.perform _) (funext ?_)
      intro counted
      cases counted <;> rfl

theorem relabel_execute (retryDelay : Int) :
    relabel Operation.erase (execute retryDelay) = PublishOutboxEvent.execute retryDelay := by
  unfold execute PublishOutboxEvent.execute
  simp only [Interaction.Computation.relabel_bind, relabel_plain]
  refine congrArg _ (funext ?_)
  intro claimedAt
  refine congrArg _ (funext ?_)
  intro message
  cases message with
  | none => rfl
  | some message =>
      simp only [Interaction.Computation.relabel_bind,
        Interaction.Computation.relabel_tryExcept, relabel_publish]
      refine congrArg _ (funext ?_)
      intro failure
      have marks : ∀ (mark : Freight.Py Unit) (result : Option PublicationResult),
          relabel Operation.erase (do plain mark; pure result) = (do mark; pure result) := by
        intro mark result
        rw [Interaction.Computation.relabel_bind, relabel_plain]
        rfl
      have retries : ∀ (retryAt : Except PyError DateTime) (mark : DateTime → Freight.Py Unit)
          (result : Option PublicationResult),
          relabel Operation.erase
              (do
                let retryAt ← ofExcept retryAt
                plain (mark retryAt)
                pure result) =
            (do
              let retryAt ← ofExcept retryAt
              mark retryAt
              pure result) := by
        intro retryAt mark result
        cases retryAt with
        | error overflow => rfl
        | ok later => exact marks (mark later) result
      funext session
      refine congrArg (Program.perform _) (funext ?_)
      intro answer
      cases answer with
      | error error => rfl
      | ok now =>
          cases failure with
          | none => exact congrFun (marks _ _) session
          | some error =>
              exact congrFun (retries (now.plus retryDelay) (fun retryAt =>
                SQLAlchemyOutboxRepository.markFailed message.messageId retryAt
                  (SQLAlchemyOutboxRepository.truncated error.typeName)) _) session

/-- Without its counters this is the relay. -/
theorem relabel_publishOne (retryDelay : Int) :
    relabel Operation.erase (publishOne retryDelay) = Freight.publishOne retryDelay := by
  unfold publishOne Freight.publishOne sessionBegin Freight.sessionBegin
  simp only [Interaction.Computation.relabel_bind, Interaction.Computation.relabel_tryExcept,
    Interaction.Computation.relabel_onExit, relabel_plain, relabel_execute]
  refine congrArg _ (funext ?_)
  intro result
  cases result with
  | none => rfl
  | some result =>
      funext session
      refine congrArg (Program.perform _) (funext ?_)
      intro counted
      cases counted <;> rfl

theorem relabel_code (request : Request) :
    relabel Operation.erase (code request) = request.code := by
  cases request with
  | publishOne retryDelay =>
      unfold code Request.code
      simp only [Interaction.Computation.relabel_bind, relabel_publishOne]
      rfl
  | _ => exact relabel_plain _

/-! ## The system -/

instance decidableEqReply : (statement : Statement) → DecidableEq (Reply statement)
  | .selectShipment _ => inferInstanceAs (DecidableEq (Option ShipmentModel))
  | .selectEventId _ => inferInstanceAs (DecidableEq (Option UUID))
  | .claimOutbox _ => inferInstanceAs (DecidableEq (Option OutboxEventModel))
  | .uuid4 => inferInstanceAs (DecidableEq UUID)
  | .now => inferInstanceAs (DecidableEq DateTime)
  | .insertShipment _ | .insertEvent _ | .insertOutbox _ | .updateShipment _ _
  | .updateOutbox _ _ | .commit | .rollback | .observe | .publish _ | .respond _ =>
      inferInstanceAs (DecidableEq Unit)

instance (operation : Operation) : DecidableEq operation.Answer
  | .ok one, .ok two => decidable_of_iff (one = two) (by simp)
  | .error one, .error two => decidable_of_iff (one = two) (by simp)
  | .ok _, .error _ => isFalse nofun
  | .error _, .ok _ => isFalse nofun

/-- Something that a process has done, with what came of it. -/
abbrev Said : Type := Exchange Operation Operation.Answer

/-- The same with the number of transactions that had committed at that moment. -/
abbrev LogEntry : Type := Entry Nat Operation Operation.Answer

/-- What the processes have done. -/
abbrev Log : Type := Interaction.Journal LogEntry

/-- The server with what the processes have done. -/
abbrev Record : Type := Interaction.Recorded World Nat Operation Operation.Answer

/-- A commit that went through. -/
def commits : Said → Bool
  | ⟨.statement .commit, .ok _⟩ => true
  | _ => false

/-- Counters and the log do not raise, and a session that is closed after its commit has
nothing to send to the server. -/
def permits (spoken : List Said) : Operation → Choice → Bool
  | .count _, choice => choice = .proceed
  | .statement .rollback, .fault _ => !spoken.any commits
  | _, _ => true

/-- The platform whose relays count. -/
def counting (server : Server) (requests : ProcessId → Request) :
    Interaction.System Operation Operation.Answer World Choice
      (Except PyError Unit × Session) where
  act process operation := server.perform process operation.erase
  crash := World.discard
  program process := code (requests process) {}

/-- The same, on the record. -/
def relaying (server : Server) (requests : ProcessId → Request) :
    Interaction.System Operation Operation.Answer Record Choice
      (Except PyError Unit × Session) :=
  (counting server requests).recorded (fun world => world.wal.length) permits

abbrev RelayingState : Type :=
  Interaction.System.State Operation Operation.Answer Record (Except PyError Unit × Session)

/-- A run of it is a run of the platform. -/
theorem platform_of_relaying {server : Server} {requests : ProcessId → Request} {world : World}
    {state : RelayingState}
    (reached : (relaying server requests).Reachable { world := world } state) :
    ∃ processes, (platform server requests).Reachable world
      { world := state.world.world, processes := processes } := by
  have counted := Interaction.System.reachable_of_recorded reached
  refine ⟨_, Interaction.System.reachable_of_relabel Operation.erase (platform server requests)
    ?_ ?_ ?_ counted⟩
  · intro process
    exact congrFun (relabel_code (requests process)) {}
  · intro process operation choice before answer after acted
    exact acted
  · intro process before
    rfl

end Freight.Relay
