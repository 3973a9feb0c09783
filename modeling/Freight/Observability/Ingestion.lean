/-
Module: Freight.Observability.Ingestion
Purpose: The ingestion worker with its metrics: `process_delivery` and `handle_event` as
  before, with every increment of a counter and every observation of a duration in sight.
Trusted boundary: none
Main exports:
  Metered.Outcome, Metered.Signal, Metered.handleEvent, Metered.ack, Metered.handleFailure,
  Metered.processDelivery, Metered.consumeOne, Metered.silence_consumeOne, Metered.ingestion,
  Metered.metering, Metered.ingestion_iff_metering
-/
import Freight.Interaction.Signals
import Freight.Messaging.Ingestion

namespace Freight.Metered

open Interaction (Computation Entry Exchange ProcessId Program Signalled)
open Interaction.Computation

/-! ## Metrics -/

/-- The labels of `worker_metrics.ingestion`. -/
inductive Outcome where
  | committed
  | processingFailed
  | retryPublishReturned
  | dlqPublishReturned
  | republishFailed
  | ackFailed
  | acked
deriving DecidableEq, Repr

/-- What is told to `worker_metrics`: an increment of `ingestion`, or an observation of
`ingestion_duration`, whatever the duration. -/
inductive Signal where
  | ingestion (outcome : Outcome)
  | ingestionDuration
deriving DecidableEq, Repr

/-- Code of the worker that tells its metrics what it does. -/
abbrev Metering (σ α : Type) : Type :=
  Computation (Signalled Operation Signal) (Signalled.Reply Operation.Reply) PyError σ α

/-- `worker_metrics.ingestion.labels(outcome).inc()`. -/
def count {σ : Type} (outcome : Outcome) : Metering σ Unit := emit (.ingestion outcome)

/-- Code over the session of the worker, which tells nothing. -/
def statements {α : Type} (body : Py α) : Metering Session α :=
  plainly (translate statementMeaning body)

/-! ## The code -/

/-- `handle_event`: the increment stands between the commit and its log record. -/
def handleEvent (correlationId : Option String) (event : ShipmentEvent) :
    Metering Session Unit :=
  onExit
    (tryExcept
      (do
        let _ ← statements (ReceiveShipmentEvent.execute correlationId event)
        statements Session.commit
        count .committed
        statements (call .observe))
      (fun error => do
        statements Session.rollback
        statements (call .observe)
        raise error))
    (statements Session.close)

/-- `_ack`. -/
def ack (deliveryTag : Nat) : Metering Unit Unit := do
  tryExcept (plainly (operate (.basicAck deliveryTag))) fun error => do
    count .ackFailed
    raise error
  count .acked

/-- `_handle_failure`. -/
def handleFailure (consumer : RabbitMQShipmentEventConsumer) (deliveryTag : Nat)
    (properties : Option BasicProperties) (body : Bytes) (error : PyError) :
    Metering Unit Unit := do
  let headers := Consumer.headersOf properties
  let attemptCount ← ofExcept (Consumer.attemptCount headers)
  let now : DateTime ← plainly (operate .now)
  let failed := Consumer.republication consumer properties headers body attemptCount now error
  tryExcept (plainly (operate (.basicPublish failed))) fun publishError => do
    count .republishFailed
    raise publishError
  count
    (if failed.routingKey = retryRoutingKey then .retryPublishReturned
      else .dlqPublishReturned)
  ack deliveryTag

/-- The inner `try` statement of `process_delivery`. -/
def tryHandling (decoders : Decoders) (identity : String) (body : Bytes) :
    Metering Unit (Option PyError) :=
  tryExcept
    (do
      let message ← ofExcept (ShipmentEventMessage.fromJson decoders body)
      plainly (operate (.called identity message.toEvent))
      withState {} (handleEvent (some identity) message.toEvent)
      plainly (operate .returned)
      pure none)
    (fun error => pure (some error))

/-- `process_delivery`: the duration is observed on every exit of the outer `try` statement. -/
def processDelivery (consumer : RabbitMQShipmentEventConsumer) (decoders : Decoders)
    (deliveryTag : Nat) (body : Bytes) (properties : Option BasicProperties) :
    Metering Unit Unit := do
  let properties := properties.getD {}
  let identity ← plainly (translate channelMeaning
    (Consumer.correlationId (Consumer.orElse properties.correlationId properties.messageId)))
  let properties := { properties with correlationId := some identity }
  onExit
    (do
      match ← tryHandling decoders identity body with
      | some error => do
          count .processingFailed
          handleFailure consumer deliveryTag (some properties) body error
      | none => ack deliveryTag)
    (emit .ingestionDuration)

/-- One delivery. -/
def consumeOne (consumer : RabbitMQShipmentEventConsumer) (decoders : Decoders) :
    Metering Unit Unit := do
  let delivery : Unacked ← plainly (operate .nextDelivery)
  processDelivery consumer decoders delivery.deliveryTag delivery.letter.message.body
    (some delivery.letter.message.properties)

/-! ## Without the metrics -/

theorem silence_handleEvent (correlationId : Option String) (event : ShipmentEvent) :
    silence (handleEvent correlationId event) =
      translate statementMeaning (Freight.handleEvent correlationId event) := by
  unfold handleEvent Freight.handleEvent transaction statements count
  simp only [silence_onExit, silence_tryExcept, silence_bind, silence_plainly, silence_emit,
    silence_raise, translate_onExit, translate_tryExcept, translate_bind]
  have observed : translate statementMeaning (call Statement.observe : Py Unit) =
      translate statementMeaning (call Statement.observe >>= fun _ => pure () : Py Unit) :=
    congrArg _ (bind_return (call Statement.observe : Py Unit)).symm
  refine congrArg₂ onExit (congrArg₂ tryExcept ?_ ?_) rfl
  · rw [bind_bind]
    refine congrArg (_ >>= ·) (funext ?_)
    intro shipment
    refine congrArg (translate statementMeaning Session.commit >>= ·) (funext ?_)
    intro _
    exact observed
  · funext error
    refine congrArg (translate statementMeaning Session.rollback >>= ·) (funext ?_)
    intro _
    exact (translate_bind statementMeaning (call Statement.observe : Py Unit)
      fun _ => raise error).symm

theorem silence_ack (deliveryTag : Nat) :
    silence (ack deliveryTag) = translate channelMeaning (Consumer.ack deliveryTag) := by
  unfold ack count
  simp only [silence_bind, silence_tryExcept, silence_plainly, silence_emit, silence_raise]
  exact (bind_return _).trans (tryExcept_raise _)

theorem silence_handleFailure (consumer : RabbitMQShipmentEventConsumer) (deliveryTag : Nat)
    (properties : Option BasicProperties) (body : Bytes) (error : PyError) :
    silence (handleFailure consumer deliveryTag properties body error) =
      translate channelMeaning
        (Consumer.handleFailure consumer deliveryTag properties body error) := by
  unfold handleFailure Consumer.handleFailure count
  simp only [silence_bind, silence_tryExcept, silence_plainly, silence_emit, silence_raise,
    silence_ack, silence_ofExcept, translate_bind, translate_ofExcept]
  refine congrArg (_ >>= ·) (funext ?_)
  intro attemptCount
  refine congrArg (operate .now >>= ·) (funext ?_)
  intro now
  apply congrArg (· >>= _)
  exact tryExcept_raise _

theorem silence_tryHandling (decoders : Decoders) (identity : String) (body : Bytes) :
    silence (tryHandling decoders identity body) =
      translate channelMeaning (Consumer.tryHandling decoders identity body) := by
  unfold tryHandling Consumer.tryHandling Consumer.call
  simp only [silence_bind, silence_tryExcept, silence_plainly, silence_withState,
    silence_handleEvent, silence_pure, silence_ofExcept, translate_tryExcept, translate_bind,
    translate_ofExcept, translate_pure]
  refine congrArg₂ tryExcept ?_ rfl
  refine congrArg (_ >>= ·) (funext ?_)
  intro message
  rw [translate_call, channelMeaning, bind_bind]
  refine congrArg (operate (.called identity message.toEvent) >>= ·) (funext ?_)
  intro _
  exact (bind_bind _ _ _).symm

theorem silence_processDelivery (consumer : RabbitMQShipmentEventConsumer) (decoders : Decoders)
    (deliveryTag : Nat) (body : Bytes) (properties : Option BasicProperties) :
    silence (processDelivery consumer decoders deliveryTag body properties) =
      translate channelMeaning
        (Consumer.processDelivery consumer decoders deliveryTag body properties) := by
  unfold processDelivery Consumer.processDelivery
  simp only [silence_bind, silence_onExit, silence_plainly, silence_emit, silence_tryHandling,
    translate_bind, onExit_pure]
  refine congrArg (_ >>= ·) (funext ?_)
  intro identity
  refine congrArg (_ >>= ·) (funext ?_)
  intro raised
  cases raised with
  | none => exact silence_ack deliveryTag
  | some error => exact silence_handleFailure consumer deliveryTag _ body error

/-- Without its metrics the worker does what it does. -/
theorem silence_consumeOne (consumer : RabbitMQShipmentEventConsumer) (decoders : Decoders) :
    silence (consumeOne consumer decoders) = Freight.consumeOne consumer decoders := by
  unfold consumeOne Freight.consumeOne
  simp only [silence_bind, silence_plainly, silence_processDelivery]

/-! ## The system -/

/-- The code of a role, of which only the deliveries tell the metrics what they do. -/
def code (consumer : RabbitMQShipmentEventConsumer) (decoders : Decoders) :
    Role → Metering Unit Unit
  | .delivery => consumeOne consumer decoders
  | role => plainly (role.code consumer decoders)

theorem silence_code (consumer : RabbitMQShipmentEventConsumer) (decoders : Decoders)
    (role : Role) : silence (code consumer decoders role) = role.code consumer decoders := by
  cases role with
  | delivery => exact silence_consumeOne consumer decoders
  | producer message => exact silence_plainly _
  | timer => exact silence_plainly _
  | request other => exact silence_plainly _

abbrev Answer (operation : Signalled Operation Signal) : Type :=
  Except PyError (operation.Reply Operation.Reply)

/-- Something that a process has said, or told its metrics. -/
abbrev Said : Type := Exchange (Signalled Operation Signal) Answer

abbrev LogEntry : Type := Entry Unit (Signalled Operation Signal) Answer

abbrev Log : Type := Interaction.Journal LogEntry

/-- The deployment, with its metrics and with everything that is said on record. -/
def metering (server : Server) (consumer : RabbitMQShipmentEventConsumer) (decoders : Decoders)
    (roles : ProcessId → Role) :
    Interaction.System (Signalled Operation Signal) Answer
      (Interaction.Recorded Deployment Unit (Signalled Operation Signal) Answer)
      (Option Resolution) (Except PyError Unit × Unit) :=
  ((Freight.ingestion server consumer decoders roles).signalled
    (fun process => code consumer decoders (roles process) ())).recorded (fun _ => ())
      (fun _ _ _ => true)

/-- A state of it. -/
abbrev MeteringState : Type :=
  Interaction.System.State (Signalled Operation Signal) Answer
    (Interaction.Recorded Deployment Unit (Signalled Operation Signal) Answer)
    (Except PyError Unit × Unit)

/-- What it is without its metrics and its record. -/
def MeteringState.plain (state : MeteringState) : IngestionState where
  world := state.world.world
  processes := fun process => (state.processes process).map Program.silence

/-- The metrics change nothing: the deployment comes to a state if and only if it does so with its
metrics. -/
theorem ingestion_iff_metering {server : Server} {consumer : RabbitMQShipmentEventConsumer}
    {decoders : Decoders} {roles : ProcessId → Role} {world : Deployment}
    {reached : IngestionState} :
    (Freight.ingestion server consumer decoders roles).Reachable world reached ↔
      ∃ state : MeteringState,
        (metering server consumer decoders roles).Reachable { world := world } state ∧
          reached = state.plain := by
  have same : ∀ process, Program.silence (code consumer decoders (roles process) ()) =
      (Freight.ingestion server consumer decoders roles).program process :=
    fun process => congrFun (silence_code consumer decoders (roles process)) ()
  constructor
  · intro runs
    obtain ⟨signalled, further, rfl⟩ := Interaction.System.exists_signalled same runs
    have logged : ∃ state : MeteringState,
        (metering server consumer decoders roles).Reachable { world := world } state ∧
          signalled = { world := state.world.world, processes := state.processes } :=
      Interaction.System.exists_recorded (fun _ _ _ => rfl) further
    obtain ⟨state, recorded, rfl⟩ := logged
    exact ⟨state, recorded, rfl⟩
  · intro runs
    obtain ⟨state, recorded, rfl⟩ := runs
    exact Interaction.System.reachable_of_signalled same
      (Interaction.System.reachable_of_recorded recorded)

end Freight.Metered
