/-
Module: Freight.Messaging.Topology
Purpose: Exchanges, queues and bindings as declarations make them, where a message goes
  through them, and the declarations and publications of the code.
Trusted boundary: none
Main exports:
  Declaration, Topology, Topology.declare, Topology.after, Topology.Receives,
  Topology.Expires, Environment, getOutboxSettings, IngestionSettings,
  IngestionSettings.declareTopology, RabbitMQRecordedEventPublisher.declareTopology,
  Outbox.Asks, Outbox.run_confined
-/
import Freight.Interaction.Transcript
import Freight.Messaging.Outbox
import Freight.Relational.Table

namespace Freight

open Interaction (Computation)
open Interaction.Computation (Confined confined_call confined_modify confined_pure
  confined_raise confined_read)

/-! ## Exchanges, queues and bindings -/

/-- The arguments of a queue by which its messages expire. -/
structure QueueArguments where
  messageTtl : Option Int := none
  deadLetterExchange : Option String := none
  deadLetterRoutingKey : Option String := none
deriving DecidableEq, Repr

/-- A topic exchange, a durable queue, or a binding. -/
inductive Declaration where
  | exchangeDeclare (exchange : String)
  | queueDeclare (queue : String) (arguments : QueueArguments)
  | queueBind (queue exchange routingKey : String)
deriving DecidableEq, Repr

structure Binding where
  exchange : String
  routingKey : String
  queue : String
deriving DecidableEq, Repr

/-- What a broker holds besides messages. -/
structure Topology where
  exchanges : List String := []
  queues : List (String × QueueArguments) := []
  bindings : List Binding := []
deriving DecidableEq, Repr

namespace Topology

/-- One declaration; `none` where the broker closes the channel. -/
def declare (topology : Topology) : Declaration → Option Topology
  | .exchangeDeclare exchange =>
      -- the default exchange cannot be declared
      if exchange = "" then none
      else some { topology with exchanges := topology.exchanges.insert exchange }
  | .queueDeclare queue arguments =>
      match topology.queues.lookup queue with
      | none => some { topology with queues := topology.queues ++ [(queue, arguments)] }
      | some declared => if declared = arguments then some topology else none
  | .queueBind queue exchange routingKey =>
      if exchange ∈ topology.exchanges ∧ (topology.queues.lookup queue).isSome then
        some
          { topology with
            bindings := topology.bindings.insert
              { exchange := exchange, routingKey := routingKey, queue := queue } }
      else none

/-- The topology after declarations that have all gone through. -/
def after : List Declaration → Topology → Option Topology
  | [], topology => some topology
  | declaration :: declarations, topology =>
      (topology.declare declaration).bind (after declarations)

/-- A message published to an exchange reaches a queue: by a binding with exactly its key,
and on the default exchange by the name of the queue. -/
def Receives (topology : Topology) (exchange routingKey queue : String) : Prop :=
  if exchange = "" then routingKey = queue ∧ (topology.queues.lookup queue).isSome
  else
    ({ exchange := exchange, routingKey := routingKey, queue := queue } : Binding) ∈
      topology.bindings

instance (topology : Topology) (exchange routingKey queue : String) :
    Decidable (topology.Receives exchange routingKey queue) :=
  inferInstanceAs (Decidable (ite _ _ _))

/-- A message that was published with a key and expires in one queue reaches another: it is
published again to the dead-letter exchange, under the key that the queue gives or under its
own. -/
def Expires (topology : Topology) (routingKey source queue : String) : Prop :=
  ∃ arguments exchange, topology.queues.lookup source = some arguments ∧
    arguments.deadLetterExchange = some exchange ∧
    topology.Receives exchange (arguments.deadLetterRoutingKey.getD routingKey) queue

variable {topology reached : Topology} {declarations : List Declaration}
  {declaration : Declaration} {binding : Binding} {queue : String}
  {arguments : QueueArguments}

/-- Step lemma: only `queue_bind` adds a binding, and it adds its own. -/
theorem mem_bindings_declare (declared : topology.declare declaration = some reached) :
    binding ∈ reached.bindings ↔ binding ∈ topology.bindings ∨
      declaration = .queueBind binding.queue binding.exchange binding.routingKey := by
  cases declaration with
  | exchangeDeclare exchange =>
      simp only [declare] at declared
      split at declared
      · cases declared
      · cases declared
        simp
  | queueDeclare queue arguments =>
      simp only [declare] at declared
      split at declared
      · cases declared
        simp
      · split at declared
        · cases declared
          simp
        · cases declared
  | queueBind queue exchange routingKey =>
      simp only [declare] at declared
      split at declared
      · cases declared
        rw [List.mem_insert_iff, or_comm]
        refine or_congr_right ?_
        cases binding
        simp only [Binding.mk.injEq, Declaration.queueBind.injEq]
        constructor
        · intro same
          exact ⟨same.2.2.symm, same.1.symm, same.2.1.symm⟩
        · intro same
          exact ⟨same.2.1.symm, same.2.2.symm, same.1.symm⟩
      · cases declared

/-- Run lemma: the bindings are those that have been declared. -/
theorem mem_bindings_after (ran : after declarations topology = some reached) :
    binding ∈ reached.bindings ↔ binding ∈ topology.bindings ∨
      .queueBind binding.queue binding.exchange binding.routingKey ∈ declarations := by
  induction declarations generalizing topology with
  | nil =>
      cases ran
      simp
  | cons declaration declarations inductionHypothesis =>
      obtain ⟨next, declared, rest⟩ := Option.bind_eq_some_iff.mp ran
      rw [inductionHypothesis rest, mem_bindings_declare declared, List.mem_cons, or_assoc,
        eq_comm (a := declaration)]

/-- A queue that has been declared stays as it is. -/
theorem lookup_declare (declared : topology.declare declaration = some reached)
    (present : topology.queues.lookup queue = some arguments) :
    reached.queues.lookup queue = some arguments := by
  cases declaration with
  | exchangeDeclare exchange =>
      simp only [declare] at declared
      split at declared
      · cases declared
      · cases declared
        exact present
  | queueDeclare other otherArguments =>
      simp only [declare] at declared
      split at declared
      · cases declared
        rw [List.lookup_append, present]
        rfl
      · split at declared
        · cases declared
          exact present
        · cases declared
  | queueBind other exchange routingKey =>
      simp only [declare] at declared
      split at declared
      · cases declared
        exact present
      · cases declared

theorem lookup_after_of_lookup (ran : after declarations topology = some reached)
    (present : topology.queues.lookup queue = some arguments) :
    reached.queues.lookup queue = some arguments := by
  induction declarations generalizing topology with
  | nil =>
      cases ran
      exact present
  | cons declaration declarations inductionHypothesis =>
      obtain ⟨next, declared, rest⟩ := Option.bind_eq_some_iff.mp ran
      exact inductionHypothesis rest (lookup_declare declared present)

/-- Run lemma: every declaration of a queue that has gone through gave its arguments. -/
theorem lookup_after (ran : after declarations topology = some reached)
    (member : .queueDeclare queue arguments ∈ declarations) :
    reached.queues.lookup queue = some arguments := by
  induction declarations generalizing topology with
  | nil => cases member
  | cons declaration declarations inductionHypothesis =>
      obtain ⟨next, declared, rest⟩ := Option.bind_eq_some_iff.mp ran
      rcases List.mem_cons.mp member with same | later
      · subst same
        refine lookup_after_of_lookup rest ?_
        simp only [declare] at declared
        split at declared
        · rename_i absent
          cases declared
          rw [List.lookup_append, absent]
          simp
        · rename_i present
          split at declared
          · rename_i equality
            cases declared
            rw [present, equality]
          · cases declared
      · exact inductionHypothesis rest later

end Topology

/-! ## Configuration -/

/-- `os.environ`. -/
abbrev Environment : Type := String → Option String

namespace Environment

variable (environment : Environment)

/-- `os.getenv(name, default)`. -/
def getenv (name default : String) : String := (environment name).getD default

def getRabbitmqExchange : String :=
  environment.getenv "RABBITMQ_EXCHANGE" "freight.shipment-events"

def getRabbitmqQueue : String :=
  environment.getenv "RABBITMQ_QUEUE" "freight.shipment-event-ingestion"

def getRabbitmqRetryExchange : String :=
  environment.getenv "RABBITMQ_RETRY_EXCHANGE" "freight.shipment-events.retry"

def getRabbitmqRetryQueue : String :=
  environment.getenv "RABBITMQ_RETRY_QUEUE" "freight.shipment-event-retry"

def getRabbitmqDeadLetterExchange : String :=
  environment.getenv "RABBITMQ_DEAD_LETTER_EXCHANGE" "freight.shipment-events.dlx"

def getRabbitmqDeadLetterQueue : String :=
  environment.getenv "RABBITMQ_DEAD_LETTER_QUEUE" "freight.shipment-event-dlq"

end Environment

structure OutboxSettings where
  exchange : String
  queue : String
  pollSeconds : Double
  retrySeconds : Double
  publishTimeoutSeconds : Double
deriving DecidableEq, Repr

/-- `not isfinite(value) or value <= 0`, the other way round. -/
def Double.isFinitePositive : Double → Bool
  | .finite false mantissa _ => decide (0 < mantissa)
  | _ => false

/-- `positive` of `get_outbox_settings`. -/
def positive (float : String → Option Double) (environment : Environment)
    (name default : String) : Except PyError Double :=
  match float (environment.getenv name default) with
  | none => .error (.value "could not convert string to float")
  | some value =>
      if value.isFinitePositive then .ok value
      else .error (.value (name ++ " must be finite and positive"))

/-- `get_outbox_settings`, for what `float` reads of a string: no value where it raises a
`ValueError`. -/
def getOutboxSettings (float : String → Option Double) (environment : Environment) :
    Except PyError OutboxSettings :=
  let exchange := environment.getenv "OUTBOX_EXCHANGE" "freight.shipment-notifications"
  let queue := environment.getenv "OUTBOX_QUEUE" "freight.shipment-event-notifications"
  if exchange = "" ∨ queue = "" then
    .error (.value "Outbox exchange and queue must not be empty")
  else if
      exchange ∈ [environment.getRabbitmqExchange, environment.getRabbitmqRetryExchange,
        environment.getRabbitmqDeadLetterExchange] ∨
      queue ∈ [environment.getRabbitmqQueue, environment.getRabbitmqRetryQueue,
        environment.getRabbitmqDeadLetterQueue] then
    .error (.value "Outbox topology must be separate from ingestion topology")
  else do
    let pollSeconds ← positive float environment "OUTBOX_POLL_SECONDS" "1"
    let retrySeconds ← positive float environment "OUTBOX_RETRY_SECONDS" "5"
    let publishTimeoutSeconds ←
      positive float environment "OUTBOX_PUBLISH_TIMEOUT_SECONDS" "10"
    pure { exchange, queue, pollSeconds, retrySeconds, publishTimeoutSeconds }

/-- What the validation establishes of the names. -/
theorem getOutboxSettings_separate {float : String → Option Double}
    {environment : Environment} {settings : OutboxSettings}
    (accepted : getOutboxSettings float environment = .ok settings) :
    settings.exchange ≠ "" ∧ settings.queue ≠ "" ∧
      settings.exchange ∉ [environment.getRabbitmqExchange,
        environment.getRabbitmqRetryExchange, environment.getRabbitmqDeadLetterExchange] ∧
      settings.queue ∉ [environment.getRabbitmqQueue, environment.getRabbitmqRetryQueue,
        environment.getRabbitmqDeadLetterQueue] := by
  unfold getOutboxSettings at accepted
  dsimp only at accepted
  split at accepted
  · cases accepted
  rename_i named
  split at accepted
  · cases accepted
  rename_i separate
  simp only [bind, Except.bind] at accepted
  split at accepted
  · cases accepted
  split at accepted
  · cases accepted
  split at accepted
  · cases accepted
  cases accepted
  exact ⟨fun empty => named (.inl empty), fun empty => named (.inr empty),
    fun shared => separate (.inl shared), fun shared => separate (.inr shared)⟩

/-! ## The declarations of the code -/

/-- The consumer with its queues. -/
structure IngestionSettings extends RabbitMQShipmentEventConsumer where
  queue : String
  retryQueue : String
  deadLetterQueue : String
  retryDelayMs : Int
deriving DecidableEq, Repr

namespace IngestionSettings

/-- The consumer that the ingestion worker's `main` builds. -/
def ofEnvironment (environment : Environment) : Except PyError IngestionSettings := do
  let retryDelayMs ←
    (AmqpValue.str (environment.getenv "RABBITMQ_RETRY_DELAY_MS" "5000")).toInt
  let maxAttempts ← (AmqpValue.str (environment.getenv "RABBITMQ_MAX_ATTEMPTS" "3")).toInt
  pure
    { exchange := environment.getRabbitmqExchange
      queue := environment.getRabbitmqQueue
      retryExchange := environment.getRabbitmqRetryExchange
      retryQueue := environment.getRabbitmqRetryQueue
      deadLetterExchange := environment.getRabbitmqDeadLetterExchange
      deadLetterQueue := environment.getRabbitmqDeadLetterQueue
      retryDelayMs := retryDelayMs
      maxAttempts := maxAttempts }

/-- It has the names of the environment. -/
theorem ofEnvironment_names {environment : Environment} {consumer : IngestionSettings}
    (built : ofEnvironment environment = .ok consumer) :
    consumer.exchange = environment.getRabbitmqExchange ∧
      consumer.retryExchange = environment.getRabbitmqRetryExchange ∧
      consumer.deadLetterExchange = environment.getRabbitmqDeadLetterExchange ∧
      consumer.queue = environment.getRabbitmqQueue ∧
      consumer.retryQueue = environment.getRabbitmqRetryQueue ∧
      consumer.deadLetterQueue = environment.getRabbitmqDeadLetterQueue := by
  simp only [ofEnvironment, bind, Except.bind] at built
  split at built
  · cases built
  split at built
  · cases built
  cases built
  exact ⟨rfl, rfl, rfl, rfl, rfl, rfl⟩

/-- `declare_topology`, call by call. -/
def declareTopology (consumer : IngestionSettings) : List Declaration :=
  [.exchangeDeclare consumer.exchange,
    .exchangeDeclare consumer.retryExchange,
    .exchangeDeclare consumer.deadLetterExchange,
    .queueDeclare consumer.queue {},
    .queueBind consumer.queue consumer.exchange eventReceivedRoutingKey,
    .queueDeclare consumer.retryQueue
      { messageTtl := some consumer.retryDelayMs
        deadLetterExchange := some consumer.exchange
        deadLetterRoutingKey := some eventReceivedRoutingKey },
    .queueBind consumer.retryQueue consumer.retryExchange retryRoutingKey,
    .queueDeclare consumer.deadLetterQueue {},
    .queueBind consumer.deadLetterQueue consumer.deadLetterExchange deadLetterRoutingKey]

end IngestionSettings

/-- The publisher that the relay's `main` builds. -/
def OutboxSettings.publisher (settings : OutboxSettings) :
    Outbox.RabbitMQRecordedEventPublisher where
  exchange := settings.exchange
  queue := settings.queue

namespace Outbox

/-- The declaration that a call of an attempt makes. -/
def PikaOp.declaration : PikaOp → Option Declaration
  | .exchangeDeclare exchange "topic" true => some (.exchangeDeclare exchange)
  | .queueDeclare queue true => some (.queueDeclare queue {})
  | .queueBind queue exchange routingKey => some (.queueBind queue exchange routingKey)
  | _ => none

/-- The declarations of an attempt, from `on_channel` to `on_queue`. -/
def RabbitMQRecordedEventPublisher.declareTopology
    (publisher : RabbitMQRecordedEventPublisher) : List Declaration :=
  [.exchangeDeclare publisher.exchange, .queueDeclare publisher.queue {},
    .queueBind publisher.queue publisher.exchange eventRecordedRoutingKey]

/-! ## What an attempt asks of the broker -/

variable {publisher : RabbitMQRecordedEventPublisher} {message : RecordedEventMessage}

/-- The properties of the publication. -/
abbrev outboundProperties (message : RecordedEventMessage) : BasicProperties :=
  { contentType := some "application/json"
    deliveryMode := some 2
    messageId := some message.messageId.str
    correlationId := Consumer.orElse message.correlationId (some message.messageId.str)
    type := some eventRecordedRoutingKey }

/-- The calls of an attempt to publish a message. -/
inductive Asks (publisher : RabbitMQRecordedEventPublisher) (message : RecordedEventMessage) :
    PikaOp → Prop where
  /-- One of its declarations. -/
  | declares {op : PikaOp} {declaration : Declaration}
      (declared : op.declaration = some declaration)
      (member : declaration ∈ publisher.declareTopology) : Asks publisher message op
  /-- The publication of `on_confirm_mode`. -/
  | publishes :
      Asks publisher message
        (.basicPublish publisher.exchange eventRecordedRoutingKey message.body true
          (outboundProperties message))
  /-- A call that neither declares nor publishes. -/
  | manages {op : PikaOp} (undeclared : op.declaration = none)
      (unpublished : ∀ exchange routingKey body mandatory properties,
        op ≠ .basicPublish exchange routingKey body mandatory properties) :
      Asks publisher message op

section Confinement

theorem confined_manages {op : PikaOp} (undeclared : op.declaration = none)
    (unpublished : ∀ exchange routingKey body mandatory properties,
      op ≠ .basicPublish exchange routingKey body mandatory properties) :
    Confined (Asks publisher message) (call op) :=
  confined_call (.manages undeclared unpublished)

theorem confined_declares {op : PikaOp} {declaration : Declaration}
    (declared : op.declaration = some declaration)
    (member : declaration ∈ publisher.declareTopology) :
    Confined (Asks publisher message) (call op) :=
  confined_call (.declares declared member)

theorem channel_confined : Confined (Asks publisher message) channel :=
  confined_read.bind fun _ => .ite confined_pure confined_raise

theorem abort_confined : Confined (Asks publisher message) abort :=
  (confined_manages rfl (by simp)).bind fun _ =>
    .ite confined_pure (confined_manages rfl (by simp))

/-- Each callback makes its own declaration, publishes the message, or does neither. -/
theorem deliver_confined (callback : Callback) :
    Confined (Asks publisher message) (callback.deliver publisher message) := by
  cases callback with
  | onOpen => exact confined_manages rfl (by simp)
  | onChannel =>
      refine confined_modify.bind fun _ => ?_
      refine (confined_manages rfl (by simp)).bind fun _ => ?_
      refine (confined_manages rfl (by simp)).bind fun _ => ?_
      exact confined_declares rfl (by simp [RabbitMQRecordedEventPublisher.declareTopology])
  | onExchange =>
      refine channel_confined.bind fun _ => ?_
      exact confined_declares rfl (by simp [RabbitMQRecordedEventPublisher.declareTopology])
  | onQueue =>
      refine channel_confined.bind fun _ => ?_
      exact confined_declares rfl (by simp [RabbitMQRecordedEventPublisher.declareTopology])
  | onBound => exact channel_confined.bind fun _ => confined_manages rfl (by simp)
  | onConfirmMode => exact channel_confined.bind fun _ => confined_call .publishes
  | onReturned => exact confined_modify
  | onConfirmation method =>
      exact confined_modify.bind fun _ => confined_manages rfl (by simp)
  | onChannelClosed reason =>
      refine confined_modify.bind fun _ => ?_
      refine (confined_manages rfl (by simp)).bind fun _ => ?_
      exact .ite (confined_manages rfl (by simp)) confined_pure
  | onDeadline => exact confined_modify.bind fun _ => abort_confined
  | onClosed reason =>
      refine confined_modify.bind fun _ => ?_
      exact (confined_manages rfl (by simp)).bind fun _ => confined_modify

theorem start_confined (callbacks : List Callback) :
    Confined (Asks publisher message) (start publisher message callbacks) := by
  induction callbacks with
  | nil => exact confined_pure
  | cons callback callbacks inductionHypothesis =>
      refine confined_modify.bind fun _ => ?_
      refine (deliver_confined callback).bind fun _ => ?_
      exact confined_read.bind fun _ => .ite confined_pure inductionHypothesis

/-- Run lemma: whatever is delivered, and wherever the attempt breaks off, it makes no other
call. -/
theorem run_confined (callbacks : List Callback) :
    Confined (Asks publisher message) (run publisher message callbacks) := by
  have closing : Confined (Asks publisher message) (call .closeLoop) :=
    confined_manages rfl (by simp)
  have shutting : Confined (Asks publisher message) (shutdown publisher message) := by
    refine (confined_manages rfl (by simp)).bind fun closed => ?_
    refine .ite closing ?_
    refine abort_confined.bind fun _ => confined_read.bind fun publication => ?_
    exact (start_confined publication.pending).bind fun _ => closing
  refine (confined_manages rfl (by simp)).bind fun _ => ?_
  refine ((start_confined callbacks).onExit shutting).bind fun _ => ?_
  refine confined_read.bind fun publication => ?_
  cases publication.error with
  | some error => exact confined_raise
  | none => exact .ite confined_pure confined_raise

end Confinement

end Outbox

end Freight
