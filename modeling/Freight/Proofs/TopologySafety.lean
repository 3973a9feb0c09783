/-
Module: Freight.Proofs.TopologySafety
Purpose: Where messages go: every publication of the code reaches the one queue that it is
  meant for, whatever names the operator has chosen.
Trusted boundary: none
Main exports:
  RabbitMQRecordedEventPublisher.Calls, Asks.expected, IngestionSettings.queueAt,
  Installation, Installation.receives_iff, topology_never_feeds_back
-/
import Freight.Messaging.Topology

namespace Freight

open Interaction (Program)
open Interaction.Computation

/-! ## Declarations and publications of attempts -/

namespace Outbox

variable {publisher : RabbitMQRecordedEventPublisher} {message : RecordedEventMessage}

/-- Some attempt to publish, with some callbacks, makes this call. -/
def RabbitMQRecordedEventPublisher.Calls (publisher : RabbitMQRecordedEventPublisher)
    (op : PikaOp) : Prop :=
  ∃ message callbacks transcript outcome,
    (run publisher message callbacks {}).Converses transcript outcome ∧
      ∃ exchange ∈ transcript, exchange.1 = op

/-- A call that makes one of the three declarations, publishes the message, or does neither. -/
def Expected (publisher : RabbitMQRecordedEventPublisher) (op : PikaOp) : Prop :=
  (∀ declaration, op.declaration = some declaration →
      declaration ∈ publisher.declareTopology) ∧
    ∀ exchange routingKey body mandatory properties,
      op = .basicPublish exchange routingKey body mandatory properties →
        exchange = publisher.exchange ∧ routingKey = eventRecordedRoutingKey

theorem Asks.expected {op : PikaOp} (asks : Asks publisher message op) :
    Expected publisher op := by
  cases asks with
  | @declares _ declaration declared member =>
      constructor
      · intro other same
        cases declared.symm.trans same
        exact member
      · intro exchange routingKey body mandatory properties same
        subst same
        cases declared
  | publishes =>
      constructor
      · intro declaration declared
        cases declared
      · intro exchange routingKey body mandatory properties same
        cases same
        exact ⟨rfl, rfl⟩
  | manages undeclared unpublished =>
      constructor
      · intro declaration declared
        rw [undeclared] at declared
        cases declared
      · intro exchange routingKey body mandatory properties same
        exact absurd same (unpublished _ _ _ _ _)

/-- Whatever an attempt calls is expected of it. -/
theorem RabbitMQRecordedEventPublisher.Calls.expected {op : PikaOp}
    (called : publisher.Calls op) : Expected publisher op := by
  obtain ⟨message, callbacks, transcript, outcome, conversed, exchange, member, rfl⟩ := called
  exact ((run_confined callbacks {}).exchanges conversed exchange member).expected

/-- A connection that does what it is asked. -/
def obliging (_ : Nat) : (op : PikaOp) → Except PyError op.Reply
  | .isClosed => .ok true
  | .isOpen => .ok false
  | .callLater | .channel | .addOnCloseCallback | .addOnReturnCallback
  | .exchangeDeclare _ _ _ | .queueDeclare _ _ | .queueBind _ _ _ | .confirmDelivery
  | .basicPublish _ _ _ _ _ | .close | .terminateStream _ | .stop | .closeLoop => .ok ()

/-- The declarations that attempts make are the three of `on_channel`, `on_exchange` and
`on_queue`. -/
theorem RabbitMQRecordedEventPublisher.declares_iff {declaration : Declaration} :
    (∃ op, publisher.Calls op ∧ op.declaration = some declaration) ↔
      declaration ∈ publisher.declareTopology := by
  constructor
  · intro declared
    obtain ⟨op, called, declares⟩ := declared
    exact called.expected.1 declaration declares
  · intro member
    let message : RecordedEventMessage :=
      { messageId := ⟨0⟩, eventId := ⟨0⟩, shipmentId := ⟨0⟩, body := .null,
        correlationId := none }
    have called (callbacks : List Callback) :=
      Program.converses_transcribe obliging (run publisher message callbacks {}) 0
    simp only [declareTopology, List.mem_cons, List.not_mem_nil, or_false] at member
    rcases member with rfl | rfl | rfl
    · exact ⟨.exchangeDeclare publisher.exchange "topic" true,
        ⟨_, _, _, _, called [.onChannel], ⟨_, .ok ()⟩,
          .tail _ (.tail _ (.tail _ (.head _))), rfl⟩, rfl⟩
    · exact ⟨.queueDeclare publisher.queue true,
        ⟨_, _, _, _, called [.onChannel, .onExchange], ⟨_, .ok ()⟩,
          .tail _ (.tail _ (.tail _ (.tail _ (.head _)))), rfl⟩, rfl⟩
    · exact ⟨.queueBind publisher.queue publisher.exchange eventRecordedRoutingKey,
        ⟨_, _, _, _, called [.onChannel, .onQueue], ⟨_, .ok ()⟩,
          .tail _ (.tail _ (.tail _ (.tail _ (.head _)))), rfl⟩, rfl⟩

end Outbox

/-! ## An installation -/

/-- The queue that stands for a place. -/
def IngestionSettings.queueAt (consumer : IngestionSettings) : Place → String
  | .main => consumer.queue
  | .retry => consumer.retryQueue
  | .deadLetter => consumer.deadLetterQueue

/-- A topology that comes from declarations of the consumer and of attempts to publish, in
any order and any number, after the consumer and one attempt have made all of theirs. -/
structure Installation (consumer : IngestionSettings) (settings : OutboxSettings)
    (log : List Declaration) (topology : Topology) : Prop where
  accepted : Topology.after log {} = some topology
  made : ∀ declaration ∈ log, declaration ∈ consumer.declareTopology ∨
    ∃ op, settings.publisher.Calls op ∧ op.declaration = some declaration
  ready : ∀ declaration ∈ consumer.declareTopology ++ settings.publisher.declareTopology,
    declaration ∈ log

namespace Installation

variable {consumer : IngestionSettings} {settings : OutboxSettings} {log : List Declaration}
  {topology : Topology} {exchange routingKey queue : String}

/-- The bindings are the three of the consumer and that of the publisher. -/
theorem queueBind_mem_iff (installation : Installation consumer settings log topology) :
    .queueBind queue exchange routingKey ∈ log ↔
      (∃ place ∈ route consumer.toRabbitMQShipmentEventConsumer exchange routingKey,
          consumer.queueAt place = queue) ∨
        (exchange = settings.exchange ∧ routingKey = eventRecordedRoutingKey ∧
          queue = settings.queue) := by
  have inbound : .queueBind queue exchange routingKey ∈ consumer.declareTopology ↔
      ∃ place ∈ route consumer.toRabbitMQShipmentEventConsumer exchange routingKey,
        consumer.queueAt place = queue := by
    simp only [IngestionSettings.declareTopology, List.mem_cons, reduceCtorEq, List.not_mem_nil,
      or_false, false_or, Declaration.queueBind.injEq, route, List.mem_filterMap,
      Option.ite_none_right_eq_some, Option.some.injEq, exists_eq_or_imp, exists_eq_left,
      IngestionSettings.queueAt]
    grind
  have outbound : .queueBind queue exchange routingKey ∈ settings.publisher.declareTopology ↔
      exchange = settings.exchange ∧ routingKey = eventRecordedRoutingKey ∧
        queue = settings.queue := by
    simp only [Outbox.RabbitMQRecordedEventPublisher.declareTopology,
      OutboxSettings.publisher, List.mem_cons, reduceCtorEq, List.not_mem_nil, or_false,
      false_or, Declaration.queueBind.injEq]
    exact ⟨fun same => ⟨same.2.1, same.2.2, same.1⟩, fun same => ⟨same.2.2, same.1, same.2.1⟩⟩
  rw [← inbound, ← outbound]
  constructor
  · intro member
    rcases installation.made _ member with own | declared
    · exact .inl own
    · exact .inr (Outbox.RabbitMQRecordedEventPublisher.declares_iff.mp declared)
  · intro member
    exact installation.ready _ (List.mem_append.mpr member)

/-- Where a message goes that is published to a named exchange. -/
theorem receives_iff (installation : Installation consumer settings log topology)
    (named : exchange ≠ "") :
    topology.Receives exchange routingKey queue ↔
      (∃ place ∈ route consumer.toRabbitMQShipmentEventConsumer exchange routingKey,
          consumer.queueAt place = queue) ∨
        (exchange = settings.exchange ∧ routingKey = eventRecordedRoutingKey ∧
          queue = settings.queue) := by
  rw [Topology.Receives, if_neg named, Topology.mem_bindings_after installation.accepted,
    ← installation.queueBind_mem_iff]
  simp

/-- A publication on an ingestion exchange whose key has one place reaches its queue only. -/
theorem receives_place (installation : Installation consumer settings log topology)
    (named : exchange ≠ "") {place : Place}
    (routed : route consumer.toRabbitMQShipmentEventConsumer exchange routingKey = [place])
    (inbound : routingKey ≠ eventRecordedRoutingKey) :
    topology.Receives exchange routingKey queue ↔ queue = consumer.queueAt place := by
  rw [installation.receives_iff named, routed]
  simp only [List.mem_singleton, exists_eq_left, inbound, false_and, and_false, or_false]
  exact eq_comm

end Installation

theorem route_received (consumer : RabbitMQShipmentEventConsumer) :
    route consumer consumer.exchange eventReceivedRoutingKey = [.main] := by
  have first : retryRoutingKey ≠ eventReceivedRoutingKey := by decide
  have last : deadLetterRoutingKey ≠ eventReceivedRoutingKey := by decide
  simp [route, first, last]

theorem route_recorded (consumer : RabbitMQShipmentEventConsumer) (exchange : String) :
    route consumer exchange eventRecordedRoutingKey = [] := by
  have first : eventReceivedRoutingKey ≠ eventRecordedRoutingKey := by decide
  have second : retryRoutingKey ≠ eventRecordedRoutingKey := by decide
  have last : deadLetterRoutingKey ≠ eventRecordedRoutingKey := by decide
  simp [route, first, second, last]

/-- In every accepted environment with named ingestion exchanges and three different ingestion
queues, there are four different queues: a publication of the relay reaches the outbox queue
only, a received event and a message that expires in the retry queue the main queue only,
and a failed message the retry queue only or the dead-letter queue only. -/
theorem topology_never_feeds_back (float : String → Option Double) (environment : Environment)
    (settings : OutboxSettings) (accepted : getOutboxSettings float environment = .ok settings)
    (consumer : IngestionSettings)
    (built : IngestionSettings.ofEnvironment environment = .ok consumer)
    (named : environment.getRabbitmqExchange ≠ "" ∧
      environment.getRabbitmqRetryExchange ≠ "" ∧
      environment.getRabbitmqDeadLetterExchange ≠ "")
    (distinct : [environment.getRabbitmqQueue, environment.getRabbitmqRetryQueue,
      environment.getRabbitmqDeadLetterQueue].Nodup)
    (log : List Declaration) (topology : Topology)
    (installation : Installation consumer settings log topology) :
    [consumer.queue, consumer.retryQueue, consumer.deadLetterQueue, settings.queue].Nodup ∧
      (∀ exchange routingKey body mandatory properties,
        settings.publisher.Calls
            (.basicPublish exchange routingKey body mandatory properties) →
          ∀ queue, topology.Receives exchange routingKey queue ↔ queue = settings.queue) ∧
      (∀ queue, topology.Receives consumer.exchange eventReceivedRoutingKey queue ↔
        queue = consumer.queue) ∧
      (∀ routingKey queue, topology.Expires routingKey consumer.retryQueue queue ↔
        queue = consumer.queue) ∧
      ∀ properties headers body attemptCount now error queue,
        let failed := Consumer.republication consumer.toRabbitMQShipmentEventConsumer properties
          headers body attemptCount now error
        topology.Receives failed.exchange failed.routingKey queue ↔
          queue = if classify error = .retry ∧ attemptCount < consumer.maxAttempts then
            consumer.retryQueue else consumer.deadLetterQueue := by
  obtain ⟨outbound, -, -, separate⟩ := getOutboxSettings_separate accepted
  obtain ⟨exchange, retryExchange, deadLetterExchange, queue, retryQueue, deadLetterQueue⟩ :=
    IngestionSettings.ofEnvironment_names built
  rw [← exchange, ← retryExchange, ← deadLetterExchange] at named
  rw [← queue, ← retryQueue, ← deadLetterQueue] at distinct separate
  have received : ∀ queue, topology.Receives consumer.exchange eventReceivedRoutingKey queue ↔
      queue = consumer.queue := fun queue =>
    installation.receives_place named.1 (route_received _) (by decide)
  refine ⟨?_, ?_, received, ?_, ?_⟩
  · rw [show [consumer.queue, consumer.retryQueue, consumer.deadLetterQueue, settings.queue] =
      [consumer.queue, consumer.retryQueue, consumer.deadLetterQueue] ++ [settings.queue] from
      rfl, List.nodup_append]
    refine ⟨distinct, List.nodup_singleton _, ?_⟩
    intro own member other single same
    cases List.mem_singleton.mp single
    exact separate (same ▸ member)
  · intro exchange routingKey body mandatory properties called queue
    obtain ⟨rfl, rfl⟩ := called.expected.2 _ _ _ _ _ rfl
    refine (installation.receives_iff outbound).trans ?_
    rw [route_recorded]
    simp
  · intro routingKey queue
    have retries : topology.queues.lookup consumer.retryQueue =
        some { messageTtl := some consumer.retryDelayMs
               deadLetterExchange := some consumer.exchange
               deadLetterRoutingKey := some eventReceivedRoutingKey } :=
      Topology.lookup_after installation.accepted (installation.ready _
        (List.mem_append_left _ (by simp [IngestionSettings.declareTopology])))
    constructor
    · intro expired
      obtain ⟨arguments, target, declared, deadLetters, receives⟩ := expired
      cases retries.symm.trans declared
      cases deadLetters
      exact (received queue).mp receives
    · intro main
      exact ⟨_, _, retries, rfl, (received queue).mpr main⟩
  · intro properties headers body attemptCount now error queue
    by_cases again : classify error = .retry ∧ attemptCount < consumer.maxAttempts
    · simp only [Consumer.republication, if_pos again]
      exact installation.receives_place named.2.1 (route_retry _) (by decide)
    · simp only [Consumer.republication, if_neg again]
      exact installation.receives_place named.2.2 (route_deadLetter _) (by decide)

/-- One exchange for all ingestion messages, and the defaults for the rest. -/
def sharedExchange : Environment := fun name =>
  if name ∈ ["RABBITMQ_EXCHANGE", "RABBITMQ_RETRY_EXCHANGE", "RABBITMQ_DEAD_LETTER_EXCHANGE"]
  then some "freight" else none

/-- `float` of the default settings. -/
def readDefault (text : String) : Option Double :=
  if text = "1" then some (.finite false 1 0)
  else if text = "5" then some (.finite false 5 0)
  else if text = "10" then some (.finite false 10 0)
  else none

/-- There, an event that is received reaches the main queue only. -/
theorem shared_exchange_routes :
    ∃ topology : Topology, (∀ queue,
        topology.Receives "freight" eventReceivedRoutingKey queue ↔
          queue = "freight.shipment-event-ingestion") ∧
      ∀ queue, topology.Receives "freight.shipment-notifications" eventRecordedRoutingKey queue ↔
        queue = "freight.shipment-event-notifications" := by
  let settings : OutboxSettings :=
    { exchange := "freight.shipment-notifications"
      queue := "freight.shipment-event-notifications"
      pollSeconds := .finite false 1 0
      retrySeconds := .finite false 5 0
      publishTimeoutSeconds := .finite false 10 0 }
  let consumer : IngestionSettings :=
    { exchange := "freight"
      queue := "freight.shipment-event-ingestion"
      retryExchange := "freight"
      retryQueue := "freight.shipment-event-retry"
      deadLetterExchange := "freight"
      deadLetterQueue := "freight.shipment-event-dlq"
      retryDelayMs := 5000
      maxAttempts := 3 }
  have accepted : getOutboxSettings readDefault sharedExchange = .ok settings := by
    decide +kernel
  have built : IngestionSettings.ofEnvironment sharedExchange = .ok consumer := by
    decide +kernel
  have declares : (Topology.after (consumer.declareTopology ++
      settings.publisher.declareTopology) {}).isSome = true := by
    decide +kernel
  obtain ⟨topology, ran⟩ := Option.isSome_iff_exists.mp declares
  have installation : Installation consumer settings
      (consumer.declareTopology ++ settings.publisher.declareTopology) topology := by
    refine ⟨ran, ?_, fun _ member => member⟩
    intro declaration member
    rcases List.mem_append.mp member with own | theirs
    · exact .inl own
    · exact .inr (Outbox.RabbitMQRecordedEventPublisher.declares_iff.mpr theirs)
  obtain ⟨-, recorded, received, -⟩ := topology_never_feeds_back readDefault sharedExchange
    settings accepted consumer built (by decide +kernel) (by decide +kernel) _ topology
    installation
  refine ⟨topology, received, ?_⟩
  have called := Program.converses_transcribe Outbox.obliging
    (Outbox.run settings.publisher
      { messageId := ⟨0⟩, eventId := ⟨0⟩, shipmentId := ⟨0⟩, body := .null }
      [.onChannel, .onConfirmMode] {}) 0
  exact recorded _ _ _ _ _ ⟨_, _, _, _, called, ⟨_, .ok ()⟩,
    .tail _ (.tail _ (.tail _ (.tail _ (.head _)))), rfl⟩

end Freight
