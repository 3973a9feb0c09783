/-
Module: Freight.Messaging.Ingestion
Purpose: The ingestion as it is deployed: deliveries, producers, the broker's timers and
  any other requests, interleaved over one broker and one store, each of which may be
  killed between two operations.
Trusted boundary: none
Main exports:
  Operation, Resolution, Deployment, Deployment.perform, channelMeaning, Role, ingestion,
  IngestionState
-/
import Freight.Application.EntryPoints
import Freight.Interaction.Interpretation
import Freight.Messaging.Broker

namespace Freight

open Interaction (ProcessId Computation)
open Interaction.Computation (translate withState)

/-! ## Operations -/

/-- What a process of the deployment does: a statement of its database session, an
operation on its channel, or, for a producer and the broker's timer, a message that comes
or returns to the main queue.  `called` and `returned` frame the consumer's callable. -/
inductive Operation where
  | statement (op : Statement)
  | nextDelivery
  | called (correlationId : String) (event : ShipmentEvent)
  | returned
  | basicPublish (republication : Consumer.Republication)
  | basicAck (deliveryTag : Nat)
  | now
  | uuid4
  | send (message : Message)
  | expire

abbrev Operation.Reply : Operation → Type
  | .statement op => Freight.Reply op
  | .nextDelivery => Unacked
  | .now => DateTime
  | .uuid4 => UUID
  | _ => Unit

/-- How the environment resolves what an operation leaves open.  A call of the channel
that raises may have reached the broker nevertheless. -/
inductive Resolution where
  | statement (choice : Choice)
  | delivers (index deliveryTag : Nat)
  | returns
  | raises (error : PyError) (effective : Bool)
  | time (value : DateTime)
  | uuid (id : UUID)
  | expires (index : Nat) (properties : BasicProperties)

/-- The store and the broker. -/
structure Deployment where
  store : World := {}
  broker : Broker := {}

namespace Deployment

variable (server : Server) (consumer : RabbitMQShipmentEventConsumer) (process : ProcessId)

/-- What an operation of a process does; `none` when a resolution does not fit. -/
def perform : (op : Operation) → Resolution → Deployment →
    Option (Except PyError op.Reply × Deployment)
  | .statement op, .statement choice, world =>
      (server.perform process op choice world.store).map fun result =>
        (result.1, { world with store := result.2 })
  | .nextDelivery, .delivers index deliveryTag, world =>
      (world.broker.deliver process index deliveryTag).map fun result =>
        (.ok result.1, { world with broker := result.2 })
  | .called correlationId event, .returns, world =>
      some (.ok (), { world with
        broker := world.broker.note process (.called correlationId event) })
  | .returned, .returns, world =>
      some (.ok (), { world with broker := world.broker.note process .returned })
  | .basicPublish republication, .returns, world =>
      (world.broker.republish consumer process republication).map fun broker =>
        (.ok (), { world with broker := broker.note process (.published republication) })
  | .basicPublish republication, .raises error effective, world =>
      if effective then
        (world.broker.republish consumer process republication).map fun broker =>
          (.error error, { world with broker := broker })
      else some (.error error, world)
  | .basicAck deliveryTag, .returns, world =>
      some (.ok (), { world with
        broker := (world.broker.acknowledge process deliveryTag).note process
          (.acknowledged deliveryTag) })
  | .basicAck deliveryTag, .raises error effective, world =>
      let broker :=
        if effective then world.broker.acknowledge process deliveryTag else world.broker
      some (.error error, { world with
        broker := broker.note process (.acknowledged deliveryTag) })
  | .now, .time value, world => some (.ok value, world)
  | .uuid4, .uuid id, world => some (.ok id, world)
  | .send message, .returns, world =>
      some (.ok (), { world with broker := world.broker.enter message })
  | .expire, .expires index properties, world =>
      (world.broker.expire index properties).map fun broker =>
        (.ok (), { world with broker := broker })
  | _, _, _ => none

/-- A process is gone: the server discards its transaction, and the broker takes its
deliveries back. -/
def crash (world : Deployment) : Deployment where
  store := world.store.discard process
  broker := world.broker.requeue process

end Deployment

/-! ## The code of the worker -/

/-- Code of a process of the deployment. -/
abbrev Ingesting (σ α : Type) : Type := Computation Operation Operation.Reply PyError σ α

def operate (op : Operation) : Ingesting Unit op.Reply := Computation.call op

/-- A statement goes to the store. -/
def statementMeaning (op : Statement) : Ingesting Unit (Reply op) :=
  operate (.statement op)

/-- Code that runs in a session of its own. -/
def inSession {α : Type} (body : Py α) : Ingesting Unit α :=
  withState {} (translate statementMeaning body)

/-- What the consumer's operations mean in the worker, whose callable is `handle_event`
in the context of the correlation id. -/
def channelMeaning : (op : ChannelOp) → Ingesting Unit op.Reply
  | .handleEvent correlationId event => do
      operate (.called correlationId event)
      inSession (handleEvent (some correlationId) event)
      operate .returned
  | .basicPublish exchange routingKey message =>
      operate (.basicPublish { exchange, routingKey, message })
  | .basicAck deliveryTag => operate (.basicAck deliveryTag)
  | .now => operate .now
  | .uuid4 => operate .uuid4

/-- One delivery: the broker hands it over, and `on_message_callback` processes it. -/
def consumeOne (consumer : RabbitMQShipmentEventConsumer) (decoders : Decoders) :
    Ingesting Unit Unit := do
  let delivery : Unacked ← operate .nextDelivery
  translate channelMeaning
    (Consumer.processDelivery consumer decoders delivery.deliveryTag
      delivery.letter.message.body (some delivery.letter.message.properties))

/-! ## The system -/

/-- What a process of the deployment is: a delivery of a consumer, a producer's message,
the return of an expired message, or another request to the store. -/
inductive Role where
  | delivery
  | producer (message : Message)
  | timer
  | request (request : Request)

/-- The code of a role. -/
def Role.code (consumer : RabbitMQShipmentEventConsumer) (decoders : Decoders) :
    Role → Ingesting Unit Unit
  | .delivery => consumeOne consumer decoders
  | .producer message => operate (.send message)
  | .timer => operate .expire
  | .request other => inSession other.code

/-- Any number of processes over one broker and one store.  A consumer has one delivery at
a time, so that its crash is the crash of the delivery that it has. -/
def ingestion (server : Server) (consumer : RabbitMQShipmentEventConsumer)
    (decoders : Decoders) (roles : ProcessId → Role) :
    Interaction.System Operation (fun op => Except PyError op.Reply) Deployment Resolution
      (Except PyError Unit × Unit) where
  act := Deployment.perform server consumer
  crash := Deployment.crash
  program := fun process => (roles process).code consumer decoders ()

/-- A state of the deployment. -/
abbrev IngestionState : Type :=
  Interaction.System.State Operation (fun op => Except PyError op.Reply) Deployment
    (Except PyError Unit × Unit)

end Freight
