/-
Module: Freight.Messaging.Outbox
Purpose: One attempt of the outbound publisher: the callbacks of its connection,
  and the loop that delivers them.
Trusted boundary: none
Main exports:
  PikaOp, Callback, Publication, Callback.deliver, start, run, Pika,
  RabbitMQRecordedEventPublisher.publish
-/
import Freight.Application.RecordedEventMessage
import Freight.Interaction.Interpretation
import Freight.Messaging.Consumer

namespace Freight.Outbox

open Interaction (Computation)
open Interaction.Computation (raise read modify onExit)

/-! ## The connection -/

/-- What an attempt asks of its connection, its channel and its loop. -/
inductive PikaOp where
  | callLater
  | channel
  | addOnCloseCallback
  | addOnReturnCallback
  | exchangeDeclare (exchange exchangeType : String) (durable : Bool)
  | queueDeclare (queue : String) (durable : Bool)
  | queueBind (queue exchange routingKey : String)
  | confirmDelivery
  | basicPublish (exchange routingKey : String) (body : Json) (mandatory : Bool)
      (properties : BasicProperties)
  | isOpen
  | isClosed
  | close
  | terminateStream (error : PyError)
  | stop
  | closeLoop

abbrev PikaOp.Reply : PikaOp → Type
  | .isOpen | .isClosed => Bool
  | _ => Unit

/-- The method of a confirmation frame. -/
inductive Confirmation where
  | ack
  | nack
deriving DecidableEq, Repr

/-- A callback of the attempt, with what it reads of its arguments. -/
inductive Callback where
  | onOpen
  | onChannel
  | onExchange
  | onQueue
  | onBound
  | onConfirmMode
  | onReturned
  | onConfirmation (method : Confirmation)
  | onChannelClosed (reason : PyError)
  | onDeadline
  | onClosed (reason : PyError)
deriving DecidableEq, Repr

/-- The fields of `_Publication` that change, and its loop: the callbacks still
to come, and whether it has been stopped. -/
structure Publication where
  error : Option PyError := none
  confirmed : Bool := false
  channel : Bool := false
  pending : List Callback := []
  stopped : Bool := false

/-- `RabbitMQRecordedEventPublisher`. -/
structure RabbitMQRecordedEventPublisher where
  exchange : String
  queue : String

/-- The code of an attempt. -/
abbrev Publishing (α : Type) : Type :=
  Computation PikaOp PikaOp.Reply PyError Publication α

def call (op : PikaOp) : Publishing op.Reply := Computation.call op

/-- `_DeadlineConnection.abort`. -/
def abort : Publishing Unit := do
  if ← call .isClosed then pure ()
  else call (.terminateStream (.exception "TimeoutError" "Outbound publication deadline"))

/-! ## Callbacks -/

/-- The assignment that three callbacks guard alike: the first reason of a
failure stays, and none counts once the message is confirmed. -/
def Publication.fail (reason : PyError) (publication : Publication) : Publication :=
  if !publication.confirmed && publication.error.isNone then
    { publication with error := some reason }
  else publication

def onDeadline : Publishing Unit := do
  modify (Publication.fail (.exception "TimeoutError" "Outbound publication deadline"))
  abort

def onOpen : Publishing Unit := call .channel

/-- `self.channel`, an attribute that only `on_channel` sets. -/
def channel : Publishing Unit := do
  if (← read).channel then pure ()
  else
    raise (.exception "AttributeError" "'_Publication' object has no attribute 'channel'")

def onChannel (publisher : RabbitMQRecordedEventPublisher) : Publishing Unit := do
  modify fun publication => { publication with channel := true }
  call .addOnCloseCallback
  call .addOnReturnCallback
  call (.exchangeDeclare publisher.exchange "topic" true)

def onExchange (publisher : RabbitMQRecordedEventPublisher) : Publishing Unit := do
  channel
  call (.queueDeclare publisher.queue true)

def onQueue (publisher : RabbitMQRecordedEventPublisher) : Publishing Unit := do
  channel
  call (.queueBind publisher.queue publisher.exchange eventRecordedRoutingKey)

def onBound : Publishing Unit := do
  channel
  call .confirmDelivery

def onConfirmMode (publisher : RabbitMQRecordedEventPublisher)
    (message : RecordedEventMessage) : Publishing Unit := do
  channel
  call (.basicPublish publisher.exchange eventRecordedRoutingKey message.body true
    { contentType := some "application/json"
      deliveryMode := some 2
      messageId := some message.messageId.str
      correlationId := Consumer.orElse message.correlationId (some message.messageId.str)
      type := some eventRecordedRoutingKey })

def onReturned : Publishing Unit :=
  modify fun publication =>
    { publication with
      error := some (.exception "UnroutableError" "0 unroutable message(s) returned") }

def onConfirmation (method : Confirmation) : Publishing Unit := do
  modify fun publication =>
    if method = .ack && publication.error.isNone then
      { publication with confirmed := true }
    else if publication.error.isNone then
      { publication with error := some (.exception "NackError" "0 message(s) NACKed") }
    else publication
  call .close

def onChannelClosed (reason : PyError) : Publishing Unit := do
  modify (Publication.fail reason)
  if ← call .isOpen then call .close else pure ()

def onClosed (reason : PyError) : Publishing Unit := do
  modify (Publication.fail reason)
  call .stop
  modify fun publication => { publication with stopped := true }

namespace Callback

def deliver (publisher : RabbitMQRecordedEventPublisher) (message : RecordedEventMessage) :
    Callback → Publishing Unit
  | .onOpen => Outbox.onOpen
  | .onChannel => Outbox.onChannel publisher
  | .onExchange => Outbox.onExchange publisher
  | .onQueue => Outbox.onQueue publisher
  | .onBound => Outbox.onBound
  | .onConfirmMode => Outbox.onConfirmMode publisher message
  | .onReturned => Outbox.onReturned
  | .onConfirmation method => Outbox.onConfirmation method
  | .onChannelClosed reason => Outbox.onChannelClosed reason
  | .onDeadline => Outbox.onDeadline
  | .onClosed reason => Outbox.onClosed reason

end Callback

/-! ## The loop -/

/-- `loop.start()`: callbacks are delivered until one of them stops the loop; one
that raises leaves the others pending. -/
def start (publisher : RabbitMQRecordedEventPublisher) (message : RecordedEventMessage) :
    List Callback → Publishing Unit
  | [] => pure ()
  | callback :: callbacks => do
      modify fun publication =>
        { publication with pending := callbacks, stopped := false }
      callback.deliver publisher message
      if (← read).stopped then pure () else start publisher message callbacks

/-- The `finally` clause of `run`. -/
def shutdown (publisher : RabbitMQRecordedEventPublisher) (message : RecordedEventMessage) :
    Publishing Unit := do
  if ← call .isClosed then pure ()
  else do
    abort
    start publisher message (← read).pending
  call .closeLoop

def run (publisher : RabbitMQRecordedEventPublisher) (message : RecordedEventMessage)
    (callbacks : List Callback) : Publishing Unit := do
  call .callLater
  onExit (start publisher message callbacks) (shutdown publisher message)
  let publication ← read
  match publication.error with
  | some error => raise error
  | none =>
      if publication.confirmed then pure ()
      else raise (.exception "RuntimeError" "Publication ended without confirmation")

/-- How a library answers the calls of an attempt. -/
abbrev Pika (World : Type) : Type :=
  (op : PikaOp) → World → Except PyError op.Reply × World

/-- `publish` of the publisher, for the callbacks that its connection delivers. -/
def RabbitMQRecordedEventPublisher.publish {World : Type}
    (publisher : RabbitMQRecordedEventPublisher) (pika : Pika World) (world : World)
    (message : RecordedEventMessage) (callbacks : List Callback) : Except PyError Unit :=
  (((run publisher message callbacks) {}).eval pika world).1.1

end Freight.Outbox
