/-
Module: Freight.Messaging.Consumer
Purpose: The inbound consumer: its topology, how it classifies failures, and what
  it does with one delivery.
Trusted boundary: none
Main exports:
  FailureDisposition, classify, RabbitMQShipmentEventConsumer, Place, route, route_retry,
  route_deadLetter, ChannelOp, Consuming, correlationId, failureProperties, republication,
  handleFailure, processDelivery
-/
import Freight.Interaction.Program
import Freight.Messaging.ShipmentEventMessage

namespace Freight

open Interaction (Computation)
open Interaction.Computation (ofExcept tryExcept)

/-! ## Failures -/

inductive FailureDisposition where
  | retry
  | deadLetter
deriving DecidableEq, Repr

/-- `ShipmentEventFailureClassifier.classify`. -/
def classify (error : PyError) : FailureDisposition :=
  match error with
  | .invalidShipmentEvent _ | .invalidStateTransition _ _ | .valueError _ _ => .deadLetter
  | .operationalError _ => .retry
  -- unknown failures can be transient
  | _ => .retry

/-! ## Topology -/

/-- `RETRY_ROUTING_KEY`. -/
def retryRoutingKey : String := "shipment.event.retry.v1"

/-- `DEAD_LETTER_ROUTING_KEY`. -/
def deadLetterRoutingKey : String := "shipment.event.dead-letter.v1"

/-- `RabbitMQShipmentEventConsumer`. -/
structure RabbitMQShipmentEventConsumer where
  exchange : String
  retryExchange : String := "freight.shipment-events.retry"
  deadLetterExchange : String := "freight.shipment-events.dlx"
  maxAttempts : Int := 3
deriving DecidableEq, Repr

/-- The three queues of the topology. -/
inductive Place where
  | main
  | retry
  | deadLetter
deriving DecidableEq, Repr

/-- The queues that the bindings of `declare_topology` send a message to. -/
def route (consumer : RabbitMQShipmentEventConsumer) (exchange routingKey : String) :
    List Place :=
  [(consumer.exchange, eventReceivedRoutingKey, Place.main),
    (consumer.retryExchange, retryRoutingKey, .retry),
    (consumer.deadLetterExchange, deadLetterRoutingKey, .deadLetter)].filterMap
      fun binding =>
        if binding.1 = exchange ∧ binding.2.1 = routingKey then some binding.2.2 else none

theorem route_retry (consumer : RabbitMQShipmentEventConsumer) :
    route consumer consumer.retryExchange retryRoutingKey = [.retry] := by
  have first : eventReceivedRoutingKey ≠ retryRoutingKey := by decide
  have last : deadLetterRoutingKey ≠ retryRoutingKey := by decide
  simp [route, first, last]

theorem route_deadLetter (consumer : RabbitMQShipmentEventConsumer) :
    route consumer consumer.deadLetterExchange deadLetterRoutingKey = [.deadLetter] := by
  have first : eventReceivedRoutingKey ≠ deadLetterRoutingKey := by decide
  have last : retryRoutingKey ≠ deadLetterRoutingKey := by decide
  simp [route, first, last]

/-- A message of the inbound queues. -/
structure Message where
  body : Bytes
  properties : BasicProperties

/-! ## One delivery -/

/-- What the consumer asks its environment for: its callable, the channel, the
clock and `uuid4`. -/
inductive ChannelOp where
  | handleEvent (correlationId : String) (event : ShipmentEvent)
  | basicPublish (exchange routingKey : String) (message : Message)
  | basicAck (deliveryTag : Nat)
  | now
  | uuid4

abbrev ChannelOp.Reply : ChannelOp → Type
  | .now => DateTime
  | .uuid4 => UUID
  | _ => Unit

/-- The code of the consumer. -/
abbrev Consuming (α : Type) : Type :=
  Computation ChannelOp ChannelOp.Reply PyError Unit α

namespace Consumer

def call (op : ChannelOp) : Consuming op.Reply := Computation.call op

/-- `[A-Za-z0-9._-]`. -/
def validCharacter (character : Char) : Bool :=
  ('A' ≤ character && character ≤ 'Z') || ('a' ≤ character && character ≤ 'z') ||
    ('0' ≤ character && character ≤ '9') || character = '.' || character = '_' ||
    character = '-'

/-- `[A-Za-z0-9._-]{1,64}`, on the whole value. -/
def validId (value : String) : Bool :=
  1 ≤ value.toList.length && value.toList.length ≤ 64 && value.toList.all validCharacter

/-- `correlation_id(value)`. -/
def correlationId (value : Option String) : Consuming String := do
  let fresh : Consuming String := do
    let id : UUID ← call .uuid4
    pure id.str
  match value with
  | some value => if validId value then pure value else fresh
  | none => fresh

/-- Python's `or` between two optional strings. -/
def orElse (first second : Option String) : Option String :=
  match first with
  | some "" | none => second
  | some value => some value

/-- `_failure_properties`. -/
def failureProperties (original : Option BasicProperties) (headers : Headers) :
    BasicProperties where
  contentType :=
    match original with
    | some original => original.contentType
    | none => some "application/json"
  deliveryMode := some 2
  messageId := original.bind BasicProperties.messageId
  correlationId := original.bind BasicProperties.correlationId
  type :=
    match original with
    | some original => original.type
    | none => some eventReceivedRoutingKey
  headers := some headers

/-- The headers after a failure, before the count of a retry is raised. -/
def failureHeaders (headers : Headers) (attemptCount : Int) (now : DateTime)
    (error : PyError) : Headers :=
  let firstFailedAt := (headers.lookup "x-first-failed-at").getD (.str now.isoformat)
  (((headers.insert "x-attempt-count" (.int attemptCount)).insert
    "x-first-failed-at" firstFailedAt).insert
    "x-last-error-type" (.str error.typeName)).insert
    "x-last-error-message" (.str (String.ofList (error.str.toList.take 500)))

/-- A failed message on its way to an exchange. -/
structure Republication where
  exchange : String
  routingKey : String
  message : Message

/-- What `_handle_failure` publishes, once it knows the attempt count. -/
def republication (consumer : RabbitMQShipmentEventConsumer)
    (properties : Option BasicProperties) (headers : Headers) (body : Bytes)
    (attemptCount : Int) (now : DateTime) (error : PyError) : Republication :=
  let headers := failureHeaders headers attemptCount now error
  if classify error = .retry ∧ attemptCount < consumer.maxAttempts then
    let headers := headers.insert "x-attempt-count" (.int (attemptCount + 1))
    { exchange := consumer.retryExchange
      routingKey := retryRoutingKey
      message := { body := body, properties := failureProperties properties headers } }
  else
    { exchange := consumer.deadLetterExchange
      routingKey := deadLetterRoutingKey
      message := { body := body, properties := failureProperties properties headers } }

/-- `dict(properties.headers or {}) if properties else {}`. -/
def headersOf (properties : Option BasicProperties) : Headers :=
  (properties.bind BasicProperties.headers).getD ∅

/-- `int(headers.get("x-attempt-count", 1))`. -/
def attemptCount (headers : Headers) : Except PyError Int :=
  ((headers.lookup "x-attempt-count").getD (.int 1)).toInt

/-- `_ack`. -/
def ack (deliveryTag : Nat) : Consuming Unit := call (.basicAck deliveryTag)

/-- `_handle_failure`. -/
def handleFailure (consumer : RabbitMQShipmentEventConsumer) (deliveryTag : Nat)
    (properties : Option BasicProperties) (body : Bytes) (error : PyError) :
    Consuming Unit := do
  let headers := headersOf properties
  let attemptCount ← ofExcept (attemptCount headers)
  let now : DateTime ← call .now
  let failed := republication consumer properties headers body attemptCount now error
  call (.basicPublish failed.exchange failed.routingKey failed.message)
  ack deliveryTag

/-- The inner `try` statement of `process_delivery`: the exception it catches, if
any. -/
def tryHandling (decoders : Decoders) (identity : String) (body : Bytes) :
    Consuming (Option PyError) :=
  tryExcept
    (do
      let message ← ofExcept (ShipmentEventMessage.fromJson decoders body)
      call (.handleEvent identity message.toEvent)
      pure none)
    (fun error => pure (some error))

/-- `process_delivery`. -/
def processDelivery (consumer : RabbitMQShipmentEventConsumer) (decoders : Decoders)
    (deliveryTag : Nat) (body : Bytes) (properties : Option BasicProperties) :
    Consuming Unit := do
  let properties := properties.getD {}
  let identity ← correlationId (orElse properties.correlationId properties.messageId)
  let properties := { properties with correlationId := some identity }
  match ← tryHandling decoders identity body with
  | some error => handleFailure consumer deliveryTag (some properties) body error
  | none => ack deliveryTag

end Consumer

end Freight
