/-
Module: Freight.Messaging.Channel
Purpose: One delivery against a channel whose calls return, in closed form.
Trusted boundary: none
Main exports:
  ChannelEffect, Channel, Channel.answer, Consumer.identity, Consumer.attempt,
  Consumer.deliver, Consumer.deliver_eq
-/
import Freight.Interaction.Interpretation
import Freight.Messaging.Consumer

namespace Freight

open Interaction (Program)

inductive ChannelEffect where
  | published (republication : Consumer.Republication)
  | acknowledged (deliveryTag : Nat)

/-- A channel whose calls return, and what else one delivery depends on: the
callable, the clock and `uuid4`. -/
structure Channel where
  handleEvent : String → ShipmentEvent → Except PyError Unit
  now : DateTime
  uuid : UUID
  effects : List ChannelEffect := []

namespace Channel

/-- A further effect on the channel. -/
def perform (effect : ChannelEffect) (channel : Channel) : Channel :=
  { channel with effects := channel.effects ++ [effect] }

/-- The answer to every operation of the consumer. -/
def answer : (op : ChannelOp) → Channel → Except PyError op.Reply × Channel
  | .handleEvent correlationId event, channel =>
      (channel.handleEvent correlationId event, channel)
  | .basicPublish exchange routingKey message, channel =>
      (.ok (), channel.perform (.published { exchange, routingKey, message }))
  | .basicAck deliveryTag, channel => (.ok (), channel.perform (.acknowledged deliveryTag))
  | .now, channel => (.ok channel.now, channel)
  | .uuid4, channel => (.ok channel.uuid, channel)

end Channel

namespace Consumer

/-- The identity that a delivery is processed under. -/
def identity (properties : BasicProperties) (uuid : UUID) : String :=
  match orElse properties.correlationId properties.messageId with
  | some value => if validId value then value else uuid.str
  | none => uuid.str

/-- The properties that a failure is published from. -/
def identified (properties : BasicProperties) (uuid : UUID) : BasicProperties :=
  { properties with correlationId := some (identity properties uuid) }

/-- Decoding and handling, as one result. -/
def attempt (decoders : Decoders) (channel : Channel) (body : Bytes)
    (properties : BasicProperties) : Except PyError Unit :=
  (ShipmentEventMessage.fromJson decoders body).bind fun message =>
    channel.handleEvent (identity properties channel.uuid) message.toEvent

/-- `process_delivery` against a channel: how it ends, and the channel it leaves. -/
def deliver (consumer : RabbitMQShipmentEventConsumer) (decoders : Decoders)
    (channel : Channel) (deliveryTag : Nat) (body : Bytes)
    (properties : Option BasicProperties) : Except PyError Unit × Channel :=
  let final :=
    (processDelivery consumer decoders deliveryTag body properties ()).eval Channel.answer
      channel
  (final.1.1, final.2)

section Spec

variable (consumer : RabbitMQShipmentEventConsumer) (decoders : Decoders)
  (channel : Channel) (deliveryTag : Nat) (body : Bytes)

theorem eval_correlationId (properties : BasicProperties) :
    (correlationId (orElse properties.correlationId properties.messageId) ()).eval
        Channel.answer channel =
      ((.ok (identity properties channel.uuid), ()), channel) := by
  unfold identity correlationId
  cases orElse properties.correlationId properties.messageId with
  | none => rfl
  | some value =>
      by_cases valid : validId value = true
      · simp only [valid, if_true]
        rfl
      · simp only [valid]
        rfl

theorem eval_handleFailure (properties : BasicProperties) (error : PyError) :
    (handleFailure consumer deliveryTag (some properties) body error ()).eval
        Channel.answer channel =
      match attemptCount (headersOf (some properties)) with
      | .error raised => ((.error raised, ()), channel)
      | .ok count =>
          ((.ok (), ()),
            (channel.perform (.published (republication consumer (some properties)
              (headersOf (some properties)) body count channel.now error))).perform
                (.acknowledged deliveryTag)) := by
  unfold handleFailure
  simp only [Interaction.Computation.eval_bind, Interaction.Computation.eval_ofExcept]
  cases attemptCount (headersOf (some properties)) with
  | error raised => rfl
  | ok count => rfl

theorem eval_tryHandling (properties : BasicProperties) :
    (tryHandling decoders (identity properties channel.uuid) body ()).eval Channel.answer
        channel =
      match attempt decoders channel body properties with
      | .ok _ => ((.ok none, ()), channel)
      | .error error => ((.ok (some error), ()), channel) := by
  unfold tryHandling attempt
  simp only [Interaction.Computation.eval_tryExcept, Interaction.Computation.eval_bind,
    Interaction.Computation.eval_ofExcept]
  cases ShipmentEventMessage.fromJson decoders body with
  | error error => rfl
  | ok message =>
      simp only [call, Interaction.Computation.eval_call, Channel.answer, Except.bind]
      cases channel.handleEvent (identity properties channel.uuid) message.toEvent <;> rfl

/-- Spec lemma: one delivery, from how decoding and handling end. -/
theorem deliver_eq (given : Option BasicProperties) :
    deliver consumer decoders channel deliveryTag body given =
      let properties := given.getD {}
      let headers := headersOf (some properties)
      match attempt decoders channel body properties with
      | .ok _ => (.ok (), channel.perform (.acknowledged deliveryTag))
      | .error error =>
          match attemptCount headers with
          | .error raised => (.error raised, channel)
          | .ok count =>
              (.ok (),
                (channel.perform (.published (republication consumer
                  (some (identified properties channel.uuid)) headers body count channel.now
                  error))).perform (.acknowledged deliveryTag)) := by
  unfold deliver processDelivery
  generalize given.getD {} = properties
  simp only [Interaction.Computation.eval_bind, eval_correlationId, eval_tryHandling]
  cases attempt decoders channel body properties with
  | ok handled => rfl
  | error error =>
      have failed := eval_handleFailure consumer channel deliveryTag body
        (identified properties channel.uuid) error
      simp only [identified] at failed ⊢
      rw [failed]
      have headers : headersOf (some (identified properties channel.uuid)) =
          headersOf (some properties) := rfl
      rw [identified] at headers
      rw [headers]
      cases attemptCount (headersOf (some properties)) <;> rfl

end Spec

end Consumer

end Freight
