/-
Module: Freight.Messaging.Intake
Purpose: The inbound queues with any number of workers, one delivery at a time for each
  worker, as turns of producers, workers, the broker's timer and deaths of workers.
Trusted boundary: none
Main exports:
  Intake, Intake.Turn, Intake.effects, Intake.absorb, Intake.turn, Intake.Turn.Uncounted,
  Intake.Turn.isQuiet, Intake.Drained
-/
import Freight.Interaction.Amortized
import Freight.Messaging.Broker
import Freight.Proofs.BoundedRetry

namespace Freight

open Interaction (ProcessId Journal)
open Consumer (headersOf attemptCount)

/-- The broker, and for the record the origins of the deliveries that have been handled. -/
structure Intake where
  broker : Broker := {}
  handled : List Nat := []

namespace Intake

/-- Whose turn it is.  A worker that dies has got as far as some of the effects of its
delivery. -/
inductive Turn where
  | produced (message : Message)
  | delivered (worker : ProcessId) (index deliveryTag : Nat)
  | processed (worker : ProcessId) (attempt : DeliveryAttempt)
  | died (worker : ProcessId) (attempt : DeliveryAttempt) (performed : Nat)
  | expired (index : Nat) (properties : BasicProperties)

section Turns

variable (consumer : RabbitMQShipmentEventConsumer) (decoders : Decoders)

/-- The effects of `process_delivery` on its channel. -/
def effects (delivery : Unacked) (attempt : DeliveryAttempt) : List ChannelEffect :=
  (Consumer.deliver consumer decoders attempt.channel delivery.deliveryTag
    delivery.letter.message.body (some delivery.letter.message.properties)).2.effects

/-- What the broker does at an effect of a worker's delivery. -/
def receive (worker : ProcessId) (origin : Nat) (broker : Broker) : ChannelEffect → Broker
  | .published republication =>
      (route consumer republication.exchange republication.routingKey).foldl
        (fun broker place =>
          broker.put place [{ origin := origin, message := republication.message }])
        broker
  | .acknowledged deliveryTag => broker.acknowledge worker deliveryTag

/-- Some effects of a delivery, and whether it has been handled. -/
def absorb (worker : ProcessId) (delivery : Unacked) (attempt : DeliveryAttempt)
    (effects : List ChannelEffect) (intake : Intake) : Intake where
  broker := effects.foldl (receive consumer worker delivery.letter.origin) intake.broker
  handled :=
    match attempt.result decoders delivery.letter.message.body with
    | .ok _ => intake.handled ++ [delivery.letter.origin]
    | .error _ => intake.handled

/-- The delivery that a worker has. -/
def delivery (intake : Intake) (worker : ProcessId) : Option Unacked :=
  (intake.broker.unacked.entriesOf worker).head?

/-- One turn.  With a prefetch count of one, a worker is given nothing before it has
acknowledged what it has; a message that returns from the retry queue comes with the
attempt count that it went with. -/
def turn (intake : Intake) : Turn → Option Intake
  | .produced message => some { intake with broker := intake.broker.enter message }
  | .delivered worker index deliveryTag =>
      match intake.delivery worker with
      | some _ => none
      | none =>
          (intake.broker.deliver worker index deliveryTag).map fun result =>
            { intake with broker := result.2 }
  | .processed worker attempt =>
      (intake.delivery worker).map fun delivery =>
        intake.absorb consumer decoders worker delivery attempt
          (effects consumer decoders delivery attempt)
  | .died worker attempt performed =>
      (intake.delivery worker).map fun delivery =>
        let left :=
          intake.absorb consumer decoders worker delivery attempt
            ((effects consumer decoders delivery attempt).take performed)
        { left with broker := left.broker.requeue worker }
  | .expired index properties =>
      match (intake.broker.queues .retry)[index]? with
      | none => none
      | some letter =>
          if (attemptCount (headersOf (some properties))).toOption =
              (attemptCount (headersOf (some letter.message.properties))).toOption then
            (intake.broker.expire index properties).map fun broker =>
              { intake with broker := broker }
          else none

end Turns

/-- A producer's message comes without an attempt count. -/
def Turn.Uncounted : Turn → Prop
  | .produced message => (headersOf (some message.properties)).lookup "x-attempt-count" = none
  | _ => True

@[simp] def Turn.isProduced : Turn → Bool
  | .produced _ => true
  | _ => false

@[simp] def Turn.isDelivered : Turn → Bool
  | .delivered _ _ _ => true
  | _ => false

@[simp] def Turn.isDied : Turn → Bool
  | .died _ _ _ => true
  | _ => false

/-- Nothing new is produced, and no worker dies. -/
def Turn.isQuiet (turn : Turn) : Bool := !turn.isProduced && !turn.isDied

/-- Nothing waits, and no worker has a delivery. -/
structure Drained (intake : Intake) : Prop where
  main : intake.broker.queues .main = []
  retry : intake.broker.queues .retry = []
  unacked : intake.broker.unacked = []

end Intake

end Freight
