/-
Module: Freight.Messaging.Broker
Purpose: The inbound side of the broker: its three queues, the deliveries that are not
  acknowledged, and what each channel operation does to them.
Trusted boundary: none
Main exports:
  Letter, Unacked, Note, Broker, Broker.letters, Broker.enter, Broker.deliver,
  Broker.republish, Broker.acknowledge, Broker.requeue, Broker.expire
-/
import Freight.Interaction.Journal
import Freight.Messaging.Consumer

namespace Freight

open Interaction (ProcessId Journal)

/-- A message in a queue.  Its origin is not part of what the broker holds: it is the
number of the message that was once put on the main queue, of which this one is a
delivery, a return or a republication. -/
structure Letter where
  origin : Nat
  message : Message

/-- A delivery that has not been acknowledged. -/
structure Unacked where
  deliveryTag : Nat
  letter : Letter

/-- What has happened in the course of a delivery. -/
inductive Note where
  | delivered (deliveryTag : Nat) (letter : Letter)
  | called (correlationId : String) (event : ShipmentEvent)
  | returned
  | published (republication : Consumer.Republication)
  | acknowledged (deliveryTag : Nat)

/-- The queues, the unacknowledged deliveries, and for the record the messages that were
put on the main queue and the course of every delivery. -/
structure Broker where
  entered : List Message := []
  queues : Place → List Letter := fun _ => []
  unacked : Journal Unacked := []
  journal : Journal Note := []

namespace Broker

variable (broker : Broker)

/-- Everything that the broker still has. -/
def letters : List Letter :=
  broker.queues .main ++ broker.unacked.map (fun entry => entry.2.letter) ++
    broker.queues .retry ++ broker.queues .deadLetter

def note (process : ProcessId) (note : Note) : Broker :=
  { broker with journal := broker.journal ++ [(process, note)] }

/-- Add to the end of a queue. -/
def put (place : Place) (letters : List Letter) : Broker :=
  { broker with
    queues := Function.update broker.queues place (broker.queues place ++ letters) }

/-- Take one message, wherever it stands, from a queue. -/
def take (place : Place) (index : Nat) : Broker :=
  { broker with
    queues := Function.update broker.queues place ((broker.queues place).eraseIdx index) }

/-- A producer's message comes to the main queue. -/
def enter (message : Message) : Broker :=
  { broker.put .main [{ origin := broker.entered.length, message := message }] with
    entered := broker.entered ++ [message] }

/-- The broker delivers a message of the main queue on the channel of a process. -/
def deliver (process : ProcessId) (index deliveryTag : Nat) : Option (Unacked × Broker) :=
  (broker.queues .main)[index]?.map fun letter =>
    let delivery : Unacked := { deliveryTag := deliveryTag, letter := letter }
    (delivery,
      { (broker.take .main index).note process (.delivered deliveryTag letter) with
        unacked := broker.unacked ++ [(process, delivery)] })

/-- What has been delivered on the channel of a process. -/
def deliveredTo (process : ProcessId) : Option Letter :=
  (broker.journal.entriesOf process).findSome? fun
    | .delivered _ letter => some letter
    | _ => none

/-- The exchanges pass on what is published in the course of a delivery. -/
def republish (consumer : RabbitMQShipmentEventConsumer) (process : ProcessId)
    (republication : Consumer.Republication) : Option Broker :=
  (broker.deliveredTo process).map fun letter =>
    (route consumer republication.exchange republication.routingKey).foldl
      (fun broker place =>
        broker.put place [{ origin := letter.origin, message := republication.message }])
      broker

/-- The broker drops an acknowledged delivery. -/
def acknowledge (process : ProcessId) (deliveryTag : Nat) : Broker :=
  { broker with
    unacked := broker.unacked.filter fun entry =>
      ¬ (entry.1 = process ∧ entry.2.deliveryTag = deliveryTag) }

/-- A channel is gone: what was delivered on it and not acknowledged goes back, with the
properties that it was delivered with. -/
def requeue (process : ProcessId) : Broker :=
  { broker.put .main ((broker.unacked.entriesOf process).map Unacked.letter) with
    unacked := broker.unacked.filter fun entry => entry.1 ≠ process }

/-- The time to live of a message in the retry queue is over: the broker sends it to the
main queue, under properties that tell of it. -/
def expire (index : Nat) (properties : BasicProperties) : Option Broker :=
  (broker.queues .retry)[index]?.map fun letter =>
    (broker.take .retry index).put .main
      [{ letter with message := { letter.message with properties := properties } }]

end Broker

end Freight
