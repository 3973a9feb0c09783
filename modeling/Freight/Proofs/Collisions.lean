/-
Module: Freight.Proofs.Collisions
Purpose: What becomes of a delivery that loses the race for the key of
  `shipment_events`, and of the deliveries of its message after it.
Trusted boundary: none
Main exports:
  exists_recordedAt, Consumer.deliver_collided, Consumer.deliver_handled,
  collision_settlement, collision_dead_lettered
-/
import Freight.Proofs.BoundedRetry
import Freight.Proofs.DeliverySettlement
import Freight.Proofs.DuplicateAnswers
import Freight.Store.Collisions
import Mathlib.Data.Nat.Find

namespace Freight

open Interaction (ProcessId)
open Consumer (deliver identity headersOf attemptCount)

/-! ## The recording transaction -/

/-- An event that was absent at one point of the log and is recorded at its end was
recorded by one of its entries. -/
theorem exists_recordedAt {base : Database} {wal : List Transaction} {eventId : UUID}
    {lsn : Nat} (absent : AbsentAt base lsn eventId wal)
    (recorded : ∃ row, (replay base wal).event eventId = some row) :
    ∃ index transaction, wal[index]? = some transaction ∧
      RecordedAt base wal eventId index := by
  have last : ((replay base (wal.take wal.length)).event eventId).isSome := by
    rw [List.take_length]
    exact Option.isSome_iff_exists.mpr recorded
  have some : ∃ point, ((replay base (wal.take point)).event eventId).isSome := ⟨_, last⟩
  have found := Nat.find_spec some
  have least := fun point => @Nat.find_min _ _ some point
  have inside : Nat.find some ≤ wal.length := Nat.find_min' some last
  generalize Nat.find some = point at found least inside
  cases point with
  | zero =>
      have still := replay_event_take_mono (Nat.zero_le lsn) found
      rw [absent.2] at still
      cases still
  | succ index =>
      have before : ¬ ((replay base (wal.take index)).event eventId).isSome :=
        least index (Nat.lt_succ_self index)
      exact ⟨index, wal[index], List.getElem?_eq_getElem inside,
        Option.not_isSome_iff_eq_none.mp before, found⟩

/-! ## One delivery -/

namespace Consumer

variable {decoders : Decoders} {body : Bytes} {message : ShipmentEventMessage}

/-- The integrity error of a duplicate. -/
def collision (text : String) : PyError := .integrityError (some "shipment_events_pkey") text

/-- A delivery that has collided is published, to the retry exchange with its count
raised or else to the dead-letter exchange, and acknowledged. -/
theorem deliver_collided (consumer : RabbitMQShipmentEventConsumer)
    (decoded : ShipmentEventMessage.fromJson decoders body = .ok message)
    (now : DateTime) (uuid : UUID) (deliveryTag : Nat) (properties : Option BasicProperties)
    {count : Int} (counted : attemptCount (headersOf properties) = .ok count)
    (text : String) :
    ∃ republication : Republication,
      republication.message.body = body ∧
        (deliver consumer decoders
            { handleEvent := fun _ _ => .error (collision text), now, uuid } deliveryTag body
            properties).1 = .ok () ∧
        (deliver consumer decoders
            { handleEvent := fun _ _ => .error (collision text), now, uuid } deliveryTag body
            properties).2.effects = [.published republication, .acknowledged deliveryTag] ∧
        (count < consumer.maxAttempts →
          route consumer republication.exchange republication.routingKey = [.retry] ∧
            attemptCount (headersOf (some republication.message.properties)) =
              .ok (count + 1)) ∧
        (consumer.maxAttempts ≤ count →
          route consumer republication.exchange republication.routingKey = [.deadLetter]) := by
  rw [deliver_eq]
  simp only [attempt, decoded, Except.bind, headersOf_getD, counted]
  refine ⟨_, ?_, trivial, rfl, ?_, ?_⟩
  · exact (republication_carries consumer _ _ body count now _).1
  · intro left
    rw [republication_retry ⟨rfl, left⟩]
    refine ⟨route_retry consumer, ?_⟩
    simp [attemptCount, headersOf, failureProperties, AmqpValue.toInt]
  · intro spent
    rw [republication_deadLetter (fun both => absurd both.2 (Int.not_lt.mpr spent))]
    exact route_deadLetter consumer

/-- A delivery that is handled is acknowledged, and nothing else. -/
theorem deliver_handled (consumer : RabbitMQShipmentEventConsumer)
    (decoded : ShipmentEventMessage.fromJson decoders body = .ok message)
    (now : DateTime) (uuid : UUID) (deliveryTag : Nat)
    (properties : Option BasicProperties) :
    (deliver consumer decoders { handleEvent := fun _ _ => .ok (), now, uuid } deliveryTag
        body properties).1 = .ok () ∧
      (deliver consumer decoders { handleEvent := fun _ _ => .ok (), now, uuid } deliveryTag
        body properties).2.effects = [.acknowledged deliveryTag] := by
  rw [deliver_eq]
  simp only [attempt, decoded, Except.bind]
  exact ⟨trivial, rfl⟩

end Consumer

/-! ## Collisions -/

/-- How a delivery that collides is settled, and how every later one of its message is.
The event has been recorded by another transaction.  The delivery is published and
acknowledged: it waits for a retry, with its count raised, if its attempt count is below
the maximum, and it is dead-lettered otherwise.  A worker that takes up the message after
the collision never collides again: it returns without a write and the delivery is
acknowledged as a duplicate, or it raises what the environment does; and it can always
return. -/
theorem collision_settlement (server : Server) (honest : server.Honest) (base : Database)
    (keyed : base.outboxKeys.Nodup) (requests : ProcessId → Request) (state : PlatformState)
    (reached : (platform server requests).Reachable { base := base } state)
    (consumer : RabbitMQShipmentEventConsumer) (decoders : Decoders) (body : Bytes)
    (message : ShipmentEventMessage)
    (decoded : ShipmentEventMessage.fromJson decoders body = .ok message)
    (properties : Option BasicProperties) (uuid : UUID) (process : ProcessId)
    (delivered : requests process =
      .handleEvent (some (identity (properties.getD {}) uuid)) message.toEvent)
    (text : String) (session : Session)
    (collided : state.processes process =
      some (.done (.error (Consumer.collision text), session)))
    (count : Int) (counted : attemptCount (headersOf properties) = .ok count)
    (now : DateTime) (deliveryTag : Nat) :
    (∃ index transaction, state.world.wal[index]? = some transaction ∧
        transaction.process ≠ process ∧
          RecordedAt base state.world.wal message.eventId index) ∧
      (∃ republication : Consumer.Republication,
        let final := deliver consumer decoders
          { handleEvent := fun _ _ => .error (Consumer.collision text), now, uuid } deliveryTag
            body properties
        republication.message.body = body ∧ final.1 = .ok () ∧
          final.2.effects = [.published republication, .acknowledged deliveryTag] ∧
          (count < consumer.maxAttempts →
            route consumer republication.exchange republication.routingKey = [.retry] ∧
              attemptCount (headersOf (some republication.message.properties)) =
                .ok (count + 1)) ∧
          (consumer.maxAttempts ≤ count →
            route consumer republication.exchange republication.routingKey =
              [.deadLetter])) ∧
      ∀ actions final later correlationId,
        (platform server requests).run actions state = some final →
        requests later = .handleEvent correlationId message.toEvent →
        Unbegun requests later state →
        (∀ outcome session, final.processes later = some (.done (outcome, session)) →
          (outcome = .ok () ∧ ¬ Wrote later final.world.wal ∧
              ∀ now uuid deliveryTag properties,
                let settled := deliver consumer decoders
                  { handleEvent := fun _ _ => outcome, now, uuid } deliveryTag body properties
                settled.1 = .ok () ∧ settled.2.effects = [.acknowledged deliveryTag]) ∨
            ∃ error, outcome = .error error ∧ server.faults error = true ∧
              ∀ text, error ≠ Consumer.collision text) ∧
        (Unbegun requests later final →
          ∃ choices session after,
            (requests later).program.run (server.perform later) choices final.world =
              some ((.ok (), session), after)) := by
  have explained := platform_explained keyed reached delivered collided
  have overtaken : process ∉ state.world.wal.map Transaction.process ∧
      (∃ lsn, AbsentAt base lsn message.eventId state.world.wal) ∧
        AlreadyKnown base message.toEvent state.world.wal := by
    rcases explained _ rfl with faults | overtaken
    · rw [Consumer.collision, honest] at faults
      cases faults
    · exact overtaken honest text rfl
  obtain ⟨uncommitted, ⟨lsn, absent⟩, known⟩ := overtaken
  refine ⟨?_, ?_, ?_⟩
  · obtain ⟨index, transaction, found, recorded⟩ := exists_recordedAt absent known.2.1
    refine ⟨index, transaction, found, ?_, recorded⟩
    intro own
    exact uncommitted (own ▸ List.mem_map_of_mem (List.mem_of_getElem? found))
  · exact Consumer.deliver_collided consumer decoded now uuid deliveryTag properties counted
      text
  · intro actions final later correlationId ran requested unbegun
    constructor
    · intro outcome session finished
      have settled := platform_known keyed reached requested unbegun known ran finished
      cases outcome with
      | ok value =>
          refine Or.inl ⟨rfl, settled.2, ?_⟩
          intro now uuid deliveryTag properties
          exact Consumer.deliver_handled consumer decoded now uuid deliveryTag properties
      | error error =>
          refine Or.inr ⟨error, rfl, settled.2.1, ?_⟩
          intro text equality
          have faults := settled.2.1
          rw [equality, Consumer.collision, honest] at faults
          cases faults
    · intro waiting
      exact platform_returns keyed reached requested known ran waiting

/-! ## A report and a message of one event -/

/-- Readers of a message that reports the delivery of the parcel. -/
def deliveredDecoders : Decoders where
  loads _ :=
    .ok (.obj
      [("contract_version", .str "v1"), ("message_id", .str "message"),
       ("event_id", .str "event"), ("shipment_id", .str "parcel"),
       ("event_type", .str "DELIVERED"), ("source", .str "carrier"),
       ("occurred_at", .str ""), ("received_at", .str ""), ("payload", .obj [])])
  uuid text := some (if text = "parcel" then parcel else ⟨7#128⟩)
  fromisoformat _ := some (.utc 20)

/-- The message that they read. -/
def deliveredMessage : ShipmentEventMessage where
  messageId := ⟨7#128⟩
  eventId := ⟨7#128⟩
  shipmentId := parcel
  eventType := .delivered
  source := .str "carrier"
  occurredAt := .utc 20
  receivedAt := .utc 20
  payload := .obj []

/-- The properties of its deliveries: there is no attempt count yet. -/
def deliveryProperties : BasicProperties := { correlationId := some "delivery" }

/-- One HTTP request reports the event, and any number of workers are delivered it. -/
def reportedAndDelivered (process : ProcessId) : Request :=
  if process = 0 then .receiveEvent none (report 7 .delivered 20)
  else .handleEvent (some "delivery") deliveredMessage.toEvent

/-- The worker does not find the event, and inserts it after the request has committed
it. -/
def overtakenSchedule : List (Interaction.System.Action Choice) :=
  turns 1 [.proceed, .proceed] ++ lookUp 0 ++ recordRest 0 100 ++
    turns 1
      [.proceed, .proceed, .proceed, .uuid ⟨101#128⟩, .proceed, .proceed, .proceed, .proceed]

/-- How a finished process has ended. -/
def outcomeOf (state : PlatformState) (process : ProcessId) :
    Option (Except PyError Unit) :=
  match state.processes process with
  | some (.done (outcome, _)) => some outcome
  | _ => none

theorem finished_of_outcomeOf {state : PlatformState} {process : ProcessId}
    {outcome : Except PyError Unit} (ended : outcomeOf state process = some outcome) :
    ∃ session, state.processes process = some (.done (outcome, session)) := by
  unfold outcomeOf at ended
  split at ended
  · rename_i finished
    cases ended
    exact ⟨_, finished⟩
  · cases ended

/-- The text of the collision. -/
def collisionText : String :=
  "insert or update violates constraint \"shipment_events_pkey\""

theorem overtakenSchedule_runs :
    (((platform Server.utc reportedAndDelivered).run overtakenSchedule
      ((platform Server.utc reportedAndDelivered).initial { base := onItsWay })).bind
        fun state => outcomeOf state 1) = some (.error (Consumer.collision collisionText)) := by
  decide +kernel

/-- A state in which the worker has lost the race. -/
theorem overtaken_state :
    ∃ (state : PlatformState) (session : Session),
      (platform Server.utc reportedAndDelivered).Reachable { base := onItsWay } state ∧
      state.processes 1 =
        some (.done (.error (Consumer.collision collisionText), session)) := by
  obtain ⟨state, ran, ended⟩ := Option.bind_eq_some_iff.mp overtakenSchedule_runs
  obtain ⟨session, finished⟩ := finished_of_outcomeOf ended
  exact ⟨state, session, ⟨overtakenSchedule, ran⟩, finished⟩

/-- With attempts left, the collided delivery waits for a retry. -/
theorem collision_retried :
    ∃ republication : Consumer.Republication,
      (deliver { exchange := "freight.shipment-events" } deliveredDecoders
          { handleEvent := fun _ _ => .error (Consumer.collision collisionText)
            now := .utc 40, uuid := ⟨200#128⟩ } 1 [] (some deliveryProperties)).2.effects =
        [.published republication, .acknowledged 1] ∧
      route { exchange := "freight.shipment-events" } republication.exchange
        republication.routingKey = [.retry] := by
  obtain ⟨state, session, reached, collided⟩ := overtaken_state
  obtain ⟨-, ⟨republication, -, -, effects, retried, -⟩, -⟩ :=
    collision_settlement Server.utc Server.utc_honest onItsWay List.nodup_nil
      reportedAndDelivered state reached { exchange := "freight.shipment-events" }
      deliveredDecoders [] deliveredMessage rfl (some deliveryProperties) ⟨200#128⟩ 1 rfl
      collisionText session collided 1 rfl (.utc 40) 1
  exact ⟨republication, effects, (retried (by decide)).1⟩

/-- Not every delivery that loses the race stays clear of the dead-letter queue. -/
theorem collision_dead_lettered :
    ¬ ∀ (consumer : RabbitMQShipmentEventConsumer) (state : PlatformState)
        (session : Session) (text : String) (properties : BasicProperties),
      (platform Server.utc reportedAndDelivered).Reachable { base := onItsWay } state →
      state.processes 1 = some (.done (.error (Consumer.collision text), session)) →
      ∀ republication,
        .published republication ∈
          (deliver consumer deliveredDecoders
            { handleEvent := fun _ _ => .error (Consumer.collision text)
              now := .utc 40, uuid := ⟨200#128⟩ } 1 [] (some properties)).2.effects →
        .deadLetter ∉ route consumer republication.exchange republication.routingKey := by
  intro claim
  obtain ⟨state, session, reached, collided⟩ := overtaken_state
  have spent := claim { exchange := "freight.shipment-events", maxAttempts := 1 } state session
    collisionText deliveryProperties reached collided
  have decoded : ShipmentEventMessage.fromJson deliveredDecoders [] = .ok deliveredMessage := rfl
  have counted : attemptCount (headersOf (some deliveryProperties)) = .ok 1 := rfl
  obtain ⟨republication, -, -, effects, -, deadLettered⟩ := Consumer.deliver_collided
    { exchange := "freight.shipment-events", maxAttempts := 1 } decoded (.utc 40) ⟨200#128⟩ 1
    (some deliveryProperties) counted collisionText
  refine spent republication ?_ ?_
  · rw [effects]
    exact List.mem_cons_self
  · rw [deadLettered (by decide)]
    exact List.mem_cons_self

end Freight
