/-
Module: Freight.Proofs.DeliverySettlement
Purpose: When a delivery is settled.  It is, whenever the channel's calls return,
  unless it has failed under an attempt count that `int` does not accept.
Trusted boundary: none
Main exports:
  SettledDelivery, ReadableCount, delivery_settled_iff, unreadable_count_unsettled
-/
import Freight.Messaging.Channel

namespace Freight.Consumer

/-- A republication of a delivery: its own body, to the retry or the dead-letter
exchange. -/
def Republication.Carries (republication : Republication)
    (consumer : RabbitMQShipmentEventConsumer) (body : Bytes) : Prop :=
  republication.message.body = body ∧
    ((republication.exchange = consumer.retryExchange ∧
        republication.routingKey = retryRoutingKey) ∨
      (republication.exchange = consumer.deadLetterExchange ∧
        republication.routingKey = deadLetterRoutingKey))

/-- A delivery is settled: `process_delivery` returns, and it has acknowledged the
delivery once, as the last thing; where handling has failed, it has published the
body once before, and else nothing. -/
def SettledDelivery (consumer : RabbitMQShipmentEventConsumer) (deliveryTag : Nat)
    (body : Bytes) (handled : Except PyError Unit)
    (final : Except PyError Unit × Channel) : Prop :=
  final.1 = .ok () ∧
    match handled with
    | .ok _ => final.2.effects = [.acknowledged deliveryTag]
    | .error _ => ∃ republication : Republication,
        republication.Carries consumer body ∧
          final.2.effects = [.published republication, .acknowledged deliveryTag]

/-- Whether `int` accepts the attempt count of a delivery: there is none, or it is
a number or a literal of one. -/
def ReadableCount (properties : Option BasicProperties) : Prop :=
  ∀ value, (headersOf properties).lookup "x-attempt-count" = some value →
    ∃ count, value.toInt = .ok count

theorem readableCount_iff {properties : Option BasicProperties} :
    ReadableCount properties ↔
      ∃ count, attemptCount (headersOf properties) = .ok count := by
  unfold ReadableCount attemptCount
  cases (headersOf properties).lookup "x-attempt-count" with
  | none =>
      refine ⟨fun _ => ⟨1, rfl⟩, fun _ value found => ?_⟩
      cases found
  | some value =>
      constructor
      · exact fun readable => readable value rfl
      · rintro readable other ⟨⟩
        exact readable

theorem headersOf_getD (properties : Option BasicProperties) :
    headersOf (some (properties.getD {})) = headersOf properties := by
  cases properties <;> rfl

/-- Whatever is published for a failed delivery is a republication of it. -/
theorem republication_carries (consumer : RabbitMQShipmentEventConsumer)
    (properties : Option BasicProperties) (headers : Headers) (body : Bytes) (count : Int)
    (now : DateTime) (error : PyError) :
    (republication consumer properties headers body count now error).Carries consumer
      body := by
  unfold republication
  split
  · exact ⟨rfl, .inl ⟨rfl, rfl⟩⟩
  · exact ⟨rfl, .inr ⟨rfl, rfl⟩⟩

/-- A delivery on a channel whose calls return is settled if and only if it is
handled, or `int` accepts its attempt count. -/
theorem delivery_settled_iff (consumer : RabbitMQShipmentEventConsumer)
    (decoders : Decoders) (handleEvent : String → ShipmentEvent → Except PyError Unit)
    (now : DateTime) (uuid : UUID) (deliveryTag : Nat) (body : Bytes)
    (properties : Option BasicProperties) :
    let channel : Channel := { handleEvent, now, uuid }
    let handled := attempt decoders channel body (properties.getD {})
    SettledDelivery consumer deliveryTag body handled
        (deliver consumer decoders channel deliveryTag body properties) ↔
      handled = .ok () ∨ ReadableCount properties := by
  intro channel handled
  rw [deliver_eq, readableCount_iff]
  simp only [headersOf_getD]
  cases outcome : handled with
  | ok value =>
      have same : attempt decoders channel body (properties.getD {}) = .ok value := outcome
      rw [same]
      exact ⟨fun _ => .inl rfl, fun _ => ⟨rfl, rfl⟩⟩
  | error error =>
      have same : attempt decoders channel body (properties.getD {}) = .error error := outcome
      rw [same]
      cases attemptCount (headersOf properties) with
      | error raised =>
          constructor
          · rintro ⟨returned, -⟩
            cases returned
          · rintro (handled | ⟨count, readable⟩)
            · cases handled
            · cases readable
      | ok count =>
          refine ⟨fun _ => .inr ⟨count, rfl⟩, fun _ => ⟨rfl, ?_⟩⟩
          exact ⟨_, republication_carries consumer _ _ body count channel.now error, rfl⟩

/-! ## A delivery that is not settled -/

/-- The bytes of an ASCII text. -/
def ascii (text : String) : Bytes := text.toList.map fun character => .ofNat character.toNat

/-- Readers to which `not-json` is not JSON. -/
def strictDecoders : Decoders where
  loads body :=
    if body = ascii "not-json" then
      .error (.valueError "JSONDecodeError" "Expecting value: line 1 column 1 (char 0)")
    else .ok .null
  uuid _ := none
  fromisoformat _ := none

/-- Properties with an attempt count of `abc`. -/
def unreadable : BasicProperties :=
  { headers := some ((∅ : Headers).insert "x-attempt-count" (.str "abc")) }

/-- Not every delivery on a channel whose calls return is settled. -/
theorem unreadable_count_unsettled :
    ¬ ∀ (consumer : RabbitMQShipmentEventConsumer) (channel : Channel) (deliveryTag : Nat)
        (body : Bytes) (properties : BasicProperties), channel.effects = [] →
      SettledDelivery consumer deliveryTag body
        (attempt strictDecoders channel body properties)
        (deliver consumer strictDecoders channel deliveryTag body (some properties)) := by
  intro claim
  let channel : Channel :=
    { handleEvent := fun _ _ => .ok (), now := .utc 0, uuid := ⟨0⟩ }
  have returned : (deliver { exchange := "freight.shipment-events" } strictDecoders channel 9
      (ascii "not-json") (some unreadable)).1 = .ok () :=
    (claim _ channel 9 _ _ rfl).1
  have raised : (deliver { exchange := "freight.shipment-events" } strictDecoders channel 9
      (ascii "not-json") (some unreadable)).1 = .error AmqpValue.invalidLiteral := by
    decide +kernel
  rw [returned] at raised
  cases raised

end Freight.Consumer
