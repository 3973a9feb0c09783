/-
Module: Freight.Observability.Context
Purpose: The context variable, and the delivery that hands its correlation id on through it.
Trusted boundary: none
Main exports:
  Context, Context.update, Observed, currentContext, observationContext,
  ObservedConsumer.processDelivery, ObservedConsumer.processDelivery_eq
-/
import Freight.Interaction.Interpretation
import Freight.Messaging.Consumer

namespace Freight

open Interaction (Computation Program)
open Interaction.Computation (ofExcept read modify tryExcept onExit withState)

/-! ## The variable -/

/-- What the context variable holds: a dictionary. -/
abbrev Context : Type := String → Option String

namespace Context

/-- The default of the variable counts as an empty dictionary. -/
def empty : Context := fun _ => none

/-- `{**current_context(), **fields}`. -/
def update (fields : List (String × String)) (context : Context) : Context :=
  fun name => (fields.lookup name).orElse fun _ => context name

end Context

/-- Code that runs in a context. -/
abbrev Observed (Op : Type) (Reply : Op → Type) (α : Type) : Type :=
  Computation Op Reply PyError Context α

section Contexts

variable {Op : Type} {Reply : Op → Type} {α : Type}

def currentContext : Observed Op Reply Context := read

/-- `with observation_context(...)`: the variable is set back on both exits. -/
def observationContext (fields : List (String × String)) (body : Observed Op Reply α) :
    Observed Op Reply α := do
  let token ← currentContext
  modify (Context.update fields)
  onExit body (modify fun _ => token)

end Contexts

/-! ## Deliveries -/

namespace ObservedConsumer

open Consumer (orElse)

/-- The worker's callable, which finds the correlation id in its context. -/
def handleEvent (event : ShipmentEvent) : Observed ChannelOp ChannelOp.Reply Unit := do
  let context ← currentContext
  Computation.call (ChannelOp.handleEvent ((context "correlation_id").getD "") event)

/-- The inner `try` statement.  The context that it enters is left with the `ExitStack`. -/
def tryHandling (decoders : Decoders) (body : Bytes) :
    Observed ChannelOp ChannelOp.Reply (Option PyError) :=
  tryExcept
    (do
      let message ← ofExcept (ShipmentEventMessage.fromJson decoders body)
      modify (Context.update
        [("message_id", message.messageId.str), ("event_id", message.eventId.str),
          ("shipment_id", message.shipmentId.str)])
      handleEvent message.toEvent
      pure none)
    (fun error => pure (some error))

/-- `process_delivery`. -/
def processDelivery (consumer : RabbitMQShipmentEventConsumer) (decoders : Decoders)
    (deliveryTag : Nat) (body : Bytes) (properties : Option BasicProperties) :
    Observed ChannelOp ChannelOp.Reply Unit := do
  let properties := properties.getD {}
  let identity ← withState ()
    (Consumer.correlationId (orElse properties.correlationId properties.messageId))
  let properties := { properties with correlationId := some identity }
  observationContext [("correlation_id", identity), ("component", "ingestion")] do
    let stack ← currentContext
    onExit
      (do
        match ← tryHandling decoders body with
        | some error =>
            withState ()
              (Consumer.handleFailure consumer deliveryTag (some properties) body error)
        | none => withState () (Consumer.ack deliveryTag))
      (modify fun _ => stack)

/-- Code that knows no context leaves nothing to set back. -/
theorem finishes (rest : Consuming Unit) (inner stack token : Context) :
    ((onExit (onExit (withState () rest) (modify fun _ => stack) :
        Observed ChannelOp ChannelOp.Reply Unit) (modify fun _ => token)) inner).bind
      (fun outcome => .done (outcome.1, ())) = rest () := by
  have each : ∀ program : Program ChannelOp (fun op => Except PyError op.Reply)
      (Except PyError Unit × Unit),
      ((onExit (onExit (withState () fun _ => program) (modify fun _ => stack) :
        Observed ChannelOp ChannelOp.Reply Unit) (modify fun _ => token)) inner).bind
      (fun outcome => .done (outcome.1, ())) = program := by
    intro program
    induction program with
    | done outcome => rfl
    | perform op resume inductionHypothesis =>
        exact congrArg (Program.perform op) (funext inductionHypothesis)
  exact each (rest ())

/-- What the delivery does once its identity is known. -/
theorem observed_eq (consumer : RabbitMQShipmentEventConsumer) (decoders : Decoders)
    (deliveryTag : Nat) (body : Bytes) (properties : Option BasicProperties) (identity : String)
    (context : Context) :
    withState context
      (observationContext [("correlation_id", identity), ("component", "ingestion")] (do
        let stack ← currentContext
        onExit
          (do
            match ← tryHandling decoders body with
            | some error =>
                withState () (Consumer.handleFailure consumer deliveryTag properties body error)
            | none => withState () (Consumer.ack deliveryTag))
          (modify fun _ => stack))) =
      (do
        match ← Consumer.tryHandling decoders identity body with
        | some error => Consumer.handleFailure consumer deliveryTag properties body error
        | none => Consumer.ack deliveryTag : Consuming Unit) := by
  funext state
  simp only [tryHandling, Consumer.tryHandling]
  cases ShipmentEventMessage.fromJson decoders body with
  | error error => exact finishes _ _ _ _
  | ok message =>
      refine congrArg (Program.perform _) (funext ?_)
      intro answer
      cases answer with
      | error error => exact finishes _ _ _ _
      | ok reply => exact finishes _ _ _ _

/-- Code that knows no context can be taken out of it. -/
theorem withState_bind {α : Type} (first : Consuming α)
    (next : α → Observed ChannelOp ChannelOp.Reply Unit) (context : Context) :
    withState context (withState () first >>= next) =
      first >>= fun value => withState context (next value) := by
  have each : ∀ program : Program ChannelOp (fun op => Except PyError op.Reply)
      (Except PyError α × Unit),
      withState context (withState () (fun _ => program) >>= next) () =
        ((fun _ => program : Consuming α) >>= fun value => withState context (next value)) () := by
    intro program
    induction program with
    | done outcome =>
        rcases outcome with ⟨error | value, state⟩
        · rfl
        · rfl
    | perform op resume inductionHypothesis =>
        exact congrArg (Program.perform op) (funext inductionHypothesis)
  exact funext fun _ => each (first ())

/-- The context hands on the identity that the delivery was given. -/
theorem processDelivery_eq (consumer : RabbitMQShipmentEventConsumer) (decoders : Decoders)
    (deliveryTag : Nat) (body : Bytes) (properties : Option BasicProperties)
    (context : Context) :
    withState context (processDelivery consumer decoders deliveryTag body properties) =
      Consumer.processDelivery consumer decoders deliveryTag body properties := by
  unfold processDelivery Consumer.processDelivery
  rw [withState_bind]
  refine congrArg _ (funext ?_)
  intro identity
  exact observed_eq consumer decoders deliveryTag body _ identity context

end ObservedConsumer

end Freight
