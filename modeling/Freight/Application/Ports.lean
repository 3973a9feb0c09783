/-
Module: Freight.Application.Ports
Purpose: The use cases that write to the stores, over the ports that their constructors
  take, and what is plugged into the ports: the SQLAlchemy repositories, or plain stores.
Trusted boundary: none
Main exports:
  Port, UseCase, UseCase.createShipment, UseCase.receiveShipmentEvent, sqlalchemy,
  UseCaseCall, UseCaseCall.implement_useCase, shareSessions, sharedSessions,
  sharedSessions_outcomes, InMemory, InMemory.service
-/
import Freight.Application.UseCases
import Freight.Interaction.Refinement
import Mathlib.Logic.Function.Basic

namespace Freight

open Interaction (Computation Exchange Program)
open Interaction.Computation (ofExcept raise withState implement implementProgram recorded
  attemptEach)

/-! ## Ports -/

/-- What a use case asks for: the methods of its repositories, `uuid4` and the clock. -/
inductive Port where
  | getShipment (shipmentId : UUID)
  | saveShipment (shipment : Shipment)
  | eventExists (eventId : UUID)
  | saveEvent (event : ShipmentEvent)
  | addMessage (message : RecordedEventMessage)
  | uuid4
  | now
deriving DecidableEq, Repr

/-- What a port returns. -/
def Port.Reply : Port → Type
  | .getShipment _ => Option Shipment
  | .eventExists _ => Bool
  | .uuid4 => UUID
  | .now => DateTime
  | _ => Unit

/-- A use case, which knows its ports only. -/
abbrev UseCase (α : Type) : Type := Computation Port Port.Reply PyError Unit α

namespace UseCase

/-! One call of each port. -/

def getShipment (shipmentId : UUID) : UseCase (Option Shipment) :=
  Computation.call (Port.getShipment shipmentId)

def saveShipment (shipment : Shipment) : UseCase Unit :=
  Computation.call (Port.saveShipment shipment)

def eventExists (eventId : UUID) : UseCase Bool := Computation.call (Port.eventExists eventId)

def saveEvent (event : ShipmentEvent) : UseCase Unit := Computation.call (Port.saveEvent event)

def addMessage (message : RecordedEventMessage) : UseCase Unit :=
  Computation.call (Port.addMessage message)

def uuid4 : UseCase UUID := Computation.call Port.uuid4

def now : UseCase DateTime := Computation.call Port.now

/-- `RecordedEventMessage.from_event`. -/
def record (event : ShipmentEvent) (correlationId : Option String) :
    UseCase RecordedEventMessage := do
  let messageId ← uuid4
  ofExcept (RecordedEventMessage.fromEvent messageId event correlationId)

/-- `CreateShipment.execute`. -/
def createShipment (correlationId : Option String) (input : CreateShipmentInput) :
    UseCase Shipment := do
  let createdAt ← now
  let id ← uuid4
  let shipment :=
    Shipment.create id input.referenceNumber input.origin input.destination input.carrier
      createdAt
  let eventId ← uuid4
  let receivedAt ← now
  let event := CreateShipment.createdEvent eventId shipment createdAt receivedAt
  saveShipment shipment
  saveEvent event
  let message ← record event correlationId
  addMessage message
  pure shipment

/-- `ReceiveShipmentEvent.execute`, once it has found the shipment. -/
def receiveFor (correlationId : Option String) (event : ShipmentEvent) (shipment : Shipment) :
    UseCase Shipment := do
  if ← eventExists event.eventId then
    pure shipment
  else
    let (result, shipment) := ShipmentEventHandler.handle shipment event
    let processingStatus ← ofExcept result
    let recordedEvent := { event with processingStatus := processingStatus }
    saveEvent recordedEvent
    saveShipment shipment
    let message ← record recordedEvent correlationId
    addMessage message
    pure shipment

/-- `ReceiveShipmentEvent.execute`. -/
def receiveShipmentEvent (correlationId : Option String) (event : ShipmentEvent) :
    UseCase Shipment := do
  if event.eventType = .shipmentCreated then
    raise (.invalidShipmentEvent event.eventType.value)
  else
    match ← getShipment event.shipmentId with
    | none => raise (.value ("Shipment " ++ event.shipmentId.str ++ " not found."))
    | some shipment => receiveFor correlationId event shipment

end UseCase

/-! ## The SQLAlchemy repositories -/

/-- The ports over one session. -/
def sqlalchemy : (port : Port) → Py port.Reply
  | .getShipment shipmentId => SQLAlchemyShipmentRepository.get shipmentId
  | .saveShipment shipment => SQLAlchemyShipmentRepository.save shipment
  | .eventExists eventId => SQLAlchemyShipmentEventRepository.exists eventId
  | .saveEvent event => SQLAlchemyShipmentEventRepository.save event
  | .addMessage message => SQLAlchemyOutboxRepository.add message
  | .uuid4 => call .uuid4
  | .now => call .now

/-- An execution of a use case. -/
inductive UseCaseCall where
  | createShipment (correlationId : Option String) (input : CreateShipmentInput)
  | receiveShipmentEvent (correlationId : Option String) (event : ShipmentEvent)
deriving DecidableEq, Repr

namespace UseCaseCall

/-- The use case over its ports. -/
def useCase : UseCaseCall → UseCase Shipment
  | .createShipment correlationId input => UseCase.createShipment correlationId input
  | .receiveShipmentEvent correlationId event =>
      UseCase.receiveShipmentEvent correlationId event

/-- The use case over one session. -/
def execute : UseCaseCall → Py Shipment
  | .createShipment correlationId input => CreateShipment.execute correlationId input
  | .receiveShipmentEvent correlationId event =>
      ReceiveShipmentEvent.execute correlationId event

end UseCaseCall

section Implementations

variable (shipmentId eventId : UUID) (shipment : Shipment) (event : ShipmentEvent)
  (message : RecordedEventMessage)

@[simp] theorem implement_getShipment :
    implement sqlalchemy (UseCase.getShipment shipmentId) =
      SQLAlchemyShipmentRepository.get shipmentId :=
  Computation.implement_call (Port.getShipment shipmentId)

@[simp] theorem implement_saveShipment :
    implement sqlalchemy (UseCase.saveShipment shipment) =
      SQLAlchemyShipmentRepository.save shipment :=
  Computation.implement_call (Port.saveShipment shipment)

@[simp] theorem implement_eventExists :
    implement sqlalchemy (UseCase.eventExists eventId) =
      SQLAlchemyShipmentEventRepository.exists eventId :=
  Computation.implement_call (Port.eventExists eventId)

@[simp] theorem implement_saveEvent :
    implement sqlalchemy (UseCase.saveEvent event) =
      SQLAlchemyShipmentEventRepository.save event :=
  Computation.implement_call (Port.saveEvent event)

@[simp] theorem implement_addMessage :
    implement sqlalchemy (UseCase.addMessage message) =
      SQLAlchemyOutboxRepository.add message :=
  Computation.implement_call (Port.addMessage message)

@[simp] theorem implement_uuid4 :
    implement sqlalchemy UseCase.uuid4 = (call .uuid4 : Py UUID) :=
  Computation.implement_call Port.uuid4

@[simp] theorem implement_now :
    implement sqlalchemy UseCase.now = (call .now : Py DateTime) :=
  Computation.implement_call Port.now

@[simp] theorem implement_record (correlationId : Option String) :
    implement sqlalchemy (UseCase.record event correlationId) =
      RecordedEventMessage.record event correlationId := by
  simp only [UseCase.record, Computation.implement_bind, implement_uuid4,
    Computation.implement_ofExcept]
  rfl

end Implementations

/-- With the SQLAlchemy repositories in its ports a use case is the code that runs in a
session. -/
theorem UseCaseCall.implement_useCase (execution : UseCaseCall) :
    implement sqlalchemy execution.useCase = execution.execute := by
  cases execution with
  | createShipment correlationId input =>
      simp only [UseCaseCall.useCase, UseCase.createShipment, Computation.implement_bind,
        implement_now, implement_uuid4, implement_saveShipment, implement_saveEvent,
        implement_record, implement_addMessage, Computation.implement_pure]
      rfl
  | receiveShipmentEvent correlationId event =>
      simp only [UseCaseCall.useCase, UseCaseCall.execute, UseCase.receiveShipmentEvent,
        ReceiveShipmentEvent.execute]
      split
      · rfl
      · rw [Computation.implement_bind, implement_getShipment]
        refine congrArg _ (funext ?_)
        intro shipment
        cases shipment with
        | none => rfl
        | some shipment =>
            simp only [UseCase.receiveFor]
            rw [Computation.implement_bind, implement_eventExists]
            refine congrArg _ (funext ?_)
            intro found
            cases found with
            | true => rfl
            | false =>
                simp only [Bool.false_eq_true, if_false, Computation.implement_bind,
                  implement_saveEvent, implement_saveShipment, implement_record,
                  implement_addMessage, Computation.implement_ofExcept,
                  Computation.implement_pure]

/-! ## Sessions -/

/-- Use-case calls in one session, which is committed whatever they have raised. -/
def shareSession (executions : List UseCaseCall) : Py (List (Except PyError Shipment)) := do
  let outcomes ← attemptEach UseCaseCall.execute executions
  Session.commit
  Session.close
  pure outcomes

/-- One session after the other, each for a group of executions. -/
def shareSessions : List (List UseCaseCall) →
    Computation Statement Reply PyError Unit (List (List (Except PyError Shipment)))
  | [] => pure []
  | executions :: groups => do
      let outcomes ← withState {} (shareSession executions)
      let rest ← shareSessions groups
      pure (outcomes :: rest)

/-- A call of a port, and what it has returned or raised. -/
abbrev PortCall : Type := Exchange Port fun port => Except PyError port.Reply

/-- What came of a session: what its ports were asked and have answered, and what its
executions have returned or raised. -/
structure Visit where
  said : List PortCall
  outcomes : List (Except PyError Shipment)

/-- The session, with the record of its ports. -/
def sharedSession (executions : List UseCaseCall) :
    Computation Statement Reply PyError Unit Visit :=
  fun _ =>
    (implementProgram (recorded sqlalchemy) (attemptEach UseCaseCall.useCase executions ())
        ({}, [])).bind fun final =>
      match final.1.1 with
      | .error error => .done (.error error, ())
      | .ok outcomes =>
          ((do Session.commit; Session.close : Py Unit) final.2.1).bind fun closed =>
            .done (closed.1.map fun _ => { said := final.2.2, outcomes := outcomes }, ())

/-- The sessions, with the records of their ports. -/
def sharedSessions : List (List UseCaseCall) →
    Computation Statement Reply PyError Unit (List Visit)
  | [] => pure []
  | executions :: groups => do
      let visit ← sharedSession executions
      let visits ← sharedSessions groups
      pure (visit :: visits)

/-- Without the record it is the session. -/
theorem sharedSession_outcomes (executions : List UseCaseCall) :
    (do let visit ← sharedSession executions; pure visit.outcomes) =
      withState {} (shareSession executions) := by
  have code : attemptEach UseCaseCall.execute executions =
      implement sqlalchemy (attemptEach UseCaseCall.useCase executions) := by
    rw [Computation.implement_attemptEach]
    exact congrArg (attemptEach · executions)
      (funext fun execution => execution.implement_useCase.symm)
  funext state
  simp only [shareSession, code]
  refine Eq.trans (Program.bind_assoc _ _ _) (Eq.symm ?_)
  refine Eq.trans (Program.bind_assoc _ _ _) ?_
  refine Eq.trans (Program.bind_assoc _ _ _) ?_
  rw [← Computation.implementProgram_recorded _ _ []]
  refine Eq.trans (Program.bind_assoc _ _ _) (congrArg _ (funext ?_))
  rintro ⟨⟨outcomes | outcomes, _⟩, session, said⟩
  · rfl
  · refine Eq.trans (Program.bind_assoc _ _ _) (Eq.symm ?_)
    refine Eq.trans (Program.bind_assoc _ _ _) ?_
    refine Eq.trans (Program.bind_assoc _ _ _) (congrArg _ (funext ?_))
    rintro ⟨committed | committed, last⟩
    · rfl
    · refine Eq.symm (Eq.trans (Program.bind_assoc _ _ _) (congrArg _ (funext ?_)))
      rintro ⟨closed | closed, left⟩
      · rfl
      · rfl

/-- Without the records they are the sessions. -/
theorem sharedSessions_outcomes (groups : List (List UseCaseCall)) :
    (do let visits ← sharedSessions groups; pure (visits.map Visit.outcomes)) =
      shareSessions groups := by
  induction groups with
  | nil => rfl
  | cons executions groups inductionHypothesis =>
      rw [shareSessions, ← sharedSession_outcomes, ← inductionHypothesis]
      funext state
      refine Eq.trans (Program.bind_assoc _ _ _) (Eq.symm ?_)
      refine Eq.trans (Program.bind_assoc _ _ _) (congrArg _ (funext ?_))
      rintro ⟨visit | visit, middle⟩
      · rfl
      · refine Eq.trans (Program.bind_assoc _ _ _) (Eq.symm ?_)
        refine Eq.trans (Program.bind_assoc _ _ _) (congrArg _ (funext ?_))
        rintro ⟨visits | visits, last⟩
        · rfl
        · rfl

/-! ## Plain stores

The stores of the unit tests.  Their `get` hands out the stored object itself, which the
handler then changes in place; as nothing raises between that change and the `save` of the
same object, handing out a copy comes to the same. -/

/-- Two dictionaries and a list. -/
structure InMemory where
  shipments : UUID → Option Shipment := fun _ => none
  events : List ShipmentEvent := []
  messages : UUID → Option RecordedEventMessage := fun _ => none

namespace InMemory

def saveShipment (shipment : Shipment) (memory : InMemory) : InMemory :=
  { memory with
    shipments := Function.update memory.shipments shipment.id (some shipment) }

def «exists» (eventId : UUID) (memory : InMemory) : Bool :=
  memory.events.any fun event => event.eventId = eventId

def saveEvent (event : ShipmentEvent) (memory : InMemory) : InMemory :=
  { memory with events := memory.events ++ [event] }

def addMessage (message : RecordedEventMessage) (memory : InMemory) : InMemory :=
  { memory with
    messages := Function.update memory.messages message.messageId (some message) }

theorem saveShipment_self (shipment : Shipment) (memory : InMemory) :
    (memory.saveShipment shipment).shipments shipment.id = some shipment :=
  Function.update_self _ _ _

theorem saveShipment_of_ne {shipment : Shipment} {id : UUID} (apart : shipment.id ≠ id)
    (memory : InMemory) : (memory.saveShipment shipment).shipments id = memory.shipments id :=
  Function.update_of_ne (Ne.symm apart) _ _

/-- The ports over plain stores, given what `uuid4` and the clock answer. -/
def perform : (port : Port) → port.Reply → InMemory → port.Reply × InMemory
  | .getShipment shipmentId, _, memory => (memory.shipments shipmentId, memory)
  | .saveShipment shipment, _, memory => ((), memory.saveShipment shipment)
  | .eventExists eventId, _, memory => (memory.exists eventId, memory)
  | .saveEvent event, _, memory => ((), memory.saveEvent event)
  | .addMessage message, _, memory => ((), memory.addMessage message)
  | .uuid4, given, memory => (given, memory)
  | .now, given, memory => (given, memory)

/-- Plain stores as an implementation of the ports. -/
def service : Program.Service Port (fun port => Except PyError port.Reply) InMemory :=
  fun port answer before after =>
    ∃ given, answer = .ok (perform port given before).1 ∧ after = (perform port given before).2

end InMemory

end Freight
