/-
Module: Freight.Proofs.PlainStores
Purpose: The SQLAlchemy repositories refine plain stores: whatever sequence of executions is
  grouped into whatever sessions, the ports answer alike and the tables end up alike.
Trusted boundary: none
Main exports:
  PortCall.Same, Follows, follows_createShipment, follows_receiveShipmentEvent,
  repositories_refine_plain_stores
-/
import Freight.Application.EventSchema
import Freight.Store.Invariant
import Freight.Store.Mirror

namespace Freight

open Interaction (Computation Contract ProcessId Program)
open Interaction.Computation (service implementProgram recorded attemptEach)

/-! ## The same calls -/

/-- The same call of a port with the same answer, for shipments up to Python's equality. -/
inductive PortCall.Same : PortCall → PortCall → Prop where
  | getShipment (shipmentId : UUID) {one two : Option Shipment}
      (same : Option.Rel Shipment.Equal one two) :
      Same ⟨.getShipment shipmentId, .ok one⟩ ⟨.getShipment shipmentId, .ok two⟩
  | saveShipment {one two : Shipment} (same : one.Equal two) :
      Same ⟨.saveShipment one, .ok ()⟩ ⟨.saveShipment two, .ok ()⟩
  | eventExists (eventId : UUID) (found : Bool) :
      Same ⟨.eventExists eventId, .ok found⟩ ⟨.eventExists eventId, .ok found⟩
  | saveEvent (event : ShipmentEvent) : Same ⟨.saveEvent event, .ok ()⟩ ⟨.saveEvent event, .ok ()⟩
  | addMessage (message : RecordedEventMessage) :
      Same ⟨.addMessage message, .ok ()⟩ ⟨.addMessage message, .ok ()⟩
  | uuid4 (id : UUID) : Same ⟨.uuid4, .ok id⟩ ⟨.uuid4, .ok id⟩
  | now (value : DateTime) : Same ⟨.now, .ok value⟩ ⟨.now, .ok value⟩

/-- Code over the ports of a session, and code over plain stores that follows it. -/
abbrev Follows (server : Server) (process : ProcessId) {α : Type}
    (post : Except PyError α → Except PyError α → Session × World → InMemory → Prop)
    (one two : UseCase α) : Session × World → InMemory → Prop :=
  Computation.Refines (service sqlalchemy (server.perform process)) InMemory.service
    PortCall.Same post one two

section Ports

variable {server : Server} {process : ProcessId} {database : Database}
  {issued : UUID → Bool} {session : Session} {world : World} {memory : InMemory} {α : Type}
  {post : Except PyError α → Except PyError α → Session × World → InMemory → Prop}

/-- The rule for one call: what is verified of the repository, the plain store does too. -/
theorem follows_call {port other : Port} {next : port.Reply → UseCase α}
    {follow : other.Reply → UseCase α}
    (verified : (Contract.alone (server.perform process)).holds (sqlalchemy port)
      (fun answer last after => ∃ value reply reached, answer = .ok value ∧
        InMemory.service other (.ok reply) memory reached ∧
        PortCall.Same ⟨port, .ok value⟩ ⟨other, .ok reply⟩ ∧
        Follows server process post (next value) (follow reply) (last, after) reached)
      session world) :
    Follows server process post (Computation.call port >>= next)
      (Computation.call other >>= follow) (session, world) memory := by
  refine Computation.Refines.call_bind ?_
  intro answer after carried
  exact Computation.service_of_holds verified carried

theorem follows_now {next follow : DateTime → UseCase α} (faultless : server.Faultless)
    (established : ∀ value, value.utcoffset = some 0 →
      Follows server process post (next value) (follow value) (session, world) memory) :
    Follows server process post (UseCase.now >>= next) (UseCase.now >>= follow)
      (session, world) memory := by
  refine follows_call (Lone.holds_now faultless ?_)
  intro value utc
  exact ⟨value, value, memory, rfl, ⟨value, rfl, rfl⟩, .now value, established value utc⟩

theorem follows_uuid4 {next follow : UUID → UseCase α} (faultless : server.Faultless)
    (lone : Lone process database issued world)
    (established : ∀ id after, issued id = false →
      Lone process database (fun other => issued other || decide (id = other)) after →
      Follows server process post (next id) (follow id) (session, after) memory) :
    Follows server process post (UseCase.uuid4 >>= next) (UseCase.uuid4 >>= follow)
      (session, world) memory := by
  refine follows_call (lone.holds_uuid4 faultless ?_)
  intro id after unused drawn
  exact ⟨id, id, memory, rfl, ⟨id, rfl, rfl⟩, .uuid4 id, established id after unused drawn⟩

theorem follows_saveEvent {event : ShipmentEvent} {next follow : Unit → UseCase α}
    (faultless : server.Faultless)
    (established : Follows server process post (next ()) (follow ())
      ({ session with newEvents := session.newEvents ++ [EventMapper.toModel event] }, world)
      (memory.saveEvent event)) :
    Follows server process post (UseCase.saveEvent event >>= next)
      (UseCase.saveEvent event >>= follow) (session, world) memory := by
  refine follows_call (Lone.holds_saveEvent faultless ?_)
  exact ⟨(), (), _, rfl, ⟨(), rfl, rfl⟩, .saveEvent event, established⟩

/-- `RecordedEventMessage.from_event`, of an event with an object as its payload. -/
theorem follows_record {event : ShipmentEvent} {correlationId : Option String}
    {next follow : RecordedEventMessage → UseCase α} (faultless : server.Faultless)
    (lone : Lone process database issued world) (object : event.payload.plain.isDict = true)
    (established : ∀ message after, message.eventId = event.eventId →
      issued message.messageId = false →
      Lone process database (fun other => issued other || decide (message.messageId = other))
        after →
      Follows server process post (next message) (follow message) (session, after) memory) :
    Follows server process post (UseCase.record event correlationId >>= next)
      (UseCase.record event correlationId >>= follow) (session, world) memory := by
  refine Computation.Refines.bind_returned ?_
  refine follows_uuid4 faultless lone ?_
  intro id after unused drawn
  refine Program.refines_done ?_
  refine ⟨_, _, if_pos object, if_pos object, ?_⟩
  exact established _ after rfl unused drawn

end Ports

/-! ## The use cases -/

/-- What an execution has returned or raised, for shipments up to Python's equality. -/
inductive SameOutcome : Except PyError Shipment → Except PyError Shipment → Prop where
  | returned {one two : Shipment} (equal : one.Equal two) : SameOutcome (.ok one) (.ok two)
  | raised (error : PyError) : SameOutcome (.error error) (.error error)

/-- Between two executions of a session: the session and the tables stand for the plain
stores, no spare reference number is in use, and no known identifier is handed out. -/
def Paired (server : Server) (process : ProcessId) (known : List UUID) (spare : List String)
    (state : Session × World) (memory : InMemory) : Prop :=
  ∃ objects pending database issued,
    state.1 = { shipments := objects, newOutboxEvents := pending } ∧
      Lone process database issued state.2 ∧
      Mirrors server.postgres objects pending database issued spare memory ∧
      ∀ id ∈ known, issued id = true

section UseCases

variable {server : Server} {process : ProcessId} {objects : List (Tracked ShipmentModel)}
  {pending : List OutboxEventModel} {database : Database} {issued : UUID → Bool}
  {known : List UUID} {spare : List String} {world : World} {memory : InMemory}

/-- A creation. -/
theorem follows_createShipment {correlationId : Option String} {input : CreateShipmentInput}
    (faultless : server.Faultless) (nulls : server.postgres.float8 .null = .null)
    (distinct : input.referenceNumber ∉ spare) (lone : Lone process database issued world)
    (mirrors : Mirrors server.postgres objects pending database issued
      (input.referenceNumber :: spare) memory)
    (lasting : ∀ id ∈ known, issued id = true) :
    Follows server process
      (fun outcome last after final =>
        SameOutcome outcome last ∧ Paired server process known spare after final)
      (UseCase.createShipment correlationId input) (UseCase.createShipment correlationId input)
      ({ shipments := objects, newOutboxEvents := pending }, world) memory := by
  unfold UseCase.createShipment
  refine follows_now faultless ?_
  intro createdAt utc
  refine follows_uuid4 faultless lone ?_
  intro id after unused lone
  refine follows_uuid4 faultless lone ?_
  intro eventId after unusedEvent lone
  refine follows_now faultless ?_
  intro receivedAt received
  have noEvent : issued eventId = false := by
    simp only [Bool.or_eq_false_iff] at unusedEvent
    exact unusedEvent.1
  obtain ⟨fresh, -, -⟩ := mirrors.fresh unused
  obtain ⟨-, freshEvent, -⟩ := mirrors.fresh noEvent
  refine follows_call (lone.holds_save_new faultless (mirrors.untracked fresh) fresh ?_)
  intro after lone
  refine ⟨(), (), _, rfl, ⟨(), rfl, rfl⟩, .saveShipment (Shipment.Equal.refl _), ?_⟩
  refine follows_saveEvent faultless ?_
  refine follows_record faultless lone rfl ?_
  intro message after announces unusedMessage lone
  have unusedReference : ∀ other ∈ database.shipments,
      other.referenceNumber ≠ input.referenceNumber := by
    intro other member same
    exact mirrors.references other member (same ▸ List.mem_cons_self)
  have source : server.postgres.varchar (.str "platform") ≠ .null := by
    rw [server.postgres.varchar_str]
    exact Json.noConfusion
  refine follows_call
    (lone.holds_add_created faultless rfl rfl fresh unusedReference source freshEvent rfl ?_)
  intro now after lone
  refine ⟨(), (), _, rfl, ⟨(), rfl, rfl⟩, .addMessage message, ?_⟩
  refine Program.refines_done
    ⟨.returned (Shipment.Equal.refl _), _, _, _, _, rfl, lone, ?_,
      fun other member => by simp [lasting other member]⟩
  have noMessage : issued message.messageId = false := by
    simp only [Bool.or_eq_false_iff] at unusedMessage
    exact unusedMessage.1.1
  have unset : server.postgres.Exact .null := .inl nulls
  have proper : (Shipment.create id input.referenceNumber input.origin input.destination
      input.carrier createdAt).Proper server.postgres :=
    { createdAt := by simp [Shipment.create, DateTime.aware, utc]
      updatedAt := by simp [Shipment.create, DateTime.aware, utc]
      currentLatitude := unset
      currentLongitude := unset
      lastLocationAt := fun clock absent => by cases absent
      lastLifecycleAt := fun clock absent => by cases absent }
  have typed : (CreateShipment.createdEvent eventId (Shipment.create id input.referenceNumber
      input.origin input.destination input.carrier createdAt) createdAt receivedAt).WellTyped :=
    ⟨⟨"platform", rfl⟩, by simp [CreateShipment.createdEvent, DateTime.aware, utc],
      by simp [CreateShipment.createdEvent, DateTime.aware, received]⟩
  have grown : Mirrors server.postgres objects pending database
      (fun other => ((issued other || decide (id = other)) || decide (eventId = other)) ||
        decide (message.messageId = other)) (input.referenceNumber :: spare) memory :=
    mirrors.weaken (fun other known => by simp [known]) fun _ member => member
  refine Mirrors.addMessage ?_ message
  refine (grown.insertShipment distinct proper fresh (by simp [Shipment.create])).record typed
    freshEvent (by simp [CreateShipment.createdEvent]) announces (mirrors.fresh noMessage).2.2
    (by simp [SQLAlchemyOutboxRepository.model])

/-- A reception, from the shipment that both have found. -/
theorem follows_receiveFor {correlationId : Option String} {event : ShipmentEvent}
    {row : ShipmentModel} {tracked : Tracked ShipmentModel} {two : Shipment}
    (faultless : server.Faultless)
    (proper : event.Proper server.postgres.Exact) (member : event.eventId ∈ known)
    (lone : Lone process database issued world)
    (mirrors : Mirrors server.postgres objects pending database issued spare memory)
    (lasting : ∀ id ∈ known, issued id = true)
    (found : database.shipment event.shipmentId = some row)
    (object : tracked =
      (Table.lookup Tracked.key objects event.shipmentId).getD { loaded := row })
    (held : memory.shipments event.shipmentId = some two)
    (equal : (ShipmentMapper.toDomain tracked.current).Equal two) :
    Follows server process
      (fun outcome last after final =>
        SameOutcome outcome last ∧ Paired server process known spare after final)
      (UseCase.receiveFor correlationId event (ShipmentMapper.toDomain tracked.current))
      (UseCase.receiveFor correlationId event two)
      ({ shipments := objects, newOutboxEvents := pending }, world) memory := by
  unfold UseCase.receiveFor
  refine follows_call (lone.holds_exists faultless ?_)
  intro after lone
  rw [mirrors.exists_iff]
  refine ⟨_, memory.exists event.eventId, memory, rfl, ⟨false, rfl, rfl⟩, .eventExists _ _, ?_⟩
  cases recorded : memory.exists event.eventId with
  | true =>
      rw [if_pos rfl, if_pos rfl]
      refine Computation.Refines.pure ?_
      exact ⟨.returned equal, objects, pending, database, issued, rfl, lone, mirrors, lasting⟩
  | false =>
      rw [if_neg Bool.false_ne_true, if_neg Bool.false_ne_true]
      obtain ⟨sameResult, moved⟩ := ShipmentEventHandler.handle_equal equal event
      cases handledOne : ShipmentEventHandler.handle (ShipmentMapper.toDomain tracked.current)
        event with
      | mk result one =>
      cases handledTwo : ShipmentEventHandler.handle two event with
      | mk answer after =>
      rw [handledOne, handledTwo] at sameResult moved
      cases sameResult
      cases result with
      | error error =>
          refine Program.refines_done ?_
          exact ⟨.raised error, objects, pending, database, issued, rfl, lone, mirrors, lasting⟩
      | ok status =>
          obtain ⟨kept, reference⟩ := proper.handle (mirrors.proper _ _ held) handledTwo
          obtain ⟨key, -, sameId, unused, written⟩ := mirrors.object found object
          have oneId : one.id = event.shipmentId :=
            (ShipmentEventHandler.handle_id handledOne).trans sameId
          have there : database.shipment one.id = some row := oneId ▸ found
          have assigned : tracked =
              (Table.lookup Tracked.key objects one.id).getD { loaded := row } := oneId ▸ object
          have oneUnused : one.referenceNumber ∉ spare := by
            rw [moved.referenceNumber, reference, ← equal.referenceNumber]
            exact unused
          have freshEvent : database.event event.eventId = none := by
            have unrecorded := mirrors.exists_iff event.eventId
            rw [recorded] at unrecorded
            simpa using unrecorded
          have source : server.postgres.varchar event.source ≠ .null := by
            obtain ⟨text, isText⟩ := proper.typed.source
            rw [isText, server.postgres.varchar_str]
            exact Json.noConfusion
          have parent : (database.shipment event.shipmentId).isSome := by
            rw [found]
            rfl
          refine Computation.Refines.ofExcept_bind (fun error failed => by cases failed) ?_
          intro value returned
          cases returned
          refine follows_saveEvent faultless ?_
          refine follows_call (lone.holds_save_present faultless there ?_)
          intro reloaded lone
          refine ⟨(), (), _, rfl, ⟨(), rfl, rfl⟩, .saveShipment moved, ?_⟩
          refine follows_record faultless lone proper.object ?_
          intro message reached announces unusedMessage lone
          refine follows_call (lone.holds_add faultless rfl rfl source freshEvent parent ?_)
          intro now reached lone
          refine ⟨(), (), _, rfl, ⟨(), rfl, rfl⟩, .addMessage message, ?_⟩
          refine Program.refines_done
            ⟨.returned moved, _, _, _, _, rfl, lone, ?_,
              fun other member => by simp [lasting other member]⟩
          have grown : Mirrors server.postgres objects pending database
              (fun other => issued other || decide (message.messageId = other)) spare memory :=
            mirrors.weaken (fun other known => by simp [known]) fun _ member => member
          have typed : ShipmentEvent.WellTyped { event with processingStatus := status } :=
            ⟨proper.typed.source, proper.typed.occurredAt, proper.typed.receivedAt⟩
          refine Mirrors.addMessage ?_ message
          have recorded : Mirrors server.postgres objects
              (pending ++ [SQLAlchemyOutboxRepository.model message now]) _ _ spare _ :=
            grown.record typed freshEvent (by simp [lasting _ member]) announces
              (mirrors.fresh unusedMessage).2.2 (by simp [SQLAlchemyOutboxRepository.model])
          have assignment := recorded.assign (key.trans oneId.symm) there written moved kept
            oneUnused
          rw [assigned] at assignment
          exact assignment

/-- A reception. -/
theorem follows_receiveShipmentEvent {correlationId : Option String} {event : ShipmentEvent}
    (faultless : server.Faultless) (proper : event.Proper server.postgres.Exact)
    (member : event.eventId ∈ known) (lone : Lone process database issued world)
    (mirrors : Mirrors server.postgres objects pending database issued spare memory)
    (lasting : ∀ id ∈ known, issued id = true) :
    Follows server process
      (fun outcome last after final =>
        SameOutcome outcome last ∧ Paired server process known spare after final)
      (UseCase.receiveShipmentEvent correlationId event)
      (UseCase.receiveShipmentEvent correlationId event)
      ({ shipments := objects, newOutboxEvents := pending }, world) memory := by
  unfold UseCase.receiveShipmentEvent
  by_cases created : event.eventType = .shipmentCreated
  · rw [if_pos created]
    refine Computation.Refines.raise ?_
    exact ⟨.raised _, objects, pending, database, issued, rfl, lone, mirrors, lasting⟩
  rw [if_neg created]
  have same := mirrors.shipments event.shipmentId
  refine follows_call (lone.holds_get faultless ?_ ?_)
  · intro missing after lone
    rw [attributes, mirrors.untracked missing, missing] at same
    refine ⟨none, memory.shipments event.shipmentId, memory, rfl, ⟨none, rfl, rfl⟩,
      .getShipment _ same, ?_⟩
    cases held : memory.shipments event.shipmentId with
    | some two =>
        rw [held] at same
        cases same
    | none =>
        refine Computation.Refines.raise ?_
        exact ⟨.raised _, objects, pending, database, issued, rfl, lone, mirrors, lasting⟩
  · intro row found after lone
    obtain ⟨-, seen, -⟩ := mirrors.object found rfl
    rw [seen] at same
    refine ⟨_, memory.shipments event.shipmentId, memory, rfl, ⟨none, rfl, rfl⟩,
      .getShipment _ same, ?_⟩
    cases held : memory.shipments event.shipmentId with
    | none =>
        rw [held] at same
        cases same
    | some two =>
        rw [held] at same
        cases same with
        | some equal =>
            exact follows_receiveFor faultless proper member lone mirrors lasting found rfl held
              equal

end UseCases

/-! ## Sequences of executions -/

/-- The reference number that an execution takes into use. -/
def UseCaseCall.reference : UseCaseCall → Option String
  | .createShipment _ input => some input.referenceNumber
  | .receiveShipmentEvent _ _ => none

/-- The identifier that an execution brings along. -/
def UseCaseCall.eventId : UseCaseCall → Option UUID
  | .createShipment _ _ => none
  | .receiveShipmentEvent _ event => some event.eventId

/-- A reception of a proper event. -/
def UseCaseCall.Proper (coordinate : Json → Prop) : UseCaseCall → Prop
  | .createShipment _ _ => True
  | .receiveShipmentEvent _ event => event.Proper coordinate

/-- What is left to execute, in a state from which it can be. -/
structure Remaining (server : Server) (process : ProcessId) (known : List UUID)
    (executions : List UseCaseCall) (state : Session × World) (memory : InMemory) : Prop where
  paired : Paired server process known (executions.filterMap UseCaseCall.reference) state memory
  distinct : (executions.filterMap UseCaseCall.reference).Nodup
  proper : ∀ execution ∈ executions, execution.Proper server.postgres.Exact
  foreign : ∀ execution ∈ executions, ∀ eventId ∈ execution.eventId, eventId ∈ known

section Sessions

variable {server : Server} {process : ProcessId} {known : List UUID} {session : Session}
  {world : World} {memory : InMemory}

/-- Step lemma: one execution. -/
theorem follows_execution (faultless : server.Faultless)
    (nulls : server.postgres.float8 .null = .null) (execution : UseCaseCall)
    (executions : List UseCaseCall) (state : Session × World) (memory : InMemory)
    (remaining : Remaining server process known (execution :: executions) state memory) :
    Follows server process
      (fun outcome last after final =>
        SameOutcome outcome last ∧ Remaining server process known executions after final)
      execution.useCase execution.useCase state memory := by
  obtain ⟨paired, distinct, proper, foreign⟩ := remaining
  obtain ⟨session, world⟩ := state
  obtain ⟨objects, pending, database, issued, same, lone, mirrors, lasting⟩ := paired
  cases same
  have left : ∀ {after : Session × World} {final : InMemory},
      Paired server process known (executions.filterMap UseCaseCall.reference) after final →
      (executions.filterMap UseCaseCall.reference).Nodup →
      Remaining server process known executions after final := by
    intro after final paired distinct
    exact
      { paired := paired
        distinct := distinct
        proper := fun other member => proper other (List.mem_cons_of_mem _ member)
        foreign := fun other member => foreign other (List.mem_cons_of_mem _ member) }
  cases execution with
  | createShipment correlationId input =>
      obtain ⟨unused, distinct⟩ := List.nodup_cons.mp distinct
      intro said value after served
      obtain ⟨heard, last, final, answered, all, outcome, paired⟩ :=
        follows_createShipment faultless nulls unused lone mirrors lasting said value after served
      exact ⟨heard, last, final, answered, all, outcome, left paired distinct⟩
  | receiveShipmentEvent correlationId event =>
      intro said value after served
      obtain ⟨heard, last, final, answered, all, outcome, paired⟩ :=
        follows_receiveShipmentEvent faultless (proper _ List.mem_cons_self)
          (foreign _ List.mem_cons_self event.eventId rfl) lone mirrors lasting said value after
          served
      exact ⟨heard, last, final, answered, all, outcome, left paired distinct⟩

/-- The end of a session leaves everything to the tables. -/
theorem Paired.finish {spare : List String} {post : Contract.Post PyError Session World Unit}
    (paired : Paired server process known spare (session, world) memory)
    (faultless : server.Faultless)
    (established : ∀ last after, Paired server process known spare ({}, after) memory →
      after.writes process = [] → post (.ok ()) last after) :
    (Contract.alone (server.perform process)).holds
      (do Session.commit; Session.close) post session world := by
  obtain ⟨objects, pending, database, issued, same, lone, mirrors, lasting⟩ := paired
  cases same
  have present : ∀ tracked ∈ objects, (database.shipment tracked.loaded.id).isSome := by
    intro tracked member
    obtain ⟨row, found, -⟩ := mirrors.loaded tracked member
    exact Option.isSome_iff_exists.mpr ⟨row, found⟩
  apply Contract.holds_bind
  apply Contract.holds_bind
  refine lone.holds_flush faultless rfl rfl rfl mirrors.accepts present ?_
  intro last flushed lone
  refine lone.holds_commit faultless ?_
  intro committed lone clean
  refine lone.holds_rollback faultless clean ?_
  intro closed lone clean
  exact established last closed ⟨[], [], _, issued, rfl, lone, mirrors.flush, lasting⟩ clean

/-- One session: the plain stores serve the same executions. -/
theorem session_follows (faultless : server.Faultless)
    (nulls : server.postgres.float8 .null = .null) (executions later : List UseCaseCall)
    (remaining : Remaining server process known (executions ++ later) ({}, world) memory) :
    (Contract.alone (server.perform process)).wp (sharedSession executions ())
      (fun final after => ∃ visit heard answers reached, final.1 = .ok visit ∧
        Program.Served InMemory.service (attemptEach UseCaseCall.useCase executions ()) memory
          heard (.ok answers, ()) reached ∧
        List.Forall₂ PortCall.Same visit.said heard ∧
        List.Forall₂ SameOutcome visit.outcomes answers ∧
        Remaining server process known later ({}, after) reached ∧ after.writes process = [])
      world := by
  apply Contract.wp_bind
  refine Contract.wp_mono ?_ Computation.served_of_run
  rintro ⟨⟨result, _⟩, session, log⟩ after ⟨said, noted, served⟩
  obtain ⟨heard, ⟨last, _⟩, reached, answered, all, outcomes, answers, returned, replied, alike,
    left⟩ := Computation.Refines.attemptEach (follows_execution faultless nulls) executions later
      remaining said _ _ served
  cases returned
  cases replied
  cases noted
  apply Contract.wp_bind
  have finished : (Contract.alone (server.perform process)).holds
      (do Session.commit; Session.close)
      (fun outcome _ after => outcome = .ok () ∧
        Paired server process known (later.filterMap UseCaseCall.reference) ({}, after) reached ∧
        after.writes process = []) session after :=
    left.paired.finish faultless fun _ _ paired clean => ⟨rfl, paired, clean⟩
  refine Contract.wp_mono ?_ finished
  rintro ⟨closed, _⟩ final ⟨committed, paired, clean⟩
  cases committed
  exact ⟨_, heard, answers, reached, rfl, answered, all, alike, { left with paired := paired },
    clean⟩

/-- Run lemma: any sessions, one after the other. -/
theorem sessions_follow (faultless : server.Faultless)
    (nulls : server.postgres.float8 .null = .null) (groups : List (List UseCaseCall)) :
    ∀ {world : World} {memory : InMemory},
      Remaining server process known groups.flatten ({}, world) memory →
      world.writes process = [] →
      (Contract.alone (server.perform process)).wp (sharedSessions groups ())
        (fun final after => ∃ visits heard answers reached, final.1 = .ok visits ∧
          Program.Served InMemory.service
            (attemptEach UseCaseCall.useCase groups.flatten ()) memory heard
            (.ok answers, ()) reached ∧
          List.Forall₂ PortCall.Same (visits.flatMap Visit.said) heard ∧
          List.Forall₂ SameOutcome (visits.flatMap Visit.outcomes) answers ∧
          Remaining server process known [] ({}, after) reached ∧ after.writes process = [])
        world := by
  induction groups with
  | nil =>
      intro world memory remaining clean
      exact ⟨[], [], [], memory, rfl, .done _ _, .nil, .nil, remaining, clean⟩
  | cons executions groups inductionHypothesis =>
      intro world memory remaining clean
      apply Contract.wp_bind
      refine Contract.wp_mono ?_
        (session_follows faultless nulls executions groups.flatten remaining)
      rintro ⟨outcome, _⟩ after
        ⟨visit, heard, answers, reached, returned, answered, all, alike, left, clean⟩
      cases returned
      apply Contract.wp_bind
      refine Contract.wp_mono ?_ (inductionHypothesis left clean)
      rintro ⟨outcomes, _⟩ final
        ⟨visits, more, others, finish, returned, followed, rest, same, ended, clean⟩
      cases returned
      exact ⟨visit :: visits, heard ++ more, answers ++ others, finish, rfl,
        Computation.served_attemptEach_append executions answered followed,
        List.rel_append all rest, List.rel_append alike same, ended, clean⟩

end Sessions

/-! ## The refinement -/

/-- What plain stores come to for the same executions: the same calls with the same
answers, the same outcomes, and at the end the same shipments and events as the tables. -/
structure PlainStores (groups : List (List UseCaseCall)) (visits : List Visit)
    (database : Database) (heard : List PortCall) (answers : List (Except PyError Shipment))
    (memory : InMemory) : Prop where
  served : Program.Served InMemory.service (attemptEach UseCaseCall.useCase groups.flatten ()) {}
    heard (.ok answers, ()) memory
  calls : List.Forall₂ PortCall.Same (visits.flatMap Visit.said) heard
  outcomes : List.Forall₂ SameOutcome (visits.flatMap Visit.outcomes) answers
  shipments : ∀ id, Option.Rel Shipment.Equal
    ((database.shipment id).map ShipmentMapper.toDomain) (memory.shipments id)
  events : List.Forall₂ ShipmentEventModel.Records database.shipmentEvents memory.events

/-- A server without tables' rows, open transactions or locks. -/
structure World.Blank (world : World) (process : ProcessId) : Prop where
  database : world.database = {}
  writes : world.writes process = []
  locks : world.locks = []

theorem World.Blank.mirrors {postgres : Postgres} {process : ProcessId} {world : World}
    {issued : UUID → Bool} {spare : List String} (_ : world.Blank process) :
    Mirrors postgres [] [] {} issued spare {} where
  shipments := fun _ => .none
  proper := fun _ _ absent => by cases absent
  current := fun _ absent => by cases absent
  loaded := fun _ absent => by cases absent
  keys := List.nodup_nil
  stored := fun _ _ absent => by cases absent
  references := fun _ absent => by cases absent
  events := .nil
  accepts := ⟨List.nodup_nil, List.nodup_nil, fun _ absent => by cases absent⟩
  issuedShipments := fun _ absent => by cases absent
  issuedEvents := fun _ absent => by cases absent
  issuedMessages := fun _ absent => by cases absent

/-- On a blank server, whatever executions are grouped into whatever sessions: no session
fails, and plain stores come to the same. -/
theorem repositories_refine_plain_stores (server : Server) (process : ProcessId)
    (faultless : server.Faultless) (nulls : server.postgres.float8 .null = .null)
    (groups : List (List UseCaseCall))
    (distinct : (groups.flatten.filterMap UseCaseCall.reference).Nodup)
    (proper : ∀ execution ∈ groups.flatten, execution.Proper server.postgres.Exact)
    (start : World) (blank : start.Blank process)
    (foreign : ∀ execution ∈ groups.flatten, ∀ eventId ∈ execution.eventId,
      start.issued eventId = true)
    (choices : List Choice) (result : Except PyError (List Visit)) (after : World)
    (ran : (sharedSessions groups ()).run (server.perform process) choices start =
      some ((result, ()), after)) :
    ∃ visits heard answers memory, result = .ok visits ∧
      PlainStores groups visits after.database heard answers memory := by
  have lone : Lone process {} start.issued start :=
    { visible := by rw [World.visible, blank.database, blank.writes]; rfl
      issued := rfl
      locks := fun held member => by rw [blank.locks] at member; cases member }
  have remaining : Remaining server process
      (groups.flatten.filterMap UseCaseCall.eventId) groups.flatten ({}, start) {} :=
    { paired := ⟨[], [], {}, start.issued, rfl, lone, blank.mirrors, by
        intro id member
        obtain ⟨execution, present, own⟩ := List.mem_filterMap.mp member
        exact foreign execution present id own⟩
      distinct := distinct
      proper := proper
      foreign := fun execution member eventId own =>
        List.mem_filterMap.mpr ⟨execution, member, own⟩ }
  obtain ⟨visits, heard, answers, memory, returned, served, calls, outcomes, left, clean⟩ :=
    Contract.alone_wp_iff.mp (sessions_follow faultless nulls groups remaining blank.writes)
      choices _ after ran
  obtain ⟨objects, pending, database, issued, same, lone, mirrors, -⟩ := left.paired
  cases same
  have final : after.database = database := by
    rw [← lone.visible, World.visible, clean]
    rfl
  refine ⟨visits, heard, answers, memory, returned, served, calls, outcomes, ?_, ?_⟩
  · rw [final]
    exact mirrors.shipments
  · rw [final]
    exact mirrors.events

/-! ## Two sessions -/

/-- A location of the shipment that `twoSessions` creates. -/
def locationReport (latitude : Json) : ShipmentEvent where
  eventId := ⟨8#128⟩
  shipmentId := ⟨1#128⟩
  eventType := .locationUpdated
  source := .str "gps"
  occurredAt := .utc 20
  receivedAt := .utc 21
  payload := .json (.obj [("latitude", latitude), ("longitude", .int 8)])

/-- A creation and a location in one session, and in another the same event again. -/
def twoSessions (latitude : Json) : List (List UseCaseCall) :=
  [[.createShipment none
      { referenceNumber := "FRT-1", origin := "Porto", destination := "Lyon",
        carrier := "carrier" },
    .receiveShipmentEvent none (locationReport latitude)],
   [.receiveShipmentEvent none (locationReport latitude)]]

/-- The server before them, which knows the identifier of the event. -/
def twoSessionsStart : World := { uuids := [(0, ⟨8#128⟩)] }

theorem twoSessionsStart_blank : twoSessionsStart.Blank 0 := ⟨rfl, rfl, rfl⟩

theorem twoSessions_foreign (latitude : Json) : ∀ execution ∈ (twoSessions latitude).flatten,
    ∀ eventId ∈ execution.eventId, twoSessionsStart.issued eventId = true := by
  simp [twoSessions, UseCaseCall.eventId, locationReport, twoSessionsStart, World.issued]

theorem twoSessions_proper {coordinate : Json → Prop} {value : Json}
    (latitude : coordinate value) (longitude : coordinate (.int 8)) :
    ∀ execution ∈ (twoSessions value).flatten, execution.Proper coordinate := by
  have proper : (locationReport value).Proper coordinate :=
    { typed := ⟨⟨"gps", rfl⟩, rfl, rfl⟩
      object := rfl
      located := by
        intro _ location decoded
        cases decoded
        exact ⟨latitude, longitude⟩ }
  simp [twoSessions, UseCaseCall.Proper, proper]

/-- How the server answers them. -/
def twoSessionsChoices : List Choice :=
  [.time (.utc 5), .uuid ⟨1#128⟩, .uuid ⟨2#128⟩, .time (.utc 6), .proceed, .proceed, .proceed,
    .uuid ⟨3#128⟩, .proceed, .proceed, .time (.utc 7)] ++
  [.proceed, .proceed, .proceed, .proceed, .proceed, .uuid ⟨4#128⟩, .proceed,
    .time (.utc 22)] ++
  [.proceed, .proceed, .proceed, .proceed, .proceed] ++
  [.proceed, .proceed, .proceed, .proceed]

theorem two_sessions_follow :
    ∃ visits after heard answers memory,
      (sharedSessions (twoSessions (.int 41)) ()).run (Server.utc.perform 0) twoSessionsChoices
        twoSessionsStart = some ((.ok visits, ()), after) ∧
      PlainStores (twoSessions (.int 41)) visits after.database heard answers memory := by
  have completes : ((sharedSessions (twoSessions (.int 41)) ()).run (Server.utc.perform 0)
      twoSessionsChoices twoSessionsStart).isSome = true := by
    decide +kernel
  obtain ⟨⟨⟨result, _⟩, after⟩, ran⟩ := Option.isSome_iff_exists.mp completes
  obtain ⟨visits, heard, answers, memory, rfl, follows⟩ :=
    repositories_refine_plain_stores Server.utc 0 (fun _ => rfl) rfl (twoSessions (.int 41))
      (by decide) (twoSessions_proper (.inl rfl) (.inl rfl)) twoSessionsStart
      twoSessionsStart_blank (twoSessions_foreign _) twoSessionsChoices result after ran
  exact ⟨visits, after, heard, answers, memory, ran, follows⟩

/-! ## A number that is rounded -/

/-- The shipment that a call saves. -/
def PortCall.saved (portCall : PortCall) : Option Shipment :=
  match portCall.1 with
  | .saveShipment shipment => some shipment
  | _ => none

/-- Plain stores hold the shipments that were saved. -/
theorem served_shipments {α : Type} {program : Program Port _ α} {before after : InMemory}
    {heard : List PortCall} {value : α}
    (served : Program.Served InMemory.service program before heard value after) :
    after.shipments = (heard.filterMap PortCall.saved).foldl
      (fun (shipments : UUID → Option Shipment) (shipment : Shipment) =>
        Function.update shipments shipment.id (some shipment)) before.shipments := by
  induction served with
  | done value state => rfl
  | @perform op resume answer before middle after said value carried rest inductionHypothesis =>
      obtain ⟨given, -, rfl⟩ := carried
      rw [inductionHypothesis]
      cases op <;> rfl

/-- The same calls save equal shipments. -/
theorem saved_same {said heard : List PortCall} (same : List.Forall₂ PortCall.Same said heard) :
    List.Forall₂ Shipment.Equal (said.filterMap PortCall.saved)
      (heard.filterMap PortCall.saved) := by
  induction same with
  | nil => exact .nil
  | cons first _ inductionHypothesis =>
      cases first with
      | saveShipment equal => exact .cons equal inductionHypothesis
      | _ => exact inductionHypothesis

/-- Numbers as coordinates do not do: an integer is read back as the nearest binary64
number, where plain stores still hold the integer. -/
theorem numbers_not_refined :
    ¬ ∀ (server : Server) (process : ProcessId), server.Faultless →
        server.postgres.float8 .null = .null → ∀ groups : List (List UseCaseCall),
        (groups.flatten.filterMap UseCaseCall.reference).Nodup →
        (∀ execution ∈ groups.flatten,
          execution.Proper fun value => Json.isNumeric (some value) = true) →
        ∀ start : World, start.Blank process →
        (∀ execution ∈ groups.flatten, ∀ eventId ∈ execution.eventId,
          start.issued eventId = true) →
        ∀ (choices : List Choice) (result : Except PyError (List Visit)) (after : World),
        (sharedSessions groups ()).run (server.perform process) choices start =
          some ((result, ()), after) →
        ∃ visits heard answers memory, result = .ok visits ∧
          PlainStores groups visits after.database heard answers memory := by
  intro claim
  have shown : ((sharedSessions (twoSessions (.int 9007199254740993)) ()).run
      (Server.rounding.perform 0) twoSessionsChoices twoSessionsStart).map (fun outcome =>
        (outcome.1.1.toOption.map fun visits =>
          ((visits.flatMap Visit.said).filterMap PortCall.saved).map fun shipment =>
            (shipment.id, shipment.currentLatitude),
          (outcome.2.database.shipment ⟨1#128⟩).map ShipmentModel.currentLatitude)) =
      some (some [(⟨1#128⟩, .null), (⟨1#128⟩, .int 9007199254740993)],
        some (.float (.finite false 4503599627370496 1))) := by
    decide +kernel
  obtain ⟨⟨⟨result, _⟩, after⟩, ran, shown⟩ := Option.map_eq_some_iff.mp shown
  obtain ⟨visits, heard, answers, memory, rfl, follows⟩ :=
    claim Server.rounding 0 (fun _ => rfl) (by decide) _ (by decide)
      (twoSessions_proper rfl rfl) twoSessionsStart twoSessionsStart_blank
      (twoSessions_foreign _) twoSessionsChoices result after ran
  obtain ⟨said, read⟩ := Prod.mk.inj shown
  obtain ⟨created, others, saved, -, rest⟩ := List.map_eq_cons_iff.mp (Option.some.inj said)
  obtain ⟨located, none, rfl, reported, empty⟩ := List.map_eq_cons_iff.mp rest
  cases List.map_eq_nil_iff.mp empty
  obtain ⟨row, stored, rounded⟩ := Option.map_eq_some_iff.mp read
  have same := saved_same follows.calls
  have holds := served_shipments follows.served
  have kept := follows.shipments ⟨1#128⟩
  rw [saved] at same
  obtain ⟨first, more, -, same, all⟩ := List.forall₂_cons_left_iff.mp same
  obtain ⟨two, others, equal, none, rfl⟩ := List.forall₂_cons_left_iff.mp same
  cases none
  obtain ⟨sameId, latitude⟩ := Prod.mk.inj reported
  have own : two.id = ⟨1#128⟩ := equal.id.symm.trans sameId
  rw [all] at holds
  have held : memory.shipments ⟨1#128⟩ = some two := by
    rw [holds, ← own]
    exact Function.update_self _ _ _
  rw [stored, held] at kept
  cases kept with
  | some back =>
      have written : row.currentLatitude.Same located.currentLatitude :=
        back.currentLatitude.trans equal.currentLatitude.symm
      rw [rounded, latitude] at written
      rcases written with identical | equal
      · cases identical
      · revert equal
        decide

end Freight
