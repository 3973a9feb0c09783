/-
Module: Freight.Proofs.DeliveryCourses
Purpose: What a delivery does and what it tells the metrics of it: the few courses that this
  may take, whatever the environment answers and wherever the process is killed.
Trusted boundary: none
Main exports:
  Metered.Event, Metered.destination, Metered.shows, Metered.deliveries, Metered.courses,
  Metered.holds_processDelivery, Metered.metering_tells
-/
import Freight.Interaction.Stories
import Freight.Observability.Ingestion
import Freight.Proofs.CommittedAnswers
import Freight.Store.RelayLog

namespace Freight.Metered

open Interaction (Begins Contract Program ProcessId Signalled Telling holds_quiet holds_tell story
  transcripts)
open Interaction.Computation

/-! ## What is seen of a delivery -/

/-- What happens in the ingestion, and what is told to the metrics. -/
inductive Event where
  | delivered
  | committed
  | published (place : Place)
  | refused (place : Place)
  | acknowledged
  | unacknowledged
  | expired
  | counted (outcome : Outcome)
  | finished
deriving DecidableEq, Repr

/-- Where a failed message is published to. -/
def destination (consumer : RabbitMQShipmentEventConsumer)
    (republication : Consumer.Republication) : Place :=
  if republication.exchange = consumer.retryExchange ∧
      republication.routingKey = retryRoutingKey then .retry
  else if republication.exchange = consumer.deadLetterExchange ∧
      republication.routingKey = deadLetterRoutingKey then .deadLetter
  else .main

/-- Whether a role is that of a delivery. -/
def delivers : Role → Bool
  | .delivery => true
  | _ => false

/-- What an exchange shows: a commit is one of a delivery, and a call of the channel has
returned or raised. -/
def shows (consumer : RabbitMQShipmentEventConsumer) (role : Role) : Said → Option Event
  | ⟨.act .nextDelivery, .ok _⟩ => some .delivered
  | ⟨.act (.statement .commit), .ok _⟩ => if delivers role then some .committed else none
  | ⟨.act (.basicPublish republication), .ok _⟩ =>
      some (.published (destination consumer republication))
  | ⟨.act (.basicPublish republication), .error _⟩ =>
      some (.refused (destination consumer republication))
  | ⟨.act (.basicAck _), .ok _⟩ => some .acknowledged
  | ⟨.act (.basicAck _), .error _⟩ => some .unacknowledged
  | ⟨.act .expire, .ok _⟩ => some .expired
  | ⟨.signal (.ingestion outcome), _⟩ => some (.counted outcome)
  | ⟨.signal .ingestionDuration, _⟩ => some .finished
  | _ => none

/-! ## Courses of a delivery -/

/-- `_ack`. -/
def acknowledgements : List (List Event) :=
  [[.acknowledged, .counted .acked], [.unacknowledged, .counted .ackFailed]]

/-- A publication of `_handle_failure`, and what follows. -/
def republications (place : Place) (outcome : Outcome) : List (List Event) :=
  [.refused place, .counted .republishFailed] ::
    acknowledgements.map ([.published place, .counted outcome] ++ ·)

/-- `_handle_failure`, which does nothing where the number of attempts cannot be read. -/
def failures : List (List Event) :=
  [] :: (republications .retry .retryPublishReturned ++
    republications .deadLetter .dlqPublishReturned)

/-- `handle_event`, where it commits. -/
def handled : List Event := [.committed, .counted .committed]

/-- `process_delivery`, up to its `finally` clause. -/
def attempts : List (List Event) :=
  acknowledgements.map (handled ++ ·) ++
    (failures.map (.counted .processingFailed :: ·) ++
      failures.map (handled ++ .counted .processingFailed :: ·))

/-- One delivery. -/
def deliveries : List (List Event) :=
  attempts.map fun attempt => .delivered :: attempt ++ [.finished]

/-- What a process of a role shows. -/
def courses : Role → List (List Event)
  | .delivery => deliveries
  | .timer => [[.expired]]
  | _ => [[]]

/-! ## The worker keeps to them -/

/-- Statements and calls of the channel may raise, and nothing else. -/
def Fallible : Signalled Operation Signal → Prop
  | .act (.statement _) | .act (.basicPublish _) | .act (.basicAck _) => True
  | _ => False

/-- What the environment may answer. -/
def Permitted (_ : List Said) (said : Said) : Prop :=
  ∀ error, said.2 = .error error → Fallible said.1

variable {consumer : RabbitMQShipmentEventConsumer} {spoken : List Said} {told : List Event}

/-- Before its own courses, a process of a delivery. -/
noncomputable abbrev telling (consumer : RabbitMQShipmentEventConsumer) :=
  transcripts Permitted (Telling (shows consumer .delivery) deliveries)

theorem confined_statements {α : Type} {allowed : Statement → Prop} {body : Py α}
    (confined : Confined allowed body) :
    Confined (fun operation => ∃ statement, allowed statement ∧
      operation = .act (.statement statement)) (statements body) := by
  intro session
  apply Program.Confined.relabel
  apply Program.Confined.interpret (confined session)
  intro statement permitted
  exact ⟨⟨statement, permitted, rfl⟩, fun answer => trivial⟩

/-- What a process of a delivery has shown. -/
abbrev shown (consumer : RabbitMQShipmentEventConsumer) : List Said → List Event :=
  story (shows consumer .delivery)

/-- Of the statements only a commit is shown, and only that of a delivery. -/
theorem shows_statement {role : Role} {statement : Statement}
    {answer : Except PyError (Reply statement)}
    (other : delivers role = true → statement ≠ .commit) :
    shows consumer role ⟨.act (.statement statement), answer⟩ = none := by
  cases statement with
  | commit =>
      cases answer with
      | error error => rfl
      | ok reply =>
          cases mine : delivers role with
          | false => simp [shows, mine]
          | true => exact absurd rfl (other mine)
  | _ => rfl

/-- Statements that do not commit. -/
theorem holds_statements {α : Type} {body : Py α} {session : Session}
    (confined : Confined Private body) (begins : Begins deliveries told)
    (so : shown consumer spoken = told) :
    (telling consumer).holds (statements body)
      (fun _ _ next => shown consumer next = told) session spoken := by
  refine holds_quiet (confined_statements confined) ?_ begins so
  intro operation answer unseen
  obtain ⟨statement, kept, rfl⟩ := unseen
  exact shows_statement fun _ => kept.1

theorem statements_bind {α β : Type} (first : Py α) (next : α → Py β) :
    statements (first >>= next) = statements first >>= fun value => statements (next value) := by
  unfold statements plainly
  rw [translate_bind, relabel_bind]

/-- The rule for an operation that does not raise. -/
theorem holds_certain {σ : Type} {operation : Signalled Operation Signal} {state : σ}
    {post : Contract.Post PyError σ (List Said) (operation.Reply Operation.Reply)}
    (certain : ¬ Fallible operation) (so : shown consumer spoken = told)
    (verified : ∀ reply,
      Begins deliveries (told ++ (shows consumer .delivery ⟨operation, .ok reply⟩).toList) ∧
        ∀ next, shown consumer next =
            told ++ (shows consumer .delivery ⟨operation, .ok reply⟩).toList →
          post (.ok reply) state next) :
    (telling consumer).holds (Interaction.Computation.call operation) post state spoken := by
  apply holds_tell so
  intro answer permitted
  cases answer with
  | error error => exact (certain (permitted error rfl)).elim
  | ok reply => exact verified reply

theorem holds_count {σ : Type} {outcome : Outcome} {state : σ}
    {post : Contract.Post PyError σ (List Said) Unit}
    (so : shown consumer spoken = told)
    (begins : Begins deliveries (told ++ [.counted outcome]))
    (rest : ∀ next, shown consumer next = told ++ [.counted outcome] →
      post (.ok ()) state next) :
    (telling consumer).holds (count outcome) post state spoken :=
  holds_certain id so fun _ => ⟨begins, rest⟩

/-- `session.commit()`. -/
theorem holds_commit {session : Session}
    (begins : Begins deliveries (told ++ [.committed]))
    (so : shown consumer spoken = told) :
    (telling consumer).holds (statements Session.commit)
      (Contract.Post.on
        (fun _ _ next => shown consumer next = told ++ [.committed])
        (fun _ _ next => shown consumer next = told)) session spoken := by
  have split : statements Session.commit =
      statements Session.flush >>= fun _ => statements (call .commit : Py Unit) :=
    statements_bind Session.flush fun _ => (call .commit : Py Unit)
  rw [split]
  apply Contract.holds_bind
  have flushes : Confined Private Session.flush := Session.flush_straight.confined
  apply Contract.holds_mono (holds_statements flushes begins.of_append so)
  intro flushed after reached same
  cases flushed with
  | error error => exact same
  | ok reply =>
      apply holds_tell same
      intro answer _
      cases answer with
      | error error =>
          constructor
          · simpa [shows] using begins.of_append
          · intro next same
            simpa [Contract.Post.on, shows] using same
      | ok reply => exact ⟨begins, fun next same => same⟩

/-- The `except` clause of `handle_event` raises, and shows nothing. -/
theorem holds_recovery {error : PyError} {session : Session} (begins : Begins deliveries told)
    (so : shown consumer spoken = told) :
    (telling consumer).holds (do
      statements Session.rollback
      statements (call .observe)
      raise error : Metering Session Unit)
      (Contract.Post.on (fun _ _ _ => False) (fun _ _ next => shown consumer next = told))
      session spoken := by
  have observed : Confined Private (call .observe : Py Unit) := confined_call (by simp [Private])
  have rolled : Confined Private Session.rollback :=
    (confined_call (by simp [Private])).bind fun _ => confined_modify
  apply Contract.holds_bind
  apply Contract.holds_mono (holds_statements rolled begins so)
  intro outcome after reached same
  cases outcome with
  | error other => exact same
  | ok reply =>
      apply Contract.holds_bind
      apply Contract.holds_mono (holds_statements observed begins same)
      intro outcome after reached same
      cases outcome with
      | error other => exact same
      | ok reply => exact same

/-- The `try` clause of `handle_event`. -/
theorem holds_reception {correlationId : Option String} {event : ShipmentEvent}
    {session : Session} (so : shown consumer spoken = [.delivered]) :
    (telling consumer).holds (do
      let _ ← statements (ReceiveShipmentEvent.execute correlationId event)
      statements Session.commit
      count .committed
      statements (call .observe) : Metering Session Unit)
      (Contract.Post.on
        (fun _ _ next => shown consumer next = .delivered :: handled)
        (fun _ _ next => shown consumer next = [.delivered] ∨
          shown consumer next = .delivered :: handled)) session spoken := by
  have starts : Begins deliveries [.delivered] := by decide
  have works : Begins deliveries [.delivered, .committed] := by decide
  have counts : Begins deliveries (.delivered :: handled) := by decide
  have observed : Confined Private (call .observe : Py Unit) := confined_call (by simp [Private])
  apply Contract.holds_bind
  apply Contract.holds_mono (holds_statements
    (ReceiveShipmentEvent.execute_confined correlationId event) starts so)
  intro outcome after reached same
  cases outcome with
  | error error => exact .inl same
  | ok shipment =>
      apply Contract.holds_bind
      apply Contract.holds_mono (holds_commit works same)
      intro outcome after reached same
      cases outcome with
      | error error => exact .inl same
      | ok reply =>
          apply Contract.holds_bind
          apply holds_count same counts
          intro next same
          apply Contract.holds_mono (holds_statements observed counts same)
          intro outcome after reached same
          cases outcome with
          | error error => exact .inr same
          | ok reply => exact same

/-- `handle_event`: it has committed and counted if it returns, and may have done so if it
raises. -/
theorem holds_handleEvent {correlationId : Option String} {event : ShipmentEvent}
    {session : Session} (so : shown consumer spoken = [.delivered]) :
    (telling consumer).holds (handleEvent correlationId event)
      (Contract.Post.on
        (fun _ _ next => shown consumer next = .delivered :: handled)
        (fun _ _ next => shown consumer next = [.delivered] ∨
          shown consumer next = .delivered :: handled)) session spoken := by
  have counts : Begins deliveries (.delivered :: handled) := by decide
  have closed : Confined Private Session.close := confined_call (by simp [Private])
  apply Contract.holds_onExit
  apply Contract.holds_tryExcept
  apply Contract.holds_mono (holds_reception so)
  intro outcome after reached told
  cases outcome with
  | ok reply =>
      apply Contract.holds_mono (holds_statements closed counts told)
      intro cleaned last next same
      cases cleaned with
      | error error => exact .inr same
      | ok reply => exact same
  | error error =>
      -- the exception may come from after the commit
      have begins : Begins deliveries (shown consumer reached) := by
        rcases told with alone | committed
        · rw [alone]
          decide
        · rw [committed]
          exact counts
      simp only [Contract.Post.on]
      apply Contract.holds_mono (holds_recovery begins rfl)
      intro raised last next same
      cases raised with
      | ok reply => exact same.elim
      | error error =>
          simp only [Contract.Post.on] at same ⊢
          apply Contract.holds_mono (holds_statements closed begins same)
          intro cleaned final said kept
          have both : shown consumer said = [.delivered] ∨
              shown consumer said = .delivered :: handled := by
            rw [kept]
            exact told
          cases cleaned with
          | error error => exact both
          | ok reply => exact both

/-- The inner `try` statement of `process_delivery`. -/
theorem holds_tryHandling {decoders : Decoders} {identity : String} {body : Bytes}
    (so : shown consumer spoken = [.delivered]) :
    (telling consumer).holds (tryHandling decoders identity body)
      (fun outcome _ next =>
        (outcome = .ok none ∧ shown consumer next = .delivered :: handled) ∨
          ∃ error, outcome = .ok (some error) ∧ (shown consumer next = [.delivered] ∨
            shown consumer next = .delivered :: handled)) () spoken := by
  have starts : Begins deliveries [.delivered] := by decide
  have counts : Begins deliveries (.delivered :: handled) := by decide
  apply Contract.holds_tryExcept
  apply Contract.holds_bind
  apply Contract.holds_ofExcept
  cases ShipmentEventMessage.fromJson decoders body with
  | error error => exact .inr ⟨error, rfl, .inl so⟩
  | ok message =>
      apply Contract.holds_bind
      apply holds_certain id so
      intro reply
      refine ⟨starts, ?_⟩
      intro next same
      apply Contract.holds_bind
      apply Contract.holds_withState
      apply Contract.holds_mono (holds_handleEvent same)
      intro outcome after reached worked
      cases outcome with
      | error error => exact .inr ⟨error, rfl, worked⟩
      | ok reply =>
          apply Contract.holds_bind
          apply holds_certain id worked
          intro reply
          exact ⟨counts, fun next same => .inl ⟨rfl, same⟩⟩

/-- `_ack`. -/
theorem holds_ack {deliveryTag : Nat}
    (begins : ∀ course ∈ acknowledgements, Begins deliveries (told ++ course))
    (so : shown consumer spoken = told) :
    (telling consumer).holds (ack deliveryTag)
      (fun _ _ next => ∃ course ∈ acknowledgements, shown consumer next = told ++ course) ()
      spoken := by
  have returns : Begins deliveries (told ++ [.acknowledged] ++ [.counted .acked]) := by
    simpa using begins [.acknowledged, .counted .acked] (by decide)
  have raises : Begins deliveries (told ++ [.unacknowledged] ++ [.counted .ackFailed]) := by
    simpa using begins [.unacknowledged, .counted .ackFailed] (by decide)
  apply Contract.holds_bind
  apply Contract.holds_tryExcept
  apply holds_tell so
  intro answer _
  cases answer with
  | ok reply =>
      refine ⟨returns.of_append, ?_⟩
      intro next same
      simp only [Contract.Post.on]
      apply holds_count same returns
      intro last counted
      exact ⟨[.acknowledged, .counted .acked], by decide, by simpa [shows] using counted⟩
  | error error =>
      refine ⟨raises.of_append, ?_⟩
      intro next same
      apply Contract.holds_bind
      apply holds_count same raises
      intro last counted
      exact ⟨[.unacknowledged, .counted .ackFailed], by decide, by simpa [shows] using counted⟩

/-- A failed message goes to one of two places, and the outcome that is counted says which. -/
theorem republications_failures (consumer : RabbitMQShipmentEventConsumer)
    (properties : Option BasicProperties) (headers : Headers) (body : Bytes)
    (attemptCount : Int) (now : DateTime) (error : PyError) :
    ∃ outcome,
      (if (Consumer.republication consumer properties headers body attemptCount now
          error).routingKey = retryRoutingKey then Outcome.retryPublishReturned
        else .dlqPublishReturned) = outcome ∧
      ∀ course ∈ republications (destination consumer (Consumer.republication consumer properties
        headers body attemptCount now error)) outcome, course ∈ failures := by
  have different : deadLetterRoutingKey ≠ retryRoutingKey := by decide
  unfold Consumer.republication
  dsimp only
  split
  · refine ⟨.retryPublishReturned, by simp, ?_⟩
    rw [destination, if_pos ⟨rfl, rfl⟩]
    decide
  · refine ⟨.dlqPublishReturned, by simp, ?_⟩
    rw [destination, if_neg fun both => different both.2, if_pos ⟨rfl, rfl⟩]
    decide

/-- The publication of `_handle_failure`, and what follows. -/
theorem holds_republish {failed : Consumer.Republication} {outcome : Outcome} {deliveryTag : Nat}
    (begins : ∀ course ∈ republications (destination consumer failed) outcome,
      Begins deliveries (told ++ course))
    (so : shown consumer spoken = told) :
    (telling consumer).holds (do
      tryExcept (plainly (operate (.basicPublish failed))) fun publishError => do
        count .republishFailed
        raise publishError
      count outcome
      ack deliveryTag : Metering Unit Unit)
      (fun _ _ next => ∃ course ∈ republications (destination consumer failed) outcome,
        shown consumer next = told ++ course) () spoken := by
  have refused : Begins deliveries
      (told ++ [.refused (destination consumer failed)] ++ [.counted .republishFailed]) := by
    simpa using begins _ List.mem_cons_self
  have returned : ∀ course ∈ acknowledgements, Begins deliveries
      (told ++ [.published (destination consumer failed)] ++ [.counted outcome] ++ course) := by
    intro course member
    simpa using begins _ (List.mem_cons_of_mem _ (List.mem_map_of_mem member))
  have counted : Begins deliveries
      (told ++ [.published (destination consumer failed)] ++ [.counted outcome]) :=
    (returned _ List.mem_cons_self).of_append
  apply Contract.holds_bind
  apply Contract.holds_tryExcept
  apply holds_tell so
  intro answer _
  cases answer with
  | ok reply =>
      refine ⟨counted.of_append, ?_⟩
      intro next same
      simp only [Contract.Post.on]
      apply Contract.holds_bind
      apply holds_count same counted
      intro next same
      simp only [Contract.Post.on]
      apply Contract.holds_mono (holds_ack returned same)
      intro ended after last settled
      obtain ⟨course, member, same⟩ := settled
      exact ⟨_, List.mem_cons_of_mem _ (List.mem_map_of_mem member), by simpa using same⟩
  | error error =>
      refine ⟨refused.of_append, ?_⟩
      intro next same
      simp only [Contract.Post.on]
      apply Contract.holds_bind
      apply holds_count same refused
      intro last same
      exact ⟨_, List.mem_cons_self, by simpa [shows] using same⟩

/-- `_handle_failure`. -/
theorem holds_handleFailure {deliveryTag : Nat} {properties : Option BasicProperties}
    {body : Bytes} {error : PyError}
    (begins : ∀ course ∈ failures, Begins deliveries (told ++ course))
    (so : shown consumer spoken = told) :
    (telling consumer).holds (handleFailure consumer deliveryTag properties body error)
      (fun _ _ next => ∃ course ∈ failures, shown consumer next = told ++ course) () spoken := by
  have nothing : Begins deliveries told := by simpa using begins [] (by decide)
  apply Contract.holds_bind
  apply Contract.holds_ofExcept
  cases Consumer.attemptCount (Consumer.headersOf properties) with
  | error raised => exact ⟨[], by decide, by simpa using so⟩
  | ok attemptCount =>
      simp only [Contract.Post.on]
      apply Contract.holds_bind
      apply holds_certain id so
      intro now
      refine ⟨by simpa [shows] using nothing, ?_⟩
      intro next same
      obtain ⟨outcome, label, within⟩ := republications_failures consumer properties
        (Consumer.headersOf properties) body attemptCount now error
      simp only [Contract.Post.on, label]
      apply Contract.holds_mono (holds_republish
        (fun course member => begins course (within course member))
        (by simpa [shows] using same))
      intro ended after last settled
      obtain ⟨course, member, same⟩ := settled
      exact ⟨course, within course member, same⟩

/-- The correlation id is that of the delivery or a new one, and shows nothing. -/
theorem holds_correlationId {value : Option String} (begins : Begins deliveries told)
    (so : shown consumer spoken = told) :
    (telling consumer).holds (plainly (translate channelMeaning (Consumer.correlationId value)))
      (fun outcome _ next => (∃ identity, outcome = .ok identity) ∧ shown consumer next = told)
      () spoken := by
  have fresh : (telling consumer).holds
      (plainly (translate channelMeaning (Consumer.correlationId none)))
      (fun outcome _ next => (∃ identity, outcome = .ok identity) ∧ shown consumer next = told)
      () spoken := by
    show (telling consumer).wp (.perform (.act .uuid4) _) _ _
    apply Interaction.transcripts_tell so
    intro answer permitted
    cases answer with
    | error error => exact (permitted error rfl).elim
    | ok id =>
        refine ⟨by simpa [shows] using begins, ?_⟩
        intro next same
        exact ⟨⟨id.str, rfl⟩, by simpa [shows] using same⟩
  cases value with
  | none => exact fresh
  | some value =>
      by_cases valid : Consumer.validId value
      · have kept : Consumer.correlationId (some value) = pure value := if_pos valid
        rw [kept]
        exact ⟨⟨value, rfl⟩, so⟩
      · have replaced : Consumer.correlationId (some value) = Consumer.correlationId none :=
          if_neg valid
        rw [replaced]
        exact fresh

/-- What follows an exception that the inner `try` statement has caught. -/
theorem holds_failed {deliveryTag : Nat} {properties : Option BasicProperties} {body : Bytes}
    {error : PyError}
    (begins : ∀ course ∈ failures,
      Begins deliveries (told ++ .counted .processingFailed :: course))
    (so : shown consumer spoken = told) :
    (telling consumer).holds (do
      count .processingFailed
      handleFailure consumer deliveryTag properties body error : Metering Unit Unit)
      (fun _ _ next => ∃ course ∈ failures,
        shown consumer next = told ++ .counted .processingFailed :: course) () spoken := by
  have counts : Begins deliveries (told ++ [.counted .processingFailed]) :=
    begins [] (by decide)
  apply Contract.holds_bind
  apply holds_count so counts
  intro next same
  simp only [Contract.Post.on]
  refine Contract.holds_mono (holds_handleFailure ?_ same) ?_
  · intro course member
    simpa using begins course member
  · intro ended after last settled
    obtain ⟨course, member, same⟩ := settled
    exact ⟨course, member, by simpa using same⟩

/-- The outer `try` statement of `process_delivery`, up to its `finally` clause. -/
theorem holds_attempt {decoders : Decoders} {deliveryTag : Nat} {identity : String}
    {body : Bytes} {properties : Option BasicProperties}
    (so : shown consumer spoken = [.delivered]) :
    (telling consumer).holds (do
      match ← tryHandling decoders identity body with
      | some error => do
          count .processingFailed
          handleFailure consumer deliveryTag properties body error
      | none => ack deliveryTag : Metering Unit Unit)
      (fun _ _ next => ∃ attempt ∈ attempts, shown consumer next = .delivered :: attempt) ()
      spoken := by
  have whole : ∀ attempt ∈ attempts, Begins deliveries (.delivered :: attempt) := by
    intro attempt member
    have ends : .delivered :: attempt ++ [.finished] ∈ deliveries :=
      List.mem_map_of_mem member
    exact (Begins.of_mem ends).of_append
  apply Contract.holds_bind
  apply Contract.holds_mono (holds_tryHandling so)
  intro outcome after reached worked
  rcases worked with ⟨rfl, same⟩ | ⟨error, rfl, alone | committed⟩
  · have mem : ∀ course ∈ acknowledgements, handled ++ course ∈ attempts :=
      fun course member => List.mem_append_left _ (List.mem_map_of_mem member)
    simp only [Contract.Post.on]
    apply Contract.holds_mono (holds_ack (fun course member => whole _ (mem course member))
      same)
    intro ended after last settled
    obtain ⟨course, member, same⟩ := settled
    exact ⟨handled ++ course, mem course member, same⟩
  · have mem : ∀ course ∈ failures, .counted .processingFailed :: course ∈ attempts :=
      fun course member => List.mem_append_right _
        (List.mem_append_left _ (List.mem_map_of_mem member))
    simp only [Contract.Post.on]
    apply Contract.holds_mono (holds_failed (fun course member => whole _ (mem course member))
      alone)
    intro ended after last settled
    obtain ⟨course, member, same⟩ := settled
    exact ⟨.counted .processingFailed :: course, mem course member, same⟩
  · have mem : ∀ course ∈ failures,
        handled ++ .counted .processingFailed :: course ∈ attempts :=
      fun course member => List.mem_append_right _
        (List.mem_append_right _ (List.mem_map_of_mem member))
    simp only [Contract.Post.on]
    apply Contract.holds_mono (holds_failed (fun course member => whole _ (mem course member))
      committed)
    intro ended after last settled
    obtain ⟨course, member, same⟩ := settled
    exact ⟨handled ++ .counted .processingFailed :: course, mem course member, same⟩

/-- `process_delivery`. -/
theorem holds_processDelivery {decoders : Decoders} {deliveryTag : Nat} {body : Bytes}
    {properties : Option BasicProperties} (so : shown consumer spoken = [.delivered]) :
    (telling consumer).holds (processDelivery consumer decoders deliveryTag body properties)
      (fun _ _ next => shown consumer next ∈ deliveries) () spoken := by
  have starts : Begins deliveries [.delivered] := by decide
  apply Contract.holds_bind
  apply Contract.holds_mono (holds_correlationId starts so)
  intro outcome after reached named
  obtain ⟨⟨identity, rfl⟩, same⟩ := named
  simp only [Contract.Post.on]
  apply Contract.holds_onExit
  apply Contract.holds_mono (holds_attempt same)
  intro outcome after reached attempted
  obtain ⟨attempt, member, same⟩ := attempted
  have ends : .delivered :: attempt ++ [.finished] ∈ deliveries := List.mem_map_of_mem member
  apply holds_certain id same
  intro reply
  refine ⟨Begins.of_mem ends, ?_⟩
  intro next finished
  have kept : shown consumer next ∈ deliveries := by
    rw [finished]
    exact ends
  exact kept

/-- One delivery. -/
theorem holds_consumeOne {decoders : Decoders} :
    (telling consumer).holds (consumeOne consumer decoders)
      (fun _ _ next => shown consumer next ∈ deliveries) () [] := by
  have starts : Begins deliveries [.delivered] := by decide
  apply Contract.holds_bind
  apply holds_certain id rfl
  intro delivery
  refine ⟨starts, ?_⟩
  intro next same
  exact holds_processDelivery same

/-! ## Every process keeps to its courses -/

/-- The code of every role. -/
theorem holds_code {decoders : Decoders} (role : Role) :
    (transcripts Permitted (Telling (shows consumer role) (courses role))).holds
      (code consumer decoders role)
      (fun _ _ next => story (shows consumer role) next ∈ courses role) () [] := by
  cases role with
  | delivery => exact holds_consumeOne
  | producer message =>
      have nothing : Begins (courses (.producer message)) [] := Begins.of_mem List.mem_cons_self
      have empty : story (shows consumer (.producer message)) [] = [] := rfl
      apply holds_tell empty
      intro answer _
      have unseen : shows consumer (.producer message) ⟨.act (.send message), answer⟩ = none := by
        cases answer <;> rfl
      rw [unseen]
      refine ⟨nothing, ?_⟩
      intro next same
      rw [same]
      exact List.mem_cons_self
  | timer =>
      have empty : story (shows consumer .timer) [] = [] := rfl
      apply holds_tell empty
      intro answer permitted
      cases answer with
      | error error => exact (permitted error rfl).elim
      | ok reply =>
          refine ⟨Begins.of_mem List.mem_cons_self, ?_⟩
          intro next same
          rw [same]
          exact List.mem_cons_self
  | request other =>
      have nothing : Begins (courses (.request other)) [] := Begins.of_mem List.mem_cons_self
      have empty : story (shows consumer (.request other)) [] = [] := rfl
      have asks : Confined (fun operation => ∃ statement, operation = .act (.statement statement))
          (code consumer decoders (.request other)) := by
        intro session
        apply Program.Confined.relabel
        refine Program.Confined.bind ?_ fun _ => trivial
        apply Program.Confined.interpret (Program.confined_true (other.code {}))
        intro statement _
        exact ⟨⟨statement, rfl⟩, fun answer => trivial⟩
      refine Contract.holds_mono (holds_quiet asks ?_ nothing empty) ?_
      · rintro operation answer ⟨statement, rfl⟩
        exact shows_statement fun delivery => by cases delivery
      · intro outcome after next same
        rw [same]
        exact List.mem_cons_self

section Runs

variable {server : Server} {decoders : Decoders} {roles : ProcessId → Role} {world : Deployment}
  {state : MeteringState}

/-- Only statements and calls of the channel raise. -/
theorem perform_permitted {process : ProcessId} {operation : Operation} {resolution : Resolution}
    {before after : Deployment} {answer : Except PyError operation.Reply}
    (acted : Deployment.perform server consumer process operation resolution before =
      some (answer, after)) {error : PyError} (raised : answer = .error error) :
    Fallible (.act operation) := by
  subst raised
  cases operation with
  | statement statement => trivial
  | basicPublish republication => trivial
  | basicAck deliveryTag => trivial
  | _ => cases resolution <;> simp [Deployment.perform] at acted

/-- Whatever happens, every process shows the beginning of a course of its role, and a whole one
once it has come to an end. -/
theorem metering_tells
    (reached : (metering server consumer decoders roles).Reachable { world := world } state)
    (process : ProcessId) :
    Begins (courses (roles process))
        (story (shows consumer (roles process)) (state.world.log.exchangesOf process)) ∧
      ∀ result, state.processes process = some (.done result) →
        story (shows consumer (roles process)) (state.world.log.exchangesOf process) ∈
          courses (roles process) := by
  have start : Begins (courses (roles process)) [] := by
    cases roles process with
    | delivery => decide
    | timer => decide
    | producer message => exact Begins.of_mem List.mem_cons_self
    | request other => exact Begins.of_mem List.mem_cons_self
  have verified : state.world.log.Lawful
        (fun process => Telling (shows consumer (roles process)) (courses (roles process))) ∧
      ∀ process program, state.processes process = some program →
        (∀ former ∈ state.world.log.entriesOf process, former.exchange ≠ none) ∧
          (transcripts Permitted
            (Telling (shows consumer (roles process)) (courses (roles process)))).wp program
              (fun _ next => story (shows consumer (roles process)) next ∈
                courses (roles process)) (state.world.log.exchangesOf process) := by
    refine Interaction.System.recorded_lawful (fun _ => Permitted) ?_ ?_ reached
    · intro process spoken operation choice world answer after _ acted error raised
      cases operation with
      | act operation =>
          obtain ⟨chosen, acts⟩ := Interaction.System.signalled_act acted
          exact perform_permitted acts raised
      | signal signal =>
          have given := (Interaction.System.signalled_signal acted).1
          rw [given] at raised
          cases raised
    · intro process
      exact holds_code (roles process)
  obtain ⟨lawful, rest⟩ := verified
  exact ⟨Interaction.Journal.Lawful.begins lawful start,
    fun result ended => (rest process _ ended).2⟩

end Runs

end Freight.Metered
