/-
Module: Freight.Proofs.BoundedRetry
Purpose: The chain of attempts at one message, in a run without broker faults: how
  many there are, where the message ends, and what stays of its metadata.
Trusted boundary: none
Main exports:
  Queues, DeliveryAttempt, Chain, Chain.step, Chain.run, Carried, Phase, Phase.step,
  bounded_retry
-/
import Freight.Messaging.Channel

namespace Freight

open Consumer (identity identified republication headersOf attemptCount validId
  validCharacter)

/-! ## A chain of attempts -/

/-- The messages of the three queues. -/
structure Queues where
  main : List Message := []
  retry : List Message := []
  deadLetter : List Message := []

namespace Queues

/-- Enqueue a message. -/
def put (message : Message) (queues : Queues) : Place → Queues
  | .main => { queues with main := queues.main ++ [message] }
  | .retry => { queues with retry := queues.retry ++ [message] }
  | .deadLetter => { queues with deadLetter := queues.deadLetter ++ [message] }

/-- The time to live of the retry queue is over: its messages return with their
properties unchanged. -/
def expire (queues : Queues) : Queues :=
  { queues with main := queues.main ++ queues.retry, retry := [] }

/-- What an effect on the channel does to the queues.  An acknowledged delivery
has left the main queue already. -/
def apply (consumer : RabbitMQShipmentEventConsumer) (queues : Queues) :
    ChannelEffect → Queues
  | .published republication =>
      (route consumer republication.exchange republication.routingKey).foldl
        (put republication.message) queues
  | .acknowledged _ => queues

/-- All the messages. -/
def all (queues : Queues) : List Message :=
  queues.main ++ queues.retry ++ queues.deadLetter

end Queues

/-- What one attempt depends on: how its handling would end, the clock and
`uuid4`. -/
structure DeliveryAttempt where
  handled : Except PyError Unit
  now : DateTime
  uuid : UUID

namespace DeliveryAttempt

def channel (attempt : DeliveryAttempt) : Channel where
  handleEvent := fun _ _ => attempt.handled
  now := attempt.now
  uuid := attempt.uuid

/-- How the attempt ends for a body: the decoder may fail before. -/
def result (attempt : DeliveryAttempt) (decoders : Decoders) (body : Bytes) : Except PyError Unit :=
  (ShipmentEventMessage.fromJson decoders body).bind fun _ => attempt.handled

end DeliveryAttempt

/-- The queues, and how many attempts there have been. -/
structure Chain where
  queues : Queues
  attempted : Nat := 0

namespace Chain

variable (consumer : RabbitMQShipmentEventConsumer) (decoders : Decoders)

/-- The next attempt, if a message waits for one.  A delivery that is not
acknowledged stays on the main queue. -/
def step (chain : Chain) (attempt : DeliveryAttempt) : Chain :=
  let queues := chain.queues.expire
  match queues.main with
  | [] => { chain with queues := queues }
  | message :: rest =>
      let final :=
        Consumer.deliver consumer decoders attempt.channel (chain.attempted + 1) message.body
          (some message.properties)
      let settled := final.2.effects.any fun
        | .acknowledged _ => true
        | .published _ => false
      { queues :=
          final.2.effects.foldl (Queues.apply consumer)
            { queues with main := if settled then rest else message :: rest }
        attempted := chain.attempted + 1 }

/-- One attempt after another. -/
def run (chain : Chain) (attempts : List DeliveryAttempt) : Chain :=
  attempts.foldl (step consumer decoders) chain

/-- A message on the main queue. -/
def start (message : Message) : Chain := { queues := { main := [message] } }

end Chain

/-! ## Outcomes -/

/-- The attempt fails and may be repeated. -/
def Retryable (result : Except PyError Unit) : Prop :=
  ∃ error, result = .error error ∧ classify error = .retry

/-- The attempt fails for good. -/
def Permanent (result : Except PyError Unit) : Prop :=
  ∃ error, result = .error error ∧ classify error = .deadLetter

/-- The number of attempts that a message is given. -/
def RabbitMQShipmentEventConsumer.bound (consumer : RabbitMQShipmentEventConsumer) : Nat :=
  (max 1 consumer.maxAttempts).toNat

/-! ## Headers and identities -/

section Metadata

/-- The headers that the consumer keeps for itself. -/
def metadataHeaders : List String :=
  ["x-attempt-count", "x-first-failed-at", "x-last-error-type", "x-last-error-message"]

variable (headers : Headers) (count : Int) (now : DateTime) (error : PyError)

/-- The time of the first failure, under its header. -/
def firstFailedAt : AmqpValue :=
  (headers.lookup "x-first-failed-at").getD (.str now.isoformat)

theorem lookup_failureHeaders_count :
    (Consumer.failureHeaders headers count now error).lookup "x-attempt-count" =
      some (.int count) := by
  simp [Consumer.failureHeaders, AList.lookup_insert_ne]

theorem lookup_failureHeaders_firstFailedAt :
    (Consumer.failureHeaders headers count now error).lookup "x-first-failed-at" =
      some (firstFailedAt headers now) := by
  simp [Consumer.failureHeaders, AList.lookup_insert_ne, firstFailedAt]

theorem lookup_failureHeaders_other {name : String} (other : name ∉ metadataHeaders) :
    (Consumer.failureHeaders headers count now error).lookup name = headers.lookup name := by
  simp only [metadataHeaders, List.mem_cons, List.not_mem_nil, or_false, not_or] at other
  obtain ⟨notCount, notFirst, notType, notMessage⟩ := other
  simp [Consumer.failureHeaders, AList.lookup_insert_ne, notCount, notFirst, notType,
    notMessage]

theorem hexDigits_length (width value : Nat) : (hexDigits width value).length = width := by
  induction width generalizing value with
  | zero => rfl
  | succ width inductionHypothesis => simp [hexDigits, inductionHypothesis]

theorem hexDigits_valid (width value : Nat) :
    ∀ character ∈ hexDigits width value, validCharacter character = true := by
  induction width generalizing value with
  | zero => simp [hexDigits]
  | succ width inductionHypothesis =>
      intro character member
      rcases List.mem_append.mp member with earlier | last
      · exact inductionHypothesis _ character earlier
      · have digit : ∀ digit < 16, validCharacter (hexDigit digit) = true := by decide
        rw [List.mem_singleton.mp last]
        exact digit _ (Nat.mod_lt _ (by decide))

/-- The text of a UUID is a valid identity. -/
theorem validId_str (id : UUID) : validId id.str = true := by
  have members := hexDigits_valid 32 id.int.toNat
  have length := hexDigits_length 32 id.int.toNat
  generalize found : hexDigits 32 id.int.toNat = digits at members length
  have text : id.str.toList = digits.take 8 ++ '-' :: (digits.drop 8).take 4 ++
      '-' :: (digits.drop 12).take 4 ++ '-' :: (digits.drop 16).take 4 ++
        '-' :: digits.drop 20 := by
    simp [UUID.str, found]
  have dash : validCharacter '-' = true := by decide
  have piece : ∀ drop take : Nat, ((digits.drop drop).take take).all validCharacter = true := by
    intro drop take
    apply List.all_eq_true.mpr
    intro character member
    exact members character (List.mem_of_mem_drop (List.mem_of_mem_take member))
  have start : (digits.take 8).all validCharacter = true := piece 0 8
  have rest : (digits.drop 20).all validCharacter = true := by
    have whole := piece 20 12
    rwa [List.take_of_length_le (by simp [length])] at whole
  unfold validId
  rw [text]
  simp only [List.length_append, List.length_cons, List.length_take, List.length_drop, length,
    List.all_append, List.all_cons, dash, piece, start, rest]
  decide

/-- The identity of a delivery is valid. -/
theorem validId_identity (properties : BasicProperties) (uuid : UUID) :
    validId (identity properties uuid) = true := by
  unfold identity
  split
  · split
    · assumption
    · exact validId_str uuid
  · exact validId_str uuid

/-- A message keeps the identity it has been given. -/
theorem identity_of_valid {properties : BasicProperties} {value : String}
    (valid : validId value = true) (given : properties.correlationId = some value)
    (uuid : UUID) : identity properties uuid = value := by
  have nonempty : value ≠ "" := by
    rintro rfl
    cases valid
  have chosen : Consumer.orElse properties.correlationId properties.messageId = some value := by
    rw [given]
    unfold Consumer.orElse
    split
    · rename_i equality
      cases equality
      exact absurd rfl nonempty
    · rename_i equality
      cases equality
    · rename_i equality
      exact equality.symm
  unfold identity
  rw [chosen]
  simp [valid]

end Metadata

/-! ## One hop -/

/-- What stays of a message after its first delivery, and its attempt count. -/
structure Carried (message : Message) (first : DeliveryAttempt) (count : Int) (current : Message) :
    Prop where
  body : current.body = message.body
  messageId : current.properties.messageId = message.properties.messageId
  type : current.properties.type = message.properties.type
  correlationId :
    current.properties.correlationId = some (identity message.properties first.uuid)
  attemptCount :
    (headersOf (some current.properties)).lookup "x-attempt-count" = some (.int count)
  firstFailedAt :
    (headersOf (some current.properties)).lookup "x-first-failed-at" =
      some (firstFailedAt (headersOf (some message.properties)) first.now)
  others : ∀ name, name ∉ metadataHeaders →
    (headersOf (some current.properties)).lookup name =
      (headersOf (some message.properties)).lookup name

/-- A message that has not been delivered yet, or what is left of it after `made`
failed attempts. -/
inductive Waiting (message : Message) : List DeliveryAttempt → Message → Prop where
  | fresh (uncounted :
      (headersOf (some message.properties)).lookup "x-attempt-count" = none) :
      Waiting message [] message
  | failed {first : DeliveryAttempt} {rest : List DeliveryAttempt} {current : Message}
      (carried : Carried message first (rest.length + 2) current) :
      Waiting message (first :: rest) current

section Hops

variable {consumer : RabbitMQShipmentEventConsumer} {decoders : Decoders}
  {message current : Message} {made : List DeliveryAttempt} {attempt : DeliveryAttempt}
  {error : PyError}

/-- The first of the attempts, the next one included. -/
def firstOf (made : List DeliveryAttempt) (next : DeliveryAttempt) : DeliveryAttempt :=
  made.head?.getD next

theorem Waiting.body (waiting : Waiting message made current) :
    current.body = message.body := by
  cases waiting with
  | fresh => rfl
  | failed carried => exact carried.body

theorem Waiting.attemptCount (waiting : Waiting message made current) :
    attemptCount (headersOf (some current.properties)) = .ok (made.length + 1) := by
  unfold Consumer.attemptCount
  cases waiting with
  | fresh uncounted =>
      rw [uncounted]
      rfl
  | failed carried =>
      rw [carried.attemptCount]
      simp only [Option.getD_some, AmqpValue.toInt, List.length_cons]
      congr 1

theorem Waiting.identity (waiting : Waiting message made current) (next : DeliveryAttempt) :
    identity current.properties next.uuid =
      identity message.properties (firstOf made next).uuid := by
  cases waiting with
  | fresh => rfl
  | failed carried =>
      exact identity_of_valid (validId_identity _ _) carried.correlationId _

/-- What a waiting message is republished as. -/
theorem Waiting.carried (waiting : Waiting message made current) (next : DeliveryAttempt)
    {headers : Headers} {count : Int}
    (counted : headers.lookup "x-attempt-count" = some (.int count))
    (firstFailed : headers.lookup "x-first-failed-at" =
      some (firstFailedAt (headersOf (some current.properties)) next.now))
    (others : ∀ name, name ∉ metadataHeaders →
      headers.lookup name = (headersOf (some current.properties)).lookup name) :
    Carried message (firstOf made next) count
      { body := current.body
        properties :=
          Consumer.failureProperties (some (identified current.properties next.uuid))
            headers } := by
  have identified := waiting.identity next
  cases waiting with
  | fresh =>
      exact
        { body := rfl
          messageId := rfl
          type := rfl
          correlationId := rfl
          attemptCount := counted
          firstFailedAt := firstFailed
          others := others }
  | @failed first rest current carried =>
      exact
        { body := carried.body
          messageId := carried.messageId
          type := carried.type
          correlationId := congrArg some identified
          attemptCount := counted
          firstFailedAt := by
            rw [firstFailedAt, carried.firstFailedAt] at firstFailed
            exact firstFailed
          others := fun name other => (others name other).trans (carried.others name other) }

/-- The republication that goes to the dead-letter exchange. -/
theorem Waiting.carried_dead (waiting : Waiting message made current) (next : DeliveryAttempt)
    (count : Int) (error : PyError) :
    Carried message (firstOf made next) count
      { body := current.body
        properties :=
          Consumer.failureProperties (some (identified current.properties next.uuid))
            (Consumer.failureHeaders (headersOf (some current.properties)) count next.now
              error) } :=
  waiting.carried next (lookup_failureHeaders_count _ _ _ _)
    (lookup_failureHeaders_firstFailedAt _ _ _ _)
    fun _ other => lookup_failureHeaders_other _ _ _ _ other

/-- The republication that goes to the retry exchange. -/
theorem Waiting.carried_retry (waiting : Waiting message made current) (next : DeliveryAttempt)
    (count raised : Int) (error : PyError) :
    Carried message (firstOf made next) raised
      { body := current.body
        properties :=
          Consumer.failureProperties (some (identified current.properties next.uuid))
            ((Consumer.failureHeaders (headersOf (some current.properties)) count next.now
              error).insert "x-attempt-count" (.int raised)) } := by
  refine waiting.carried next (AList.lookup_insert _) ?_ ?_
  · rw [AList.lookup_insert_ne (by decide)]
    exact lookup_failureHeaders_firstFailedAt _ _ _ _
  · intro name other
    have different : name ≠ "x-attempt-count" := by
      rintro rfl
      exact other (by decide)
    rw [AList.lookup_insert_ne different]
    exact lookup_failureHeaders_other _ _ _ _ other

/-- Where a message waits: on the main queue before its first attempt, on the
retry queue after it. -/
def waitingQueues (made : List DeliveryAttempt) (current : Message) : Queues :=
  match made with
  | [] => { main := [current] }
  | _ :: _ => { retry := [current] }

theorem expire_waitingQueues (made : List DeliveryAttempt) (current : Message) :
    (waitingQueues made current).expire = { main := [current] } := by
  cases made <;> rfl

theorem Waiting.attempt_eq (waiting : Waiting message made current) (next : DeliveryAttempt) :
    Consumer.attempt decoders next.channel current.body current.properties =
      next.result decoders message.body := by
  rw [waiting.body]
  rfl

/-- A handled attempt leaves no message. -/
theorem Waiting.step_handled (waiting : Waiting message made current) {next : DeliveryAttempt}
    {count : Nat} (handled : next.result decoders message.body = .ok ()) :
    Chain.step consumer decoders
        { queues := waitingQueues made current, attempted := count } next =
      { queues := {}, attempted := count + 1 } := by
  simp only [Chain.step, expire_waitingQueues, Consumer.deliver_eq, Option.getD_some,
    waiting.attempt_eq, handled]
  rfl

/-- A failed attempt leaves what it publishes. -/
theorem Waiting.step_failed (waiting : Waiting message made current) {next : DeliveryAttempt}
    {count : Nat} {error : PyError}
    (failed : next.result decoders message.body = .error error) :
    Chain.step consumer decoders
        { queues := waitingQueues made current, attempted := count } next =
      { queues :=
          Queues.apply consumer {}
            (.published (republication consumer
              (some (identified current.properties next.uuid))
              (headersOf (some current.properties)) current.body (made.length + 1) next.now
              error))
        attempted := count + 1 } := by
  simp only [Chain.step, expire_waitingQueues, Consumer.deliver_eq, Option.getD_some,
    waiting.attempt_eq, failed, waiting.attemptCount]
  rfl

theorem republication_retry {properties : Option BasicProperties} {headers : Headers}
    {body : Bytes} {count : Int} {now : DateTime}
    (retryable : classify error = .retry ∧ count < consumer.maxAttempts) :
    republication consumer properties headers body count now error =
      { exchange := consumer.retryExchange
        routingKey := retryRoutingKey
        message :=
          { body := body
            properties :=
              Consumer.failureProperties properties
                ((Consumer.failureHeaders headers count now error).insert "x-attempt-count"
                  (.int (count + 1))) } } := by
  rw [republication, if_pos retryable]

theorem republication_deadLetter {properties : Option BasicProperties} {headers : Headers}
    {body : Bytes} {count : Int} {now : DateTime}
    (final : ¬ (classify error = .retry ∧ count < consumer.maxAttempts)) :
    republication consumer properties headers body count now error =
      { exchange := consumer.deadLetterExchange
        routingKey := deadLetterRoutingKey
        message :=
          { body := body
            properties :=
              Consumer.failureProperties properties
                (Consumer.failureHeaders headers count now error) } } := by
  rw [republication, if_neg final]

/-- A message on the retry queue waits for the attempt after the last one. -/
theorem Carried.waiting {next : DeliveryAttempt}
    (carried : Carried message (firstOf made next) (made.length + 2) current) :
    Waiting message (made ++ [next]) current ∧
      waitingQueues (made ++ [next]) current = { retry := [current] } := by
  cases made with
  | nil => exact ⟨.failed carried, rfl⟩
  | cons first rest =>
      refine ⟨.failed ?_, rfl⟩
      simpa [firstOf] using carried

/-- A failed attempt that may be repeated and is not the last one leaves the
message on the retry queue. -/
theorem Waiting.step_retry (waiting : Waiting message made current) {next : DeliveryAttempt}
    {count : Nat} (failed : next.result decoders message.body = .error error)
    (retryable : classify error = .retry ∧ (made.length : Int) + 1 < consumer.maxAttempts) :
    ∃ left, Carried message (firstOf made next) (made.length + 2) left ∧
      Chain.step consumer decoders
          { queues := waitingQueues made current, attempted := count } next =
        { queues := { retry := [left] }, attempted := count + 1 } := by
  refine ⟨_, waiting.carried_retry next (made.length + 1) (made.length + 2) error, ?_⟩
  rw [waiting.step_failed failed, republication_retry retryable]
  simp only [Queues.apply, route_retry]
  rfl

/-- Any other failed attempt leaves it on the dead-letter queue. -/
theorem Waiting.step_deadLetter (waiting : Waiting message made current) {next : DeliveryAttempt}
    {count : Nat} (failed : next.result decoders message.body = .error error)
    (final : ¬ (classify error = .retry ∧ (made.length : Int) + 1 < consumer.maxAttempts)) :
    ∃ left, Carried message (firstOf made next) (made.length + 1) left ∧
      Chain.step consumer decoders
          { queues := waitingQueues made current, attempted := count } next =
        { queues := { deadLetter := [left] }, attempted := count + 1 } := by
  refine ⟨_, waiting.carried_dead next (made.length + 1) error, ?_⟩
  rw [waiting.step_failed failed, republication_deadLetter final]
  simp only [Queues.apply, route_deadLetter]
  rfl

end Hops

/-! ## The whole chain -/

/-- How far a chain has come.  Every attempt before the last one has failed and
could be repeated. -/
inductive Phase (consumer : RabbitMQShipmentEventConsumer) (decoders : Decoders)
    (message : Message) : List DeliveryAttempt → Chain → Prop where
  | waiting {made : List DeliveryAttempt} {current : Message}
      (failed : ∀ attempt ∈ made, Retryable (attempt.result decoders message.body))
      (left : made.length < consumer.bound) (waits : Waiting message made current) :
      Phase consumer decoders message made
        { queues := waitingQueues made current, attempted := made.length }
  | handled {made later : List DeliveryAttempt} {last : DeliveryAttempt}
      (failed : ∀ attempt ∈ made, Retryable (attempt.result decoders message.body))
      (left : made.length < consumer.bound)
      (success : last.result decoders message.body = .ok ()) :
      Phase consumer decoders message (made ++ last :: later)
        { queues := {}, attempted := made.length + 1 }
  | deadLettered {made later : List DeliveryAttempt} {last : DeliveryAttempt} {current : Message}
      (failed : ∀ attempt ∈ made, Retryable (attempt.result decoders message.body))
      (left : made.length < consumer.bound)
      (final : Permanent (last.result decoders message.body) ∨
        (Retryable (last.result decoders message.body) ∧ made.length + 1 = consumer.bound))
      (carried : Carried message (firstOf made last) (made.length + 1) current) :
      Phase consumer decoders message (made ++ last :: later)
        { queues := { deadLetter := [current] }, attempted := made.length + 1 }

section Chains

variable {consumer : RabbitMQShipmentEventConsumer} {decoders : Decoders}
  {message : Message} {attempts : List DeliveryAttempt} {chain : Chain}

/-- Step lemma: one more attempt. -/
theorem Phase.step (phase : Phase consumer decoders message attempts chain)
    (next : DeliveryAttempt) :
    Phase consumer decoders message (attempts ++ [next])
      (chain.step consumer decoders next) := by
  cases phase with
  | @waiting made current failed left waits =>
      cases outcome : next.result decoders message.body with
      | ok value =>
          rw [waits.step_handled outcome]
          exact .handled failed left outcome
      | error error =>
          by_cases retryable : classify error = .retry ∧
              (attempts.length : Int) + 1 < consumer.maxAttempts
          · obtain ⟨remaining, carried, stepped⟩ := waits.step_retry outcome retryable
            obtain ⟨waits, queued⟩ := carried.waiting
            rw [stepped, ← queued]
            have length : (attempts ++ [next]).length = attempts.length + 1 := by simp
            rw [← length]
            refine .waiting ?_ ?_ waits
            · intro attempt member
              rcases List.mem_append.mp member with earlier | last
              · exact failed attempt earlier
              · rw [List.mem_singleton.mp last]
                exact ⟨error, outcome, retryable.1⟩
            · rw [length, RabbitMQShipmentEventConsumer.bound]
              omega
          · obtain ⟨remaining, carried, stepped⟩ := waits.step_deadLetter outcome retryable
            rw [stepped]
            refine .deadLettered failed left ?_ carried
            cases disposition : classify error with
            | deadLetter => exact .inl ⟨error, outcome, disposition⟩
            | retry =>
                refine .inr ⟨⟨error, outcome, disposition⟩, ?_⟩
                rw [RabbitMQShipmentEventConsumer.bound] at left ⊢
                have last : ¬ (attempts.length : Int) + 1 < consumer.maxAttempts :=
                  fun more => retryable ⟨disposition, more⟩
                omega
  | @handled made later last failed left success =>
      rw [List.append_assoc, List.cons_append]
      exact .handled failed left success
  | @deadLettered made later last current failed left final carried =>
      rw [List.append_assoc, List.cons_append]
      exact .deadLettered failed left final carried

/-- Run lemma: any number of further attempts. -/
theorem Phase.run (phase : Phase consumer decoders message attempts chain)
    (more : List DeliveryAttempt) :
    Phase consumer decoders message (attempts ++ more) (chain.run consumer decoders more) := by
  induction more generalizing attempts chain with
  | nil => rwa [List.append_nil]
  | cons next rest inductionHypothesis =>
      have stepped := inductionHypothesis (phase.step next)
      rwa [List.append_assoc] at stepped

theorem Phase.start (uncounted :
      (headersOf (some message.properties)).lookup "x-attempt-count" = none) :
    Phase consumer decoders message [] (Chain.start message) := by
  have positive : 0 < consumer.bound := by
    rw [RabbitMQShipmentEventConsumer.bound]
    omega
  exact .waiting (by simp) positive (.fresh uncounted)

/-- Whatever is left after the first attempt is what the first attempt has made of
the message. -/
theorem Phase.carried {first : DeliveryAttempt} {rest : List DeliveryAttempt}
    (phase : Phase consumer decoders message (first :: rest) chain) {current : Message}
    (member : current ∈ chain.queues.all) :
    ∃ count, Carried message first count current := by
  generalize attempts : first :: rest = made at phase
  cases phase with
  | @waiting made remaining failed left waits =>
      subst attempts
      have same : current = remaining := by simpa [Queues.all, waitingQueues] using member
      cases waits with
      | failed carried => exact ⟨_, same ▸ carried⟩
  | handled => simp [Queues.all] at member
  | @deadLettered made later last remaining failed left final carried =>
      have same : current = remaining := by simpa [Queues.all] using member
      rw [same]
      cases made with
      | nil =>
          cases attempts
          exact ⟨_, carried⟩
      | cons head tail =>
          cases attempts
          exact ⟨_, carried⟩

/-- How a chain ends, and what its messages count, by the results of the attempts
there have been. -/
structure Bounded (consumer : RabbitMQShipmentEventConsumer)
    (results : List (Except PyError Unit)) (queues : Queues) : Prop where
  attempts : results.length ≤ consumer.bound
  finished : queues.main = [] → queues.retry = [] →
    (queues.deadLetter.length = 1 ↔
      (∃ result ∈ results, Permanent result) ∨
        (results.length = consumer.bound ∧ ∀ result ∈ results, Retryable result))
  once : queues.all.length ≤ 1
  waiting : ∀ current ∈ queues.retry,
    (headersOf (some current.properties)).lookup "x-attempt-count" =
      some (.int (1 + results.countP fun result => result ≠ .ok ()))
  deadLettered : ∀ current ∈ queues.deadLetter,
    (headersOf (some current.properties)).lookup "x-attempt-count" =
      some (.int (results.countP fun result => result ≠ .ok ()))

theorem Retryable.failed {result : Except PyError Unit} (retryable : Retryable result) :
    result ≠ .ok () := by
  obtain ⟨error, rfl, -⟩ := retryable
  exact fun equality => by cases equality

theorem Retryable.not_permanent {result : Except PyError Unit}
    (retryable : Retryable result) : ¬ Permanent result := by
  obtain ⟨error, rfl, disposition⟩ := retryable
  rintro ⟨other, equality, permanent⟩
  cases equality
  rw [disposition] at permanent
  cases permanent

theorem Permanent.failed {result : Except PyError Unit} (permanent : Permanent result) :
    result ≠ .ok () := by
  obtain ⟨error, rfl, -⟩ := permanent
  exact fun equality => by cases equality

theorem take_made (made later : List DeliveryAttempt) (last : DeliveryAttempt) :
    (made ++ last :: later).take (made.length + 1) = made ++ [last] := by
  rw [List.take_append, List.take_of_length_le (Nat.le_succ _)]
  simp

theorem Phase.bounded (phase : Phase consumer decoders message attempts chain) :
    Bounded consumer
      ((attempts.take chain.attempted).map fun attempt =>
        attempt.result decoders message.body)
      chain.queues := by
  cases phase with
  | @waiting made current failed left waits =>
      rw [List.take_length]
      have failures : (attempts.map fun attempt => attempt.result decoders message.body).countP
          (fun result => result ≠ .ok ()) = attempts.length := by
        rw [List.countP_eq_length.mpr, List.length_map]
        intro result member
        obtain ⟨attempt, made, rfl⟩ := List.mem_map.mp member
        exact decide_eq_true (failed attempt made).failed
      refine ⟨?_, ?_, ?_, ?_, ?_⟩
      · rw [List.length_map]
        exact Nat.le_of_lt left
      · cases attempts <;> simp [waitingQueues]
      · cases attempts <;> simp [waitingQueues, Queues.all]
      · intro other member
        rw [failures]
        cases waits with
        | fresh => simp [waitingQueues] at member
        | failed carried =>
            have same : other = current := by simpa [waitingQueues] using member
            rw [same, carried.attemptCount, List.length_cons]
            congr 2
            omega
      · cases attempts <;> simp [waitingQueues]
  | @handled made later last failed left success =>
      rw [take_made, List.map_append]
      refine ⟨by simpa using Nat.succ_le_of_lt left, ?_, by simp [Queues.all], by simp, by simp⟩
      intro _ _
      refine ⟨fun nothing => by simp at nothing, ?_⟩
      rintro (⟨result, member, permanent⟩ | ⟨-, retryable⟩)
      · rcases List.mem_append.mp member with earlier | only
        · obtain ⟨attempt, made, rfl⟩ := List.mem_map.mp earlier
          exact absurd permanent (failed attempt made).not_permanent
        · have same : result = last.result decoders message.body := by simpa using only
          exact absurd (same.trans success) permanent.failed
      · exact absurd success (retryable _ (by simp)).failed
  | @deadLettered made later last current failed left final carried =>
      rw [take_made, List.map_append]
      have lastFailed : last.result decoders message.body ≠ .ok () := by
        rcases final with permanent | ⟨retryable, -⟩
        · exact permanent.failed
        · exact retryable.failed
      have failures : (made.map (fun attempt => attempt.result decoders message.body) ++
          [last].map fun attempt => attempt.result decoders message.body).countP
            (fun result => result ≠ .ok ()) = made.length + 1 := by
        rw [List.countP_eq_length.mpr]
        · simp
        · intro result member
          rcases List.mem_append.mp member with earlier | only
          · obtain ⟨attempt, made, rfl⟩ := List.mem_map.mp earlier
            exact decide_eq_true (failed attempt made).failed
          · have same : result = last.result decoders message.body := by simpa using only
            exact decide_eq_true (same ▸ lastFailed)
      refine ⟨by simpa using Nat.succ_le_of_lt left, ?_, by simp [Queues.all], by simp, ?_⟩
      · intro _ _
        refine ⟨fun _ => ?_, fun _ => rfl⟩
        rcases final with permanent | ⟨retryable, reached⟩
        · exact .inl ⟨_, by simp, permanent⟩
        · refine .inr ⟨by simpa using reached, ?_⟩
          intro result member
          rcases List.mem_append.mp member with earlier | only
          · obtain ⟨attempt, made, rfl⟩ := List.mem_map.mp earlier
            exact failed attempt made
          · have same : result = last.result decoders message.body := by simpa using only
            exact same ▸ retryable
      · intro other member
        have same : other = current := by simpa using member
        rw [failures, same, carried.attemptCount]
        simp

theorem Phase.attempted_le (phase : Phase consumer decoders message attempts chain) :
    chain.attempted ≤ attempts.length ∧ chain.attempted ≤ consumer.bound := by
  cases phase with
  | waiting failed left => exact ⟨Nat.le_refl _, Nat.le_of_lt left⟩
  | handled failed left => exact ⟨by simp, left⟩
  | deadLettered failed left => exact ⟨by simp, left⟩

end Chains

/-- The chain of attempts at a message that comes without an attempt count, with any
number of attempts allowed and any outcomes.  There are at most as many attempts as
allowed.  A finished chain has left the message on the dead-letter queue exactly
when an attempt has failed for good or all of them have been used up.  The attempt
count is one more than the failed attempts while the message waits for a retry, and
their number once it is dead-lettered.  The body, the message id, the type and all
other headers stay what they were; the correlation id and the time of the first
failure stay what they were after the first delivery. -/
theorem bounded_retry (consumer : RabbitMQShipmentEventConsumer) (decoders : Decoders)
    (message : Message)
    (uncounted : (headersOf (some message.properties)).lookup "x-attempt-count" = none)
    (attempts : List DeliveryAttempt) :
    let chain := (Chain.start message).run consumer decoders attempts
    Bounded consumer
        ((attempts.take chain.attempted).map fun attempt =>
          attempt.result decoders message.body)
        chain.queues ∧
      (chain.attempted ≤ attempts.length ∧ chain.attempted ≤ consumer.bound) ∧
      (∀ current ∈ chain.queues.all,
        current.body = message.body ∧
          current.properties.messageId = message.properties.messageId ∧
          current.properties.type = message.properties.type ∧
          ∀ name, name ∉ metadataHeaders →
            (headersOf (some current.properties)).lookup name =
              (headersOf (some message.properties)).lookup name) ∧
      ∀ more, attempts ≠ [] → ∀ current ∈ chain.queues.all,
        ∀ later ∈ (chain.run consumer decoders more).queues.all,
          later.properties.correlationId = current.properties.correlationId ∧
            (headersOf (some later.properties)).lookup "x-first-failed-at" =
              (headersOf (some current.properties)).lookup "x-first-failed-at" := by
  intro chain
  have phase : Phase consumer decoders message attempts chain :=
    (Phase.start uncounted).run attempts
  refine ⟨phase.bounded, ?_, ?_, ?_⟩
  · exact phase.attempted_le
  · intro current member
    cases attempts with
    | nil =>
        have same : current = message := by
          simpa [chain, Chain.run, Chain.start, Queues.all] using member
        subst same
        exact ⟨rfl, rfl, rfl, fun _ _ => rfl⟩
    | cons first rest =>
        obtain ⟨count, carried⟩ := phase.carried member
        exact ⟨carried.body, carried.messageId, carried.type, carried.others⟩
  · intro more begun current member later remains
    cases attempts with
    | nil => exact absurd rfl begun
    | cons first rest =>
        obtain ⟨before, now⟩ := phase.carried member
        obtain ⟨after, carried⟩ := (phase.run more).carried remains
        exact ⟨carried.correlationId.trans now.correlationId.symm,
          carried.firstFailedAt.trans now.firstFailedAt.symm⟩

/-- A message of another publisher, and readers that accept it. -/
def probe : Message where
  body := []
  properties := { messageId := some "message-7", correlationId := some "request-7" }

def probeDecoders : Decoders where
  loads _ :=
    .ok (.obj
      [("contract_version", .str "v1"), ("message_id", .str ""), ("event_id", .str ""),
       ("shipment_id", .str ""), ("event_type", .str "DELIVERED"), ("source", .str "carrier"),
       ("occurred_at", .str ""), ("received_at", .str ""), ("payload", .obj [])])
  uuid _ := some ⟨7#128⟩
  fromisoformat _ := some (.utc 0)

/-- An attempt that times out. -/
def timeout : DeliveryAttempt where
  handled := .error (.exception "TimeoutError" "database")
  now := .utc 0
  uuid := ⟨0⟩

/-- Three attempts that time out lead to the dead-letter queue. -/
theorem timeouts_bounded :
    let chain := (Chain.start probe).run { exchange := "freight.shipment-events" }
      probeDecoders [timeout, timeout, timeout, timeout]
    chain.queues.deadLetter.length = 1 ∧ chain.attempted ≤ 3 := by
  refine ⟨by decide +kernel, ?_⟩
  exact (bounded_retry { exchange := "freight.shipment-events" } probeDecoders probe rfl
    [timeout, timeout, timeout, timeout]).2.1.2

end Freight
