/-
Module: Freight.Proofs.OutboundPublication
Purpose: An outbound publication succeeds exactly on a clean confirm, whatever else
  the connection delivers and in whatever order.
Trusted boundary: none
Main exports:
  Deliverable, Confirmed, Standing, Standing.after, afterAll_confirmed_iff, Delivered,
  ends_deliver, ends_start, ends_run, publication_succeeds_iff
-/
import Freight.Interaction.Solo
import Freight.Messaging.Outbox

namespace Freight.Outbox

open Interaction (Contract)
open Interaction.Computation (ends ends_mono ends_bind ends_pure ends_raise ends_read
  ends_modify ends_call_answered ends_onExit)
open Interaction.Program (Answered ends_answered_iff)

/-! ## Callbacks -/

namespace Callback

/-- The callback answers a request made of `self.channel`. -/
def isReply : Callback → Bool
  | .onExchange | .onQueue | .onBound | .onConfirmMode => true
  | _ => false

/-- The connection has gone. -/
def isClosed : Callback → Bool
  | .onClosed _ => true
  | _ => false

/-- The message came back or was refused. -/
def isRefusal : Callback → Bool
  | .onReturned | .onConfirmation .nack => true
  | _ => false

/-- The attempt has failed, unless the message was confirmed before. -/
def isFailure : Callback → Bool
  | .onChannelClosed _ | .onDeadline | .onClosed _ => true
  | callback => callback.isRefusal

end Callback

/-- Replies come after the channel they are replies on. -/
def Replying (opened : Prop) (callbacks : List Callback) : Prop :=
  ∀ earlier reply later, callbacks = earlier ++ reply :: later → reply.isReply = true →
    opened ∨ .onChannel ∈ earlier

theorem Callback.isRefusal_of_clean {callback : Callback} (clean : callback.isFailure = false) :
    callback.isRefusal = false := by
  cases callback with
  | onChannelClosed reason => rfl
  | onDeadline => rfl
  | onClosed reason => rfl
  | _ => exact clean

/-- What a connection can deliver to one attempt: it closes once and last, and it
answers no request of a channel before the channel is there. -/
structure Deliverable (callbacks : List Callback) : Prop where
  closes : ∃ earlier reason, callbacks = earlier ++ [.onClosed reason] ∧
    ∀ callback ∈ earlier, callback.isClosed = false
  replies : Replying False callbacks

/-- A clean confirm: an `Ack` before everything that fails the attempt, and the
message neither returned nor refused after it. -/
def Confirmed (callbacks : List Callback) : Prop :=
  ∃ before after, callbacks = before ++ .onConfirmation .ack :: after ∧
    (∀ callback ∈ before, callback.isFailure = false) ∧
      ∀ callback ∈ after, callback.isRefusal = false

/-! ## What the two flags stand for -/

/-- Where an attempt stands. -/
inductive Standing where
  | waiting
  | confirmed
  | failed
deriving DecidableEq, Repr

def Publication.standing (publication : Publication) : Standing :=
  match publication.error, publication.confirmed with
  | some _, _ => .failed
  | none, true => .confirmed
  | none, false => .waiting

/-- One callback later. -/
def Standing.after (callback : Callback) : Standing → Standing
  | .waiting =>
      if callback = .onConfirmation .ack then .confirmed
      else if callback.isFailure then .failed
      else .waiting
  | .confirmed => if callback.isRefusal then .failed else .confirmed
  | .failed => .failed

/-- Where an attempt stands after a list of callbacks. -/
def Standing.afterAll (standing : Standing) (callbacks : List Callback) : Standing :=
  callbacks.foldl (fun standing callback => standing.after callback) standing

@[simp] theorem Standing.afterAll_nil (standing : Standing) : standing.afterAll [] = standing :=
  rfl

@[simp] theorem Standing.afterAll_cons (standing : Standing) (callback : Callback)
    (callbacks : List Callback) :
    standing.afterAll (callback :: callbacks) = (standing.after callback).afterAll callbacks :=
  rfl

theorem afterAll_failed (callbacks : List Callback) :
    Standing.failed.afterAll callbacks = .failed := by
  induction callbacks with
  | nil => rfl
  | cons callback callbacks inductionHypothesis => exact inductionHypothesis

/-- A confirmed attempt stays confirmed as long as the message is not refused. -/
theorem afterAll_confirmed_iff (callbacks : List Callback) :
    Standing.confirmed.afterAll callbacks = .confirmed ↔
      ∀ callback ∈ callbacks, callback.isRefusal = false := by
  induction callbacks with
  | nil => simp
  | cons callback callbacks inductionHypothesis =>
      rw [Standing.afterAll_cons, List.forall_mem_cons]
      cases refusal : callback.isRefusal with
      | true => simp [Standing.after, refusal, afterAll_failed]
      | false => simpa [Standing.after, refusal] using inductionHypothesis

theorem confirmed_cons_iff (callback : Callback) (callbacks : List Callback) :
    Confirmed (callback :: callbacks) ↔
      (callback = .onConfirmation .ack ∧
          ∀ later ∈ callbacks, later.isRefusal = false) ∨
        callback.isFailure = false ∧ Confirmed callbacks := by
  constructor
  · intro confirmed
    obtain ⟨before, after, split, clean, kept⟩ := confirmed
    cases before with
    | nil =>
        obtain ⟨rfl, rfl⟩ := List.cons.inj split
        exact Or.inl ⟨rfl, kept⟩
    | cons first before =>
        obtain ⟨rfl, rfl⟩ := List.cons.inj split
        rw [List.forall_mem_cons] at clean
        exact Or.inr ⟨clean.1, before, after, rfl, clean.2, kept⟩
  · intro confirmed
    rcases confirmed with ⟨rfl, kept⟩ | ⟨clean, before, after, rfl, earlier, kept⟩
    · exact ⟨[], callbacks, rfl, by simp, kept⟩
    · exact ⟨callback :: before, after, rfl, List.forall_mem_cons.mpr ⟨clean, earlier⟩, kept⟩

/-- Whatever confirms an attempt, nothing in it refuses the message. -/
theorem Confirmed.kept {callbacks : List Callback} (confirmed : Confirmed callbacks) :
    ∀ callback ∈ callbacks, callback.isRefusal = false := by
  obtain ⟨before, after, rfl, clean, kept⟩ := confirmed
  intro callback member
  rcases List.mem_append.mp member with earlier | later
  · exact Callback.isRefusal_of_clean (clean callback earlier)
  · rcases List.mem_cons.mp later with rfl | later
    · rfl
    · exact kept callback later

/-- A list of callbacks confirms an attempt exactly by a clean confirm. -/
theorem afterAll_waiting_iff (callbacks : List Callback) :
    Standing.waiting.afterAll callbacks = .confirmed ↔ Confirmed callbacks := by
  induction callbacks with
  | nil => simp [Confirmed]
  | cons callback callbacks inductionHypothesis =>
      rw [Standing.afterAll_cons, confirmed_cons_iff]
      by_cases ack : callback = .onConfirmation .ack
      · subst ack
        constructor
        · intro confirmed
          exact Or.inl ⟨rfl, (afterAll_confirmed_iff callbacks).mp confirmed⟩
        · intro confirmed
          refine (afterAll_confirmed_iff callbacks).mpr ?_
          rcases confirmed with ⟨-, kept⟩ | ⟨-, again⟩
          · exact kept
          · exact again.kept
      · cases failure : callback.isFailure with
        | true => simp [Standing.after, ack, failure, afterAll_failed]
        | false => simpa [Standing.after, ack, failure] using inductionHypothesis

/-! ## One callback -/

section

variable {World : Type} (pika : Pika World)

/-- No call raises. -/
def Pika.Returns : Prop :=
  ∀ op world, ∃ reply, (pika op world).1 = .ok reply

variable {pika} {world : World} {publication : Publication}

/-- What a part of an attempt does where it returns; it raises only if a call does, or
if it is not ready. -/
def Settles (pika : Pika World) (ready : Prop) {α : Type}
    (post : α → Publication → Prop) : Contract.Post PyError Publication World α :=
  Contract.Post.on (fun value last _ => post value last) fun _ _ _ => ¬ (pika.Returns ∧ ready)

theorem settles_bind {α β : Type} {ready : Prop} {first : Publishing α}
    {next : α → Publishing β} {post : β → Publication → Prop}
    (middle : α → Publication → Prop)
    (verified : first.ends (Answered pika) (Settles pika ready middle) publication world)
    (rest : ∀ value last world, middle value last →
      (next value).ends (Answered pika) (Settles pika ready post) last world) :
    (first >>= next).ends (Answered pika) (Settles pika ready post) publication world := by
  apply ends_bind
  refine ends_mono verified ?_
  intro outcome last reached settled
  cases outcome with
  | ok value => exact rest value last reached settled
  | error error => exact settled

theorem settles_modify {ready : Prop} {update : Publication → Publication}
    {post : Unit → Publication → Prop} (established : post () (update publication)) :
    (Interaction.Computation.modify update : Publishing Unit).ends (Answered pika)
      (Settles pika ready post) publication world :=
  ends_modify established

/-- A call leaves the attempt as it is. -/
theorem settles_call {ready : Prop} {op : PikaOp} {post : op.Reply → Publication → Prop}
    (established : ∀ reply, post reply publication) :
    (call op).ends (Answered pika) (Settles pika ready post) publication world := by
  apply ends_call_answered
  simp only [Settles]
  cases answered : (pika op world).1 with
  | ok reply => exact established reply
  | error error =>
      intro ⟨returns, _⟩
      obtain ⟨reply, returned⟩ := returns op world
      rw [answered] at returned
      cases returned

/-- A call, and what follows it. -/
theorem settles_request {α : Type} {ready : Prop} {op : PikaOp} {next : op.Reply → Publishing α}
    {post : α → Publication → Prop}
    (rest : ∀ reply world,
      (next reply).ends (Answered pika) (Settles pika ready post) publication world) :
    (call op >>= next).ends (Answered pika) (Settles pika ready post) publication world := by
  refine settles_bind (fun _ last => last = publication) (settles_call fun _ => rfl) ?_
  intro reply last reached kept
  subst kept
  exact rest reply reached

/-- An assignment, and what follows it. -/
theorem settles_assign {α : Type} {ready : Prop} {update : Publication → Publication}
    {next : Unit → Publishing α} {post : α → Publication → Prop}
    (rest : (next ()).ends (Answered pika) (Settles pika ready post) (update publication)
      world) :
    (Interaction.Computation.modify update >>= next).ends (Answered pika)
      (Settles pika ready post) publication world := by
  apply ends_bind
  exact ends_modify rest

/-- What a callback leaves behind. -/
structure Delivered (callback : Callback) (publication last : Publication) : Prop where
  standing : last.standing = publication.standing.after callback
  channel : last.channel = (publication.channel || decide (callback = .onChannel))
  stopped : last.stopped = (publication.stopped || callback.isClosed)
  pending : last.pending = publication.pending

theorem settles_abort {ready : Prop} {post : Unit → Publication → Prop}
    (established : post () publication) :
    abort.ends (Answered pika) (Settles pika ready post) publication world := by
  unfold abort
  apply settles_request
  intro closed reached
  cases closed with
  | true => exact ends_pure established
  | false => exact settles_call fun _ => established

/-- A failure under the guard is one callback that can only report a failure. -/
theorem standing_fail {callback : Callback} (reason : PyError) (publication : Publication)
    (failure : callback.isFailure = true) (refusal : callback.isRefusal = false) :
    (publication.fail reason).standing = publication.standing.after callback := by
  have other : callback ≠ .onConfirmation .ack := by
    intro same
    subst same
    cases failure
  rcases publication with ⟨error | error, confirmed | confirmed, channel, pending, stopped⟩ <;>
    simp [Publication.fail, Publication.standing, Standing.after, failure, refusal, other]

theorem fail_frame (reason : PyError) (publication : Publication) :
    (publication.fail reason).channel = publication.channel ∧
      (publication.fail reason).stopped = publication.stopped ∧
        (publication.fail reason).pending = publication.pending := by
  unfold Publication.fail
  split
  · exact ⟨rfl, rfl, rfl⟩
  · exact ⟨rfl, rfl, rfl⟩

theorem delivered_fail {callback : Callback} (reason : PyError) (publication : Publication)
    (failure : callback.isFailure = true) (refusal : callback.isRefusal = false)
    (closed : callback.isClosed = false) :
    Delivered callback publication (publication.fail reason) where
  standing := standing_fail reason publication failure refusal
  channel := by
    have other : callback ≠ .onChannel := by
      intro same
      subst same
      cases failure
    simp [fail_frame, other]
  stopped := by simp [fail_frame, closed]
  pending := (fail_frame reason publication).2.2

/-- A callback that only asks for something. -/
theorem delivered_request {callback : Callback}
    (request : callback = .onOpen ∨ callback.isReply = true) :
    Delivered callback publication publication := by
  rcases publication with ⟨error | error, confirmed | confirmed, channel, pending, stopped⟩ <;>
    cases callback <;> simp [Callback.isReply] at request <;>
      exact ⟨rfl, (Bool.or_false _).symm, (Bool.or_false _).symm, rfl⟩

/-- A callback that asks `self.channel` for something. -/
theorem ends_reply {callback : Callback} (reply : callback.isReply = true)
    {body : Publishing Unit}
    (asks : ∀ ready, body.ends (Answered pika)
      (Settles pika ready fun _ last => last = publication) publication world) :
    (Outbox.channel >>= fun _ => body).ends (Answered pika)
      (Settles pika (callback.isReply = true → publication.channel = true)
        fun _ last => Delivered callback publication last) publication world := by
  apply ends_bind
  unfold Outbox.channel
  apply ends_bind
  apply ends_read
  simp only [Contract.Post.on]
  by_cases opened : publication.channel = true
  · rw [if_pos opened]
    apply ends_pure
    refine ends_mono (asks (callback.isReply = true → publication.channel = true)) ?_
    intro outcome last reached settled
    cases outcome with
    | ok value =>
        have kept : last = publication := settled
        subst kept
        exact delivered_request (Or.inr reply)
    | error error => exact settled
  · rw [if_neg opened]
    apply ends_raise
    intro ⟨_, ready⟩
    exact opened (ready reply)

/-- Any callback, delivered: a reply is not ready as long as there is no channel. -/
theorem ends_deliver (publisher : RabbitMQRecordedEventPublisher)
    (message : RecordedEventMessage) (callback : Callback) (publication : Publication)
    (world : World) :
    (callback.deliver publisher message).ends (Answered pika)
      (Settles pika (callback.isReply = true → publication.channel = true)
        fun _ last => Delivered callback publication last) publication world := by
  cases callback with
  | onOpen => exact settles_call fun _ => delivered_request (Or.inl rfl)
  | onChannel =>
      have opened : Delivered .onChannel publication { publication with channel := true } := by
        rcases publication with ⟨error | error, confirmed | confirmed, channel, _, _⟩ <;>
          exact ⟨rfl, (Bool.or_true _).symm, (Bool.or_false _).symm, rfl⟩
      apply settles_assign
      apply settles_request
      intro _ _
      apply settles_request
      intro _ _
      exact settles_call fun _ => opened
  | onExchange => exact ends_reply rfl fun _ => settles_call fun _ => rfl
  | onQueue => exact ends_reply rfl fun _ => settles_call fun _ => rfl
  | onBound => exact ends_reply rfl fun _ => settles_call fun _ => rfl
  | onConfirmMode => exact ends_reply rfl fun _ => settles_call fun _ => rfl
  | onReturned =>
      apply settles_modify
      rcases publication with ⟨error | error, confirmed | confirmed, channel, _, _⟩ <;>
        exact ⟨rfl, (Bool.or_false _).symm, (Bool.or_false _).symm, rfl⟩
  | onConfirmation method =>
      apply settles_assign
      refine settles_call fun _ => ?_
      cases method <;>
        rcases publication with ⟨error | error, confirmed | confirmed, channel, _, _⟩ <;>
          exact ⟨rfl, (Bool.or_false _).symm, (Bool.or_false _).symm, rfl⟩
  | onChannelClosed reason =>
      have failed : Delivered (.onChannelClosed reason) publication (publication.fail reason) :=
        delivered_fail reason publication rfl rfl rfl
      apply settles_assign
      apply settles_request
      intro isOpen _
      cases isOpen with
      | true => exact settles_call fun _ => failed
      | false => exact ends_pure failed
  | onDeadline =>
      apply settles_assign
      exact settles_abort (delivered_fail _ publication rfl rfl rfl)
  | onClosed reason =>
      apply settles_assign
      apply settles_request
      intro _ _
      apply settles_modify
      exact
        { standing := standing_fail reason publication rfl rfl
          channel := by simp [fail_frame]
          stopped := (Bool.or_true _).symm
          pending := (fail_frame reason publication).2.2 }

/-! ## The loop -/

@[simp] theorem replying_nil (opened : Prop) : Replying opened [] := by
  intro earlier reply later split
  cases earlier <;> cases split

@[simp] theorem replying_cons_iff {opened : Prop} {callback : Callback}
    {callbacks : List Callback} :
    Replying opened (callback :: callbacks) ↔
      (callback.isReply = true → opened) ∧
        Replying (opened ∨ callback = .onChannel) callbacks := by
  constructor
  · intro replies
    constructor
    · intro reply
      simpa using replies [] callback callbacks rfl reply
    · intro earlier reply later split isReply
      have whole : callback :: callbacks = (callback :: earlier) ++ reply :: later := by
        rw [split]
        rfl
      rcases replies _ reply later whole isReply with already | member
      · exact Or.inl (Or.inl already)
      · rcases List.mem_cons.mp member with first | member
        · exact Or.inl (Or.inr first.symm)
        · exact Or.inr member
  · intro ⟨head, tail⟩ earlier reply later split isReply
    cases earlier with
    | nil =>
        obtain ⟨rfl, rfl⟩ := List.cons.inj split
        exact Or.inl (head isReply)
    | cons first earlier =>
        obtain ⟨rfl, rest⟩ := List.cons.inj split
        rcases tail earlier reply later rest isReply with (already | rfl) | member
        · exact Or.inl already
        · exact Or.inr List.mem_cons_self
        · exact Or.inr (List.mem_cons_of_mem _ member)

theorem settles_weaken {α : Type} {ready weaker : Prop} {body : Publishing α}
    {post : α → Publication → Prop}
    (verified : body.ends (Answered pika) (Settles pika weaker post) publication world)
    (implies : ready → weaker) :
    body.ends (Answered pika) (Settles pika ready post) publication world := by
  refine ends_mono verified ?_
  intro outcome last reached settled
  cases outcome with
  | ok value => exact settled
  | error error => exact fun both => settled ⟨both.1, implies both.2⟩

/-- The loop delivers everything up to the end of the connection, which stops it. -/
theorem ends_start (pika : Pika World) (publisher : RabbitMQRecordedEventPublisher)
    (message : RecordedEventMessage) (reason : PyError) (earlier : List Callback)
    (connected : ∀ callback ∈ earlier, callback.isClosed = false) :
    ∀ (publication : Publication) (world : World),
      (start publisher message (earlier ++ [.onClosed reason])).ends (Answered pika)
        (Settles pika
          (Replying (publication.channel = true) (earlier ++ [.onClosed reason]))
          fun _ last =>
            last.standing = publication.standing.afterAll (earlier ++ [.onClosed reason]) ∧
              last.pending = [])
        publication world := by
  induction earlier with
  | nil =>
      intro publication world
      apply settles_assign
      refine settles_bind _ (settles_weaken (ends_deliver publisher message _ _ _) ?_) ?_
      · intro _ reply
        cases reply
      · intro _ last reached delivered
        apply ends_bind
        apply ends_read
        have stopped : last.stopped = true := delivered.stopped
        simp only [Contract.Post.on, stopped, if_true]
        exact ends_pure ⟨delivered.standing, delivered.pending⟩
  | cons callback earlier inductionHypothesis =>
      rw [List.forall_mem_cons] at connected
      intro publication world
      apply settles_assign
      refine settles_bind _ (settles_weaken (ends_deliver publisher message _ _ _) ?_) ?_
      · exact fun replies => (replying_cons_iff.mp replies).1
      · intro _ last reached delivered
        apply ends_bind
        apply ends_read
        have stopped : last.stopped = false := by simp [delivered.stopped, connected.1]
        simp only [Contract.Post.on, stopped, Bool.false_eq_true, if_false]
        have rest := inductionHypothesis connected.2 last reached
        have standing : last.standing = publication.standing.after callback :=
          delivered.standing
        rw [standing] at rest
        refine settles_weaken rest ?_
        intro replies
        simpa [delivered.channel] using (replying_cons_iff.mp replies).2

/-! ## A whole attempt -/

theorem settles_shutdown (ready : Prop) (publisher : RabbitMQRecordedEventPublisher)
    (message : RecordedEventMessage) (drained : publication.pending = []) :
    (shutdown publisher message).ends (Answered pika)
      (Settles pika ready fun _ last => last.standing = publication.standing) publication
      world := by
  unfold shutdown
  apply settles_request
  intro closed reached
  cases closed with
  | true => exact settles_call fun _ => rfl
  | false =>
      refine settles_bind (fun _ last => last = publication) (settles_abort rfl) ?_
      intro _ last reached kept
      subst kept
      apply ends_bind
      apply ends_read
      simp only [Contract.Post.on, drained]
      exact settles_call fun _ => rfl

/-- An attempt returns after a clean confirm only, and raises after one only where a
call raised. -/
theorem ends_run (pika : Pika World) (publisher : RabbitMQRecordedEventPublisher)
    (message : RecordedEventMessage) {callbacks : List Callback}
    (deliverable : Deliverable callbacks) (world : World) :
    (run publisher message callbacks).ends (Answered pika)
      (Settles pika (Confirmed callbacks) fun _ _ => Confirmed callbacks) {} world := by
  obtain ⟨⟨earlier, reason, rfl, connected⟩, replies⟩ := deliverable
  generalize whole : earlier ++ [Callback.onClosed reason] = callbacks at replies ⊢
  have standing := afterAll_waiting_iff callbacks
  unfold run
  apply settles_request
  intro _ started
  apply settles_bind fun _ last => last.standing = Standing.waiting.afterAll callbacks
  · apply ends_onExit
    have looped := ends_start pika publisher message reason earlier connected {} started
    rw [whole] at looped
    have settled := settles_weaken looped fun _ : Confirmed callbacks => by simpa using replies
    refine ends_mono settled ?_
    intro outcome last reached settled
    cases outcome with
    | ok value =>
        obtain ⟨stands, drained⟩ := settled
        refine ends_mono (settles_shutdown (Confirmed callbacks) publisher message drained) ?_
        intro cleaned final shut settled
        cases cleaned with
        | ok _ => exact Eq.trans settled stands
        | error error => exact settled
    | error error =>
        refine ends_answered_iff.mpr ?_
        generalize Interaction.Program.eval pika _ reached = evaluated
        rcases evaluated with ⟨⟨cleaned | cleaned, final⟩, shut⟩
        · exact settled
        · exact settled
  · intro _ last reached stands
    apply ends_bind
    apply ends_read
    simp only [Contract.Post.on]
    have confirmed : last.standing = .confirmed ↔ Confirmed callbacks := by
      rw [stands]
      exact standing
    rcases last with ⟨error | error, confirmed | confirmed, channel, pending, stopped⟩
    · apply ends_raise
      exact fun both => nomatch confirmed.mpr both.2
    · exact ends_pure (confirmed.mp rfl)
    · apply ends_raise
      exact fun both => nomatch confirmed.mpr both.2
    · apply ends_raise
      exact fun both => nomatch confirmed.mpr both.2

end

/-- The publisher reports a success exactly on a clean confirm: as long as the calls of
the library return, and never otherwise, whatever they do. -/
theorem publication_succeeds_iff {World : Type} (publisher : RabbitMQRecordedEventPublisher)
    (pika : Pika World) (world : World) (message : RecordedEventMessage)
    (callbacks : List Callback) (deliverable : Deliverable callbacks) :
    (pika.Returns →
        (publisher.publish pika world message callbacks = .ok () ↔ Confirmed callbacks)) ∧
      (¬ Confirmed callbacks →
        ∃ error, publisher.publish pika world message callbacks = .error error) := by
  have ended := ends_answered_iff.mp (ends_run pika publisher message deliverable world)
  change Settles pika _ _ (publisher.publish pika world message callbacks) _ _ at ended
  cases published : publisher.publish pika world message callbacks with
  | ok value =>
      rw [published] at ended
      have confirmed : Confirmed callbacks := ended
      exact ⟨fun _ => ⟨fun _ => confirmed, fun _ => rfl⟩, fun never => absurd confirmed never⟩
  | error error =>
      rw [published] at ended
      refine ⟨fun returns => ⟨(nomatch ·), fun confirmed => ?_⟩,
        fun _ => ⟨error, rfl⟩⟩
      exact absurd ⟨returns, confirmed⟩ ended

/-- A library whose calls return; the world is whether the connection has closed. -/
def obedient : Pika Bool
  | .isOpen, closed => (.ok (!closed), closed)
  | .isClosed, closed => (.ok closed, closed)
  | .stop, _ => (.ok (), true)
  | .callLater, closed | .channel, closed | .addOnCloseCallback, closed
  | .addOnReturnCallback, closed | .exchangeDeclare _ _ _, closed | .queueDeclare _ _, closed
  | .queueBind _ _ _, closed | .confirmDelivery, closed | .basicPublish _ _ _ _ _, closed
  | .close, closed | .terminateStream _, closed | .closeLoop, closed => (.ok (), closed)

/-- A confirmed message whose close handshake stalls until the deadline. -/
def stalledClose : List Callback :=
  [.onOpen, .onChannel, .onExchange, .onQueue, .onBound, .onConfirmMode,
    .onConfirmation .ack, .onDeadline,
    .onClosed (.exception "TimeoutError" "Outbound publication deadline")]

theorem stalledClose_deliverable : Deliverable stalledClose where
  closes := ⟨stalledClose.dropLast, _, rfl, by decide⟩
  replies := by simp [stalledClose, Callback.isReply]

/-- The deadline takes nothing back from a confirmed message. -/
theorem stalledClose_succeeds :
    RabbitMQRecordedEventPublisher.publish ⟨"freight.events", "freight.recorded-events"⟩
      obedient false ⟨⟨1⟩, ⟨2⟩, ⟨3⟩, .obj [], none⟩ stalledClose = .ok () := by
  refine ((publication_succeeds_iff _ obedient false _ stalledClose
    stalledClose_deliverable).1 ?_).mpr ?_
  · intro op world
    cases op <;> exact ⟨_, rfl⟩
  · exact ⟨stalledClose.take 6, stalledClose.drop 7, rfl, by decide, by decide⟩

end Freight.Outbox
