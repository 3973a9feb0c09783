/-
Module: Freight.Proofs.BrokerInvariant
Purpose: What the broker keeps whatever happens to its deliveries: a message that was put
  on the main queue is live, or some delivery of it has been handled.  Live is a copy in a
  queue, or with a delivery that has not been republished yet; a copy that has been
  republished does not count, so that no two copies vouch for each other.
Trusted boundary: none
Main exports:
  Note.Lawful, Broker.Genuine, Broker.Live, Broker.Handled, Broker.Sound,
  Broker.Sound.enter, Broker.Sound.deliver, Broker.Sound.published,
  Broker.Sound.acknowledge, Broker.Sound.requeue, Broker.Sound.expire
-/
import Freight.Messaging.Broker
import Freight.Proofs.DeliverySettlement

namespace Freight

open Interaction (ProcessId Journal)

/-- What a note of a delivery follows: a delivery begins with being delivered; what it
calls the callable with is its body decoded; it publishes its body, and to the retry or
the dead-letter exchange, when the callable has not returned; and it is acknowledged once,
after the callable or the publication has returned. -/
def Note.Lawful (consumer : RabbitMQShipmentEventConsumer) (decoders : Decoders)
    (earlier : List Note) : Note → Prop
  | .delivered _ _ => earlier = []
  | .called _ event => ∃ deliveryTag letter message,
      earlier = [.delivered deliveryTag letter] ∧
        ShipmentEventMessage.fromJson decoders letter.message.body = .ok message ∧
        event = message.toEvent
  | .returned => ∃ deliveryTag letter correlationId event,
      earlier = [.delivered deliveryTag letter, .called correlationId event]
  | .published republication => ∃ deliveryTag letter,
      .delivered deliveryTag letter ∈ earlier ∧ .returned ∉ earlier ∧
        republication.Carries consumer letter.message.body
  | .acknowledged deliveryTag =>
      (∃ letter, .delivered deliveryTag letter ∈ earlier) ∧
        (.returned ∈ earlier ∨ ∃ republication, .published republication ∈ earlier) ∧
        ∀ other, .acknowledged other ∉ earlier

namespace Broker

section Definitions

variable (broker : Broker)

/-- A letter carries the body of the message that it stems from. -/
def Genuine (letter : Letter) : Prop :=
  ∃ message ∈ broker.entered[letter.origin]?, letter.message.body = message.body

/-- A copy of a message is in a queue, or with a delivery that has not republished it. -/
def Live (origin : Nat) : Prop :=
  (∃ place, ∃ letter ∈ broker.queues place, letter.origin = origin) ∨
    ∃ process delivery, (process, delivery) ∈ broker.unacked ∧
      delivery.letter.origin = origin ∧
      ∀ republication, .published republication ∉ broker.journal.entriesOf process

/-- The callable has returned for a delivery of the message. -/
def Handled (origin : Nat) : Prop :=
  ∃ process deliveryTag letter correlationId event,
    letter.origin = origin ∧
      .delivered deliveryTag letter ∈ broker.journal.entriesOf process ∧
      .called correlationId event ∈ broker.journal.entriesOf process ∧
      .returned ∈ broker.journal.entriesOf process

/-- The invariant of the broker. -/
structure Sound (consumer : RabbitMQShipmentEventConsumer) (decoders : Decoders) : Prop where
  orderly : broker.journal.Orderly (Note.Lawful consumer decoders)
  queued : ∀ place, ∀ letter ∈ broker.queues place, broker.Genuine letter
  delivered : ∀ process deliveryTag letter,
    .delivered deliveryTag letter ∈ broker.journal.entriesOf process → broker.Genuine letter
  pending : ∀ process delivery, (process, delivery) ∈ broker.unacked →
    .delivered delivery.deliveryTag delivery.letter ∈ broker.journal.entriesOf process
  safe : ∀ origin < broker.entered.length, broker.Live origin ∨ broker.Handled origin

end Definitions

variable {consumer : RabbitMQShipmentEventConsumer} {decoders : Decoders} {broker : Broker}
  {process : ProcessId}

/-! ## What the operations leave -/

@[simp] theorem put_entered (place : Place) (letters : List Letter) :
    (broker.put place letters).entered = broker.entered := rfl

@[simp] theorem put_unacked (place : Place) (letters : List Letter) :
    (broker.put place letters).unacked = broker.unacked := rfl

@[simp] theorem put_journal (place : Place) (letters : List Letter) :
    (broker.put place letters).journal = broker.journal := rfl

theorem mem_put {place other : Place} {letters : List Letter} {letter : Letter} :
    letter ∈ (broker.put place letters).queues other ↔
      letter ∈ broker.queues other ∨ (other = place ∧ letter ∈ letters) := by
  by_cases same : other = place
  · subst same
    simp [put]
  · simp [put, same]

theorem enter_queues (message : Message) :
    (broker.enter message).queues =
      (broker.put .main [{ origin := broker.entered.length, message := message }]).queues :=
  rfl

theorem requeue_queues (process : ProcessId) :
    (broker.requeue process).queues =
      (broker.put .main ((broker.unacked.entriesOf process).map Unacked.letter)).queues :=
  rfl

theorem mem_of_take {place other : Place} {index : Nat} {letter : Letter}
    (member : letter ∈ (broker.take place index).queues other) :
    letter ∈ broker.queues other := by
  by_cases same : other = place
  · subst same
    simp only [take, Function.update_self] at member
    exact List.mem_of_mem_eraseIdx member
  · simpa [take, same] using member

/-- What is in a queue is the letter taken from it, or is left. -/
theorem mem_take {place other : Place} {index : Nat} {letter taken : Letter}
    (found : (broker.queues place)[index]? = some taken)
    (member : letter ∈ broker.queues other) :
    (other = place ∧ letter = taken) ∨ letter ∈ (broker.take place index).queues other := by
  by_cases same : other = place
  · subst same
    obtain ⟨position, inside, rfl⟩ := List.mem_iff_getElem.mp member
    by_cases here : position = index
    · subst here
      rw [List.getElem?_eq_getElem inside] at found
      exact .inl ⟨rfl, Option.some.inj found⟩
    · refine .inr ?_
      simp only [take, Function.update_self]
      exact List.mem_eraseIdx_iff_getElem.mpr ⟨position, inside, here, rfl⟩
  · refine .inr ?_
    simpa [take, same] using member

theorem mem_note {owner : ProcessId} {note entry : Note} :
    entry ∈ (broker.note process note).journal.entriesOf owner ↔
      entry ∈ broker.journal.entriesOf owner ∨ (owner = process ∧ entry = note) := by
  simp only [Broker.note, Journal.mem_entriesOf, List.mem_append, List.mem_singleton,
    Prod.mk.injEq]

/-! ## What stays -/

theorem Genuine.grows {letter : Letter} (genuine : broker.Genuine letter)
    {after : Broker} (entered : broker.entered <+: after.entered) : after.Genuine letter := by
  obtain ⟨message, found, body⟩ := genuine
  obtain ⟨more, grown⟩ := entered
  refine ⟨message, ?_, body⟩
  rw [← grown, Option.mem_def, List.getElem?_append_left (List.getElem?_eq_some_iff.mp found).1]
  exact found

theorem Handled.grows {origin : Nat} (handled : broker.Handled origin) {after : Broker}
    (entries : ∀ owner, ∀ note ∈ broker.journal.entriesOf owner,
      note ∈ after.journal.entriesOf owner) : after.Handled origin := by
  obtain ⟨owner, deliveryTag, letter, correlationId, event, stems, delivered, called,
    returned⟩ := handled
  exact ⟨owner, deliveryTag, letter, correlationId, event, stems, entries owner _ delivered,
    entries owner _ called, entries owner _ returned⟩

theorem Live.put {origin : Nat} (live : broker.Live origin) (place : Place)
    (letters : List Letter) : (broker.put place letters).Live origin := by
  rcases live with ⟨queue, letter, member, stems⟩ | held
  · exact .inl ⟨queue, letter, mem_put.mpr (.inl member), stems⟩
  · exact .inr held

/-- A note that tells of no publication leaves every copy live. -/
theorem Live.note {origin : Nat} (live : broker.Live origin) {note : Note}
    (unpublished : ∀ republication, note ≠ .published republication) :
    (broker.note process note).Live origin := by
  rcases live with queued | ⟨owner, delivery, member, stems, unsent⟩
  · exact .inl queued
  · refine .inr ⟨owner, delivery, member, stems, fun republication sent => ?_⟩
    rcases mem_note.mp sent with earlier | ⟨-, same⟩
    · exact unsent republication earlier
    · exact unpublished republication same.symm

namespace Sound

/-- Step lemma: a note that tells of no publication and no delivery. -/
theorem note (sound : broker.Sound consumer decoders) {note : Note}
    (lawful : note.Lawful consumer decoders (broker.journal.entriesOf process))
    (unpublished : ∀ republication, note ≠ .published republication)
    (undelivered : ∀ deliveryTag letter, note ≠ .delivered deliveryTag letter) :
    (broker.note process note).Sound consumer decoders where
  orderly := sound.orderly.snoc lawful
  queued := sound.queued
  delivered := by
    intro owner deliveryTag letter member
    rcases mem_note.mp member with earlier | ⟨-, same⟩
    · exact sound.delivered owner deliveryTag letter earlier
    · exact absurd same.symm (undelivered deliveryTag letter)
  pending := by
    intro owner delivery member
    exact mem_note.mpr (.inl (sound.pending owner delivery member))
  safe := by
    intro origin bound
    rcases sound.safe origin bound with live | handled
    · exact .inl (live.note unpublished)
    · exact .inr (handled.grows fun owner entry earlier => mem_note.mpr (.inl earlier))

/-- Step lemma: a producer's message. -/
theorem enter (sound : broker.Sound consumer decoders) (message : Message) :
    (broker.enter message).Sound consumer decoders where
  orderly := sound.orderly
  queued := by
    intro place letter member
    rcases mem_put.mp member with earlier | ⟨-, new⟩
    · exact (sound.queued place letter earlier).grows (List.prefix_append _ _)
    · rw [List.mem_singleton.mp new]
      exact ⟨message, by simp [Broker.enter], rfl⟩
  delivered := by
    intro owner deliveryTag letter member
    exact (sound.delivered owner deliveryTag letter member).grows (List.prefix_append _ _)
  pending := sound.pending
  safe := by
    intro origin bound
    have length : (broker.enter message).entered.length = broker.entered.length + 1 := by
      simp [Broker.enter]
    rw [length] at bound
    by_cases new : origin = broker.entered.length
    · let letter : Letter := { origin := broker.entered.length, message := message }
      have queued : letter ∈ (broker.enter message).queues .main := by
        rw [enter_queues]
        exact mem_put.mpr (.inr ⟨rfl, List.mem_singleton_self letter⟩)
      exact .inl (.inl ⟨.main, letter, queued, new.symm⟩)
    · rcases sound.safe origin (by omega) with live | handled
      · exact .inl (live.put .main _)
      · exact .inr handled

/-- Step lemma: a delivery to a process that has had none. -/
theorem deliver (sound : broker.Sound consumer decoders)
    (fresh : broker.journal.entriesOf process = []) {index deliveryTag : Nat}
    {delivery : Unacked} {after : Broker}
    (delivers : broker.deliver process index deliveryTag = some (delivery, after)) :
    after.Sound consumer decoders ∧
      after.journal = broker.journal ++
        [(process, .delivered delivery.deliveryTag delivery.letter)] := by
  obtain ⟨letter, found, same⟩ := Option.map_eq_some_iff.mp delivers
  obtain ⟨rfl, rfl⟩ := Prod.mk.inj same
  have member : letter ∈ broker.queues .main := List.mem_of_getElem? found
  refine ⟨⟨sound.orderly.snoc fresh, ?_, ?_, ?_, ?_⟩, rfl⟩
  · intro place other left
    exact sound.queued place other (mem_of_take left)
  · intro owner tag other noted
    rcases mem_note.mp noted with earlier | ⟨-, same⟩
    · exact sound.delivered owner tag other earlier
    · cases same
      exact sound.queued .main letter member
  · intro owner pending held
    rcases List.mem_append.mp held with earlier | new
    · exact mem_note.mpr (.inl (sound.pending owner pending earlier))
    · cases List.mem_singleton.mp new
      exact mem_note.mpr (.inr ⟨rfl, rfl⟩)
  · intro origin bound
    rcases sound.safe origin bound with (queued | held) | handled
    · obtain ⟨place, other, queued, stems⟩ := queued
      rcases mem_take found queued with ⟨-, rfl⟩ | left
      · refine .inl (.inr ⟨process, _, List.mem_append_right _ (List.mem_singleton_self _),
          stems, ?_⟩)
        intro republication sent
        rcases mem_note.mp sent with earlier | ⟨-, same⟩
        · have nothing : Note.published republication ∈ broker.journal.entriesOf process :=
            earlier
          rw [fresh] at nothing
          cases nothing
        · cases same
      · exact .inl (.inl ⟨place, other, left, stems⟩)
    · obtain ⟨owner, pending, held, stems, unsent⟩ := held
      refine .inl (.inr ⟨owner, pending, List.mem_append_left _ held, stems, ?_⟩)
      intro republication sent
      rcases mem_note.mp sent with earlier | ⟨-, same⟩
      · exact unsent republication earlier
      · cases same
    · exact .inr (handled.grows fun owner entry earlier => mem_note.mpr (.inl earlier))

/-- Step lemma: a further copy of what is genuine. -/
theorem put (sound : broker.Sound consumer decoders) (place : Place) {letter : Letter}
    (genuine : broker.Genuine letter) :
    (broker.put place [letter]).Sound consumer decoders where
  orderly := sound.orderly
  queued := by
    intro other queued member
    rcases mem_put.mp member with earlier | ⟨-, new⟩
    · exact sound.queued other queued earlier
    · rw [List.mem_singleton.mp new]
      exact genuine
  delivered := sound.delivered
  pending := sound.pending
  safe := by
    intro origin bound
    rcases sound.safe origin bound with live | handled
    · exact .inl (live.put place _)
    · exact .inr handled

/-- Step lemma: a delivery whose copy is in a queue need not be live itself. -/
theorem published (sound : broker.Sound consumer decoders)
    {republication : Consumer.Republication} {place : Place} {copy : Letter}
    (lawful : Note.Lawful consumer decoders (broker.journal.entriesOf process)
      (.published republication))
    (queued : copy ∈ broker.queues place)
    (stems : ∀ delivery, (process, delivery) ∈ broker.unacked →
      delivery.letter.origin = copy.origin) :
    (broker.note process (.published republication)).Sound consumer decoders where
  orderly := sound.orderly.snoc lawful
  queued := sound.queued
  delivered := by
    intro owner deliveryTag letter member
    rcases mem_note.mp member with earlier | ⟨-, same⟩
    · exact sound.delivered owner deliveryTag letter earlier
    · cases same
  pending := by
    intro owner delivery member
    exact mem_note.mpr (.inl (sound.pending owner delivery member))
  safe := by
    intro origin bound
    rcases sound.safe origin bound with (inQueue | held) | handled
    · exact .inl (.inl inQueue)
    · obtain ⟨owner, delivery, member, same, unsent⟩ := held
      by_cases own : owner = process
      · subst own
        exact .inl (.inl ⟨place, copy, queued, (stems delivery member).symm.trans same⟩)
      · refine .inl (.inr ⟨owner, delivery, member, same, fun sent noted => ?_⟩)
        rcases mem_note.mp noted with earlier | ⟨mine, -⟩
        · exact unsent sent earlier
        · exact own mine
    · exact .inr (handled.grows fun owner entry earlier => mem_note.mpr (.inl earlier))

/-- Step lemma: a delivery is dropped that has been republished or handled. -/
theorem acknowledge (sound : broker.Sound consumer decoders) (deliveryTag : Nat)
    (settled : ∀ delivery, (process, delivery) ∈ broker.unacked →
      (∃ republication, .published republication ∈ broker.journal.entriesOf process) ∨
        broker.Handled delivery.letter.origin) :
    (broker.acknowledge process deliveryTag).Sound consumer decoders where
  orderly := sound.orderly
  queued := sound.queued
  delivered := sound.delivered
  pending := by
    intro owner delivery member
    exact sound.pending owner delivery (List.mem_filter.mp member).1
  safe := by
    intro origin bound
    rcases sound.safe origin bound with (queued | held) | handled
    · exact .inl (.inl queued)
    · obtain ⟨owner, delivery, member, stems, unsent⟩ := held
      by_cases own : owner = process
      · subst own
        rcases settled delivery member with ⟨republication, sent⟩ | handled
        · exact absurd sent (unsent republication)
        · exact .inr (stems ▸ handled)
      · refine .inl (.inr ⟨owner, delivery, List.mem_filter.mpr ⟨member, ?_⟩, stems, unsent⟩)
        simp [own]
    · exact .inr handled

/-- Step lemma: the deliveries of a process go back. -/
theorem requeue (sound : broker.Sound consumer decoders) (process : ProcessId) :
    (broker.requeue process).Sound consumer decoders where
  orderly := sound.orderly
  queued := by
    intro place letter member
    rcases mem_put.mp member with earlier | ⟨-, back⟩
    · exact sound.queued place letter earlier
    · obtain ⟨delivery, held, rfl⟩ := List.mem_map.mp back
      exact sound.delivered process _ _
        (sound.pending process delivery (Journal.mem_entriesOf.mp held))
  delivered := sound.delivered
  pending := by
    intro owner delivery member
    exact sound.pending owner delivery (List.mem_filter.mp member).1
  safe := by
    intro origin bound
    rcases sound.safe origin bound with (queued | held) | handled
    · obtain ⟨place, letter, member, stems⟩ := queued
      exact .inl (.inl ⟨place, letter, mem_put.mpr (.inl member), stems⟩)
    · obtain ⟨owner, delivery, member, stems, unsent⟩ := held
      by_cases own : owner = process
      · subst own
        have back : delivery.letter ∈ (broker.requeue owner).queues .main := by
          rw [requeue_queues]
          exact mem_put.mpr (.inr ⟨rfl, List.mem_map.mpr
            ⟨delivery, Journal.mem_entriesOf.mpr member, rfl⟩⟩)
        exact .inl (.inl ⟨.main, delivery.letter, back, stems⟩)
      · refine .inl (.inr ⟨owner, delivery, List.mem_filter.mpr ⟨member, ?_⟩, stems, unsent⟩)
        simp [own]
    · exact .inr handled

/-- Step lemma: a message returns from the retry queue. -/
theorem expire (sound : broker.Sound consumer decoders) {index : Nat}
    {properties : BasicProperties} {after : Broker}
    (expires : broker.expire index properties = some after) :
    after.Sound consumer decoders ∧ after.journal = broker.journal := by
  obtain ⟨letter, found, rfl⟩ := Option.map_eq_some_iff.mp expires
  have member : letter ∈ broker.queues .retry := List.mem_of_getElem? found
  refine ⟨⟨sound.orderly, ?_, sound.delivered, sound.pending, ?_⟩, rfl⟩
  · intro place other queued
    rcases mem_put.mp queued with earlier | ⟨-, back⟩
    · exact sound.queued place other (mem_of_take earlier)
    · rw [List.mem_singleton.mp back]
      exact sound.queued .retry letter member
  · intro origin bound
    rcases sound.safe origin bound with (queued | held) | handled
    · obtain ⟨place, other, queued, stems⟩ := queued
      rcases mem_take found queued with ⟨-, rfl⟩ | left
      · exact .inl (.inl ⟨.main, _, mem_put.mpr (.inr ⟨rfl, List.mem_singleton_self _⟩), stems⟩)
      · exact .inl (.inl ⟨place, other, mem_put.mpr (.inl left), stems⟩)
    · exact .inl (.inr held)
    · exact .inr handled

end Sound

/-! ## A republication -/

theorem deliveredTo_eq {deliveryTag : Nat} {letter : Letter} {rest : List Note}
    (entries : broker.journal.entriesOf process = .delivered deliveryTag letter :: rest) :
    broker.deliveredTo process = some letter := by
  rw [deliveredTo, entries]
  rfl

/-- A republication of a delivery leaves a copy in the retry queue or the dead-letter
queue. -/
theorem republish_eq {letter : Letter} {republication : Consumer.Republication} {body : Bytes}
    (delivered : broker.deliveredTo process = some letter)
    (carries : republication.Carries consumer body) :
    ∃ place, broker.republish consumer process republication =
      some (broker.put place
        [{ origin := letter.origin, message := republication.message }]) := by
  rcases carries.2 with ⟨exchange, routingKey⟩ | ⟨exchange, routingKey⟩
  · refine ⟨.retry, ?_⟩
    rw [republish, delivered, exchange, routingKey, route_retry]
    rfl
  · refine ⟨.deadLetter, ?_⟩
    rw [republish, delivered, exchange, routingKey, route_deadLetter]
    rfl

end Broker

end Freight
