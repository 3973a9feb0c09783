/-
Module: Freight.Proofs.MessageSafety
Purpose: The ingestion loses no message: whatever is delivered, fails, is republished,
  returns or crashes in whatever order, each message is still with the broker unless it
  has been handled; and what has been handled is recorded, once.
Trusted boundary: none
Main exports:
  Agreed, Deployment.Invariant, ingestionDiscipline, statement_implements, holds_inSession,
  holds_consumeOne, ingestion_verified, ingestion_loses_nothing
-/
import Freight.Interaction.Embedding
import Freight.Messaging.Ingestion
import Freight.Proofs.BrokerInvariant
import Freight.Proofs.DeliverySettlement
import Freight.Proofs.ExactlyOnce

namespace Freight

open Interaction (ProcessId Contract Journal)

/-! ## How the processes share the deployment -/

/-- The store is verified for requests that are fixed in advance.  A run agrees with them
when they are what its deliveries have called the callable with. -/
structure Agreed (roles : ProcessId → Role) (requests : ProcessId → Request)
    (journal : Journal Note) : Prop where
  called : ∀ process correlationId event,
    .called correlationId event ∈ journal.entriesOf process →
      requests process = .handleEvent (some correlationId) event
  asked : ∀ process request, roles process = .request request → requests process = request

section Definitions

variable (server : Server) (consumer : RabbitMQShipmentEventConsumer) (decoders : Decoders)
  (roles : ProcessId → Role) (requests : ProcessId → Request)

/-- The invariant: the broker is sound, only deliveries leave notes, and while the run
agrees with the requests, the store keeps its own invariant and has recorded every event
for which the callable has returned. -/
structure Deployment.Invariant (world : Deployment) : Prop where
  broker : world.broker.Sound consumer decoders
  deliveries : ∀ process, world.broker.journal.entriesOf process ≠ [] →
    roles process = .delivery
  store : Agreed roles requests world.broker.journal →
    Freight.Invariant server {} False requests world.store
  recorded : Agreed roles requests world.broker.journal →
    ∀ process correlationId event,
      .called correlationId event ∈ world.broker.journal.entriesOf process →
      .returned ∈ world.broker.journal.entriesOf process →
      ∃ row, (replay {} world.store.wal).event event.eventId = some row

/-- What a process may rely on while the others take steps. -/
structure Unaffected (process : ProcessId) (before after : Deployment) : Prop where
  entries : after.broker.journal.entriesOf process = before.broker.journal.entriesOf process
  journal : before.broker.journal <+: after.broker.journal
  store : Agreed roles requests after.broker.journal →
    Undisturbed {} process before.store after.store

def ingestionDiscipline : Interaction.System.Discipline Deployment where
  invariant := Deployment.Invariant server consumer decoders roles requests
  rely := Unaffected roles requests
  guarantee := fun process before after =>
    ∀ other, other ≠ process → Unaffected roles requests other before after

/-- The contract of one process of the deployment. -/
def ingestionContract (process : ProcessId) :
    Contract Operation (fun op => Except PyError op.Reply) Deployment Resolution :=
  (ingestion server consumer decoders roles).contract
    (ingestionDiscipline server consumer decoders roles requests) process

/-- What a process knows: the notes of its own delivery, and a fact about the store. -/
structure Known (process : ProcessId) (entries : List Note) (fact : World → Prop)
    (world : Deployment) : Prop where
  entries : world.broker.journal.entriesOf process = entries
  fact : Agreed roles requests world.broker.journal → fact world.store

end Definitions

/-- The process has not come to the store yet. -/
def Uninvolved (process : ProcessId) (world : World) : Prop :=
  world.connection process = {} ∧ process ∉ world.wal.map Transaction.process

section Rules

variable {server : Server} {consumer : RabbitMQShipmentEventConsumer} {decoders : Decoders}
  {roles : ProcessId → Role} {requests : ProcessId → Request} {process : ProcessId}
  {world : Deployment} {entries : List Note} {fact : World → Prop}

/-- What a longer journal agrees with its beginning agrees with. -/
theorem Agreed.earlier {before after : Journal Note} (agreed : Agreed roles requests after)
    (grows : before <+: after) : Agreed roles requests before where
  called := by
    intro owner correlationId event member
    refine agreed.called owner correlationId event ?_
    exact Journal.mem_entriesOf.mpr (grows.subset (Journal.mem_entriesOf.mp member))
  asked := agreed.asked

theorem Unaffected.refl (world : Deployment) : Unaffected roles requests process world world where
  entries := rfl
  journal := List.prefix_refl _
  store _ := Undisturbed.refl world.store

theorem Unaffected.trans {first second third : Deployment}
    (one : Unaffected roles requests process first second)
    (two : Unaffected roles requests process second third) :
    Unaffected roles requests process first third where
  entries := two.entries.trans one.entries
  journal := one.journal.trans two.journal
  store agreed := (one.store (agreed.earlier two.journal)).trans (two.store agreed)

/-- What the store's own rules call stable the process keeps knowing. -/
theorem Known.stable
    (stable : (storeContract server {} False requests process).Stable fact) :
    (ingestionContract server consumer decoders roles requests process).Stable
      (Known roles requests process entries fact) := by
  intro before after known moved kept
  refine ⟨moved.entries.trans known.entries, fun agreed => ?_⟩
  exact stable before.store after.store (known.fact (agreed.earlier moved.journal))
    ⟨moved.store agreed, False.elim⟩ (kept.store agreed)

theorem Uninvolved.stable :
    (storeContract server {} False requests process).Stable (Uninvolved process) := by
  intro before after idle moved kept
  obtain ⟨undisturbed, -⟩ := moved
  refine ⟨undisturbed.connection.trans idle.1, ?_⟩
  obtain ⟨more, log, others⟩ := undisturbed.log
  rw [log, List.map_append, List.mem_append]
  intro member
  rcases member with earlier | later
  · exact idle.2 earlier
  · exact others later

/-- A log that has grown has what was recorded. -/
theorem recorded_grows {base : Database} {before after : World} {eventId : UUID}
    {other : ProcessId} (undisturbed : Undisturbed base other before after)
    (recorded : ∃ row, (replay base before.wal).event eventId = some row) :
    ∃ row, (replay base after.wal).event eventId = some row := by
  obtain ⟨row, found⟩ := recorded
  obtain ⟨more, log, -⟩ := undisturbed.log
  refine ⟨row, ?_⟩
  rw [log, replay_append]
  exact replay_event_of_some found

/-! ## Statements -/

/-- A statement keeps the contract of the deployment where it keeps that of the store. -/
theorem statement_implements :
    (storeContract server {} False requests process).Implements
      (ingestionContract server consumer decoders roles requests process)
      (fun op => (statementMeaning op ()).bind fun outcome => .done outcome.1)
      Deployment.store (fun world => Agreed roles requests world.broker.journal)
      (fun world => world.broker.journal.entriesOf process = entries) := by
  intro op post world verified framed moved rely kept resolution answer after acted
  cases resolution with
  | statement choice =>
      obtain ⟨result, performed, same⟩ := Option.map_eq_some_iff.mp acted
      obtain ⟨rfl, rfl⟩ := Prod.mk.inj same
      have step : Agreed roles requests moved.broker.journal →
          Freight.Invariant server {} False requests result.2 ∧
            (∀ other, other ≠ process → Undisturbed {} other moved.store result.2) ∧
            post result.1 result.2 := by
        intro agreed
        exact verified (agreed.earlier rely.journal) moved.store
          ⟨rely.store agreed, False.elim⟩ (kept.store agreed) choice result.1 result.2 performed
      refine ⟨⟨kept.broker, kept.deliveries, fun agreed => (step agreed).1, ?_⟩, ?_, ?_, ?_⟩
      · intro agreed owner correlationId event called returned
        exact recorded_grows ((step agreed).2.1 (process + 1) (Nat.succ_ne_self process))
          (kept.recorded agreed owner correlationId event called returned)
      · intro other different
        exact ⟨rfl, List.prefix_refl _, fun agreed => (step agreed).2.1 other different⟩
      · exact fun agreed => (step agreed).2.2
      · exact rely.entries.trans framed
  | _ => cases acted

/-- Code that is verified for the store is verified in a session of the deployment. -/
theorem holds_inSession {α : Type} {body : Py α} {post : Except PyError α → World → Prop}
    (verified : Agreed roles requests world.broker.journal →
      (storeContract server {} False requests process).holds body
        (fun outcome _ last => post outcome last) {} world.store)
    (own : world.broker.journal.entriesOf process = entries) :
    (ingestionContract server consumer decoders roles requests process).holds
      (inSession body)
      (fun outcome _ after => Known roles requests process entries (post outcome) after)
      () world := by
  apply Contract.holds_withState
  refine Contract.holds_mono
    (Contract.holds_translate statement_implements verified own) ?_
  intro outcome session after held
  exact ⟨held.2, held.1⟩

/-! ## The channel -/

/-- What an operation on the channel leaves: the store as it was, a sound broker, and
notes of this delivery; where they say that the callable has returned, what it was called
with is recorded. -/
structure Noted (consumer : RabbitMQShipmentEventConsumer) (decoders : Decoders)
    (roles : ProcessId → Role) (process : ProcessId) (entries : List Note)
    (fact : World → Prop) (notes : List Note) (before after : Deployment) : Prop where
  store : after.store = before.store
  broker : after.broker.Sound consumer decoders
  journal : after.broker.journal = before.broker.journal ++ notes.map (Prod.mk process)
  delivery : notes ≠ [] → roles process = .delivery
  recorded : fact before.store → ∀ correlationId event,
    .called correlationId event ∈ entries ++ notes → .returned ∈ entries ++ notes →
      (.called correlationId event ∈ entries ∧ .returned ∈ entries) ∨
        ∃ row, (replay {} before.store.wal).event event.eventId = some row

/-- An operation that leaves the broker alone. -/
theorem Noted.nothing (sound : world.broker.Sound consumer decoders) :
    Noted consumer decoders roles process entries fact [] world world where
  store := rfl
  broker := sound
  journal := by simp
  delivery := fun none => absurd rfl none
  recorded := by
    intro _ correlationId event called returned
    rw [List.append_nil] at called returned
    exact .inl ⟨called, returned⟩

/-- Step lemma: the rule for an operation on the channel. -/
theorem holds_channel {op : Operation} {post : Contract.Post PyError Unit Deployment op.Reply}
    (stable : (storeContract server {} False requests process).Stable fact)
    (known : Known roles requests process entries fact world)
    (step : ∀ before, before.broker.Sound consumer decoders →
      before.broker.journal.entriesOf process = entries →
      ∀ resolution answer after,
        Deployment.perform server consumer process op resolution before =
          some (answer, after) →
        ∃ notes, Noted consumer decoders roles process entries fact notes before after ∧
          (Known roles requests process (entries ++ notes) fact after →
            post answer () after)) :
    (ingestionContract server consumer decoders roles requests process).holds (operate op)
      post () world := by
  apply Contract.holds_call (Known.stable stable) known
  intro before known kept resolution answer after performed
  obtain ⟨notes, noted, continues⟩ :=
    step before kept.broker known.entries resolution answer after performed
  have grows : before.broker.journal <+: after.broker.journal := by
    rw [noted.journal]
    exact List.prefix_append _ _
  have own : after.broker.journal.entriesOf process = entries ++ notes := by
    rw [noted.journal, Journal.entriesOf_append_self, known.entries]
  have others : ∀ owner, owner ≠ process →
      after.broker.journal.entriesOf owner = before.broker.journal.entriesOf owner := by
    intro owner different
    rw [noted.journal, Journal.entriesOf_append_of_ne different]
  refine ⟨⟨noted.broker, ?_, ?_, ?_⟩, ?_, continues ⟨own, ?_⟩⟩
  · intro owner noteworthy
    by_cases mine : owner = process
    · subst mine
      by_cases none : notes = []
      · rw [own, none, List.append_nil, ← known.entries] at noteworthy
        exact kept.deliveries owner noteworthy
      · exact noted.delivery none
    · rw [others owner mine] at noteworthy
      exact kept.deliveries owner noteworthy
  · intro agreed
    rw [noted.store]
    exact kept.store (agreed.earlier grows)
  · intro agreed owner correlationId event called returned
    rw [noted.store]
    have recorded := kept.recorded (agreed.earlier grows) owner correlationId event
    by_cases mine : owner = process
    · subst mine
      rw [own] at called returned
      rw [known.entries] at recorded
      rcases noted.recorded (known.fact (agreed.earlier grows)) correlationId event called
        returned with ⟨calledBefore, returnedBefore⟩ | found
      · exact recorded calledBefore returnedBefore
      · exact found
    · rw [others owner mine] at called returned
      exact recorded called returned
  · intro other different
    refine ⟨others other different, grows, fun _ => ?_⟩
    rw [noted.store]
    exact Undisturbed.refl _
  · intro agreed
    rw [noted.store]
    exact known.fact (agreed.earlier grows)

/-- The clock leaves everything as it is. -/
theorem holds_operateNow {post : Contract.Post PyError Unit Deployment DateTime}
    (stable : (storeContract server {} False requests process).Stable fact)
    (known : Known roles requests process entries fact world)
    (continues : ∀ value after, Known roles requests process entries fact after →
      post (.ok value) () after) :
    (ingestionContract server consumer decoders roles requests process).holds
      (operate .now) post () world := by
  refine holds_channel stable known ?_
  intro before sound own resolution answer after performed
  cases resolution with
  | time value =>
      cases performed
      refine ⟨[], .nothing sound, fun known => continues value before ?_⟩
      rwa [List.append_nil] at known
  | _ => cases performed

/-! ## One delivery -/

open Interaction.Computation (translate translate_bind translate_tryExcept)
open Consumer (Republication)

/-- The identity of a delivery. -/
theorem holds_correlationId {value : Option String}
    {post : Contract.Post PyError Unit Deployment String}
    (stable : (storeContract server {} False requests process).Stable fact)
    (known : Known roles requests process entries fact world)
    (continues : ∀ identity after, Known roles requests process entries fact after →
      post (.ok identity) () after) :
    (ingestionContract server consumer decoders roles requests process).holds
      (translate channelMeaning (Consumer.correlationId value)) post () world := by
  have fresh : (ingestionContract server consumer decoders roles requests process).holds
      (translate channelMeaning (do
        let id : UUID ← Consumer.call .uuid4
        pure id.str)) post () world := by
    rw [translate_bind]
    apply Contract.holds_bind
    apply Contract.holds_translate_call
    refine holds_channel stable known ?_
    intro before sound own resolution answer after performed
    cases resolution with
    | uuid id =>
        cases performed
        refine ⟨[], .nothing sound, fun known => continues id.str before ?_⟩
        rwa [List.append_nil] at known
    | _ => cases performed
  cases value with
  | none => exact fresh
  | some value =>
      unfold Consumer.correlationId
      by_cases valid : Consumer.validId value = true
      · simp only [valid, if_true]
        exact continues value world known
      · simp only [valid, Bool.false_eq_true, if_false]
        exact fresh

/-- The broker hands over a message to a process that has had none. -/
theorem holds_nextDelivery {post : Contract.Post PyError Unit Deployment Unacked}
    (delivery : roles process = .delivery)
    (stable : (storeContract server {} False requests process).Stable fact)
    (known : Known roles requests process [] fact world)
    (continues : ∀ (delivery : Unacked) after, Known roles requests process
        [.delivered delivery.deliveryTag delivery.letter] fact after →
      post (.ok delivery) () after) :
    (ingestionContract server consumer decoders roles requests process).holds
      (operate .nextDelivery) post () world := by
  refine holds_channel stable known ?_
  intro before sound own resolution answer after performed
  cases resolution with
  | delivers index deliveryTag =>
      obtain ⟨⟨delivered, broker⟩, delivers, same⟩ := Option.map_eq_some_iff.mp performed
      obtain ⟨rfl, rfl⟩ := Prod.mk.inj same
      obtain ⟨soundAfter, journal⟩ := sound.deliver own delivers
      refine ⟨[.delivered delivered.deliveryTag delivered.letter],
        ⟨rfl, soundAfter, journal, fun _ => delivery, ?_⟩, continues delivered _⟩
      intro _ correlationId event called
      simp at called
  | _ => cases performed

/-- That an event is recorded outlives whatever the others do. -/
theorem recorded_stable (eventId : UUID) :
    (storeContract server {} False requests process).Stable fun store =>
      ∃ row, (replay {} store.wal).event eventId = some row := by
  intro before after recorded moved _
  exact recorded_grows moved.1 recorded

theorem true_stable :
    (storeContract server {} False requests process).Stable fun _ => True :=
  fun _ _ _ _ _ => trivial

/-- In a run that agrees with the requests, the callable records the event that it has
been called with, if it returns. -/
theorem handleEvent_records {earlier : List Note} {identity : String} {event : ShipmentEvent}
    (own : world.broker.journal.entriesOf process = earlier ++ [.called identity event])
    (idle : Agreed roles requests world.broker.journal → Uninvolved process world.store)
    (agreed : Agreed roles requests world.broker.journal) :
    (storeContract server {} False requests process).holds (handleEvent (some identity) event)
      (fun outcome _ store => outcome = .ok () →
        ∃ row, (replay {} store.wal).event event.eventId = some row) {} world.store := by
  have requested : requests process = .handleEvent (some identity) event := by
    refine agreed.called process identity event ?_
    rw [own]
    simp
  have untouched : Mine process {} (fun store => Untouched False process [] store.wal)
      world.store := ⟨(idle agreed).1, (idle agreed).2, False.elim⟩
  refine Contract.holds_mono (holds_handleEvent requested untouched) ?_
  intro outcome session reached settled returned
  subst returned
  exact settled.2

/-- The callable: it is called with the decoded body, and if it returns, the event is
recorded. -/
theorem holds_handling {deliveryTag : Nat} {letter : Letter} {message : ShipmentEventMessage}
    {identity : String} {post : Contract.Post PyError Unit Deployment Unit}
    (delivery : roles process = .delivery)
    (decoded : ShipmentEventMessage.fromJson decoders letter.message.body = .ok message)
    (known : Known roles requests process [.delivered deliveryTag letter]
      (Uninvolved process) world)
    (returned : ∀ after, Known roles requests process
        [.delivered deliveryTag letter, .called identity message.toEvent, .returned]
        (fun _ => True) after → post (.ok ()) () after)
    (raised : ∀ error after, Known roles requests process
        [.delivered deliveryTag letter, .called identity message.toEvent]
        (fun _ => True) after → post (.error error) () after) :
    (ingestionContract server consumer decoders roles requests process).holds
      (channelMeaning (.handleEvent identity message.toEvent)) post () world := by
  apply Contract.holds_bind
  refine holds_channel Uninvolved.stable known ?_
  intro before sound own resolution answer after performed
  cases resolution with
  | returns =>
      cases performed
      have lawful : Note.Lawful consumer decoders (before.broker.journal.entriesOf process)
          (.called identity message.toEvent) := ⟨_, _, message, own, decoded, rfl⟩
      refine ⟨[.called identity message.toEvent],
        ⟨rfl, sound.note lawful (by simp) (by simp), rfl, fun _ => delivery, ?_⟩, ?_⟩
      · intro _ correlationId event _ early
        simp at early
      intro known
      -- the callable runs in a session of its own
      apply Contract.holds_bind
      refine Contract.holds_mono
        (holds_inSession (handleEvent_records known.entries known.fact) known.entries) ?_
      intro outcome state reached known
      cases outcome with
      | error error => exact raised error reached ⟨known.entries, fun _ => trivial⟩
      | ok value =>
          refine holds_channel (recorded_stable message.toEvent.eventId)
            ⟨known.entries, fun agreed => known.fact agreed rfl⟩ ?_
          intro before sound own resolution answer after performed
          cases resolution with
          | returns =>
              cases performed
              have lawful : Note.Lawful consumer decoders
                  (before.broker.journal.entriesOf process) .returned := ⟨_, _, _, _, own⟩
              refine ⟨[.returned],
                ⟨rfl, sound.note lawful (by simp) (by simp), rfl, fun _ => delivery, ?_⟩,
                fun known => returned _ ⟨known.entries, fun _ => trivial⟩⟩
              intro recorded correlationId event called _
              have same : event = message.toEvent := by
                simp at called
                exact called.2
              rw [same]
              exact .inr recorded
          | _ => cases performed
  | _ => cases performed

/-- A publication of a failed delivery, which has not been published before: if it
returns, it is noted. -/
theorem holds_publication {deliveryTag : Nat} {letter : Letter} {calls : List Note}
    {republication : Republication} {post : Contract.Post PyError Unit Deployment Unit}
    (delivery : roles process = .delivery)
    (calling : ∀ note ∈ calls, ∃ identity event, note = .called identity event)
    (carries : republication.Carries consumer letter.message.body)
    (known : Known roles requests process (.delivered deliveryTag letter :: calls)
      (fun _ => True) world)
    (returned : ∀ entries after, .delivered deliveryTag letter ∈ entries →
        .published republication ∈ entries → (∀ other, .acknowledged other ∉ entries) →
        Known roles requests process entries (fun _ => True) after → post (.ok ()) () after)
    (raised : ∀ error after, post (.error error) () after) :
    (ingestionContract server consumer decoders roles requests process).holds
      (operate (.basicPublish republication)) post () world := by
  have unreturned : .returned ∉ Note.delivered deliveryTag letter :: calls := by
    intro member
    rcases List.mem_cons.mp member with same | called
    · cases same
    · obtain ⟨identity, event, same⟩ := calling _ called
      cases same
  refine holds_channel true_stable known ?_
  intro before sound own resolution answer after performed
  obtain ⟨place, republished⟩ := Broker.republish_eq (Broker.deliveredTo_eq own) carries
  have here : .delivered deliveryTag letter ∈ before.broker.journal.entriesOf process := by
    rw [own]
    exact List.mem_cons_self
  -- the copy carries the body of the message that the delivery stems from
  have copied : (before.broker.put place
      [{ origin := letter.origin, message := republication.message }]).Sound consumer
        decoders := by
    refine sound.put place ?_
    obtain ⟨message, entered, body⟩ := sound.delivered process deliveryTag letter here
    exact ⟨message, entered, carries.1.trans body⟩
  have quiet : ∀ note ∈ [Note.published republication], note ≠ .returned := by
    intro note member same
    rw [same] at member
    simp at member
  cases resolution with
  | returns =>
      simp only [Deployment.perform, republished, Option.map_some, Option.some.injEq,
        Prod.mk.injEq] at performed
      obtain ⟨rfl, rfl⟩ := performed
      refine ⟨[.published republication], ⟨rfl, ?_, rfl, fun _ => delivery, ?_⟩,
        returned _ _ (by simp) (by simp) ?_⟩
      · refine copied.published ⟨deliveryTag, letter, here, ?_, carries⟩
          (Broker.mem_put.mpr (.inr ⟨rfl, List.mem_singleton_self _⟩)) ?_
        · change .returned ∉ before.broker.journal.entriesOf process
          rw [own]
          exact unreturned
        · intro pending held
          have noted := sound.pending process pending held
          rw [own] at noted
          rcases List.mem_cons.mp noted with same | called
          · cases same
            rfl
          · obtain ⟨identity, event, same⟩ := calling _ called
            cases same
      · intro _ correlationId event _ early
        rcases List.mem_append.mp early with earlier | new
        · exact absurd earlier unreturned
        · exact absurd rfl (quiet _ new)
      · intro other member
        rcases List.mem_append.mp member with earlier | new
        · rcases List.mem_cons.mp earlier with same | called
          · cases same
          · obtain ⟨identity, event, same⟩ := calling _ called
            cases same
        · cases List.mem_singleton.mp new
  | raises error effective =>
      cases effective with
      | false =>
          simp only [Deployment.perform, Bool.false_eq_true, if_false, Option.some.injEq,
            Prod.mk.injEq] at performed
          obtain ⟨rfl, rfl⟩ := performed
          exact ⟨[], .nothing sound, fun _ => raised error _⟩
      | true =>
          simp only [Deployment.perform, if_true, republished, Option.map_some,
            Option.some.injEq, Prod.mk.injEq] at performed
          obtain ⟨rfl, rfl⟩ := performed
          refine ⟨[], ⟨rfl, copied, ?_, fun none => absurd rfl none, ?_⟩,
            fun _ => raised error _⟩
          · simp
          · intro _ correlationId event called early
            rw [List.append_nil] at called early
            exact .inl ⟨called, early⟩
  | _ => cases performed

/-- The acknowledgement of a delivery that has been handled or republished. -/
theorem holds_ack {deliveryTag : Nat} {letter : Letter}
    {post : Contract.Post PyError Unit Deployment Unit}
    (delivery : roles process = .delivery)
    (delivered : .delivered deliveryTag letter ∈ entries)
    (settled : (.returned ∈ entries ∧ ∃ identity event, .called identity event ∈ entries) ∨
      ∃ republication, .published republication ∈ entries)
    (unacknowledged : ∀ other, .acknowledged other ∉ entries)
    (known : Known roles requests process entries (fun _ => True) world)
    (continues : ∀ outcome after, post outcome () after) :
    (ingestionContract server consumer decoders roles requests process).holds
      (operate (.basicAck deliveryTag)) post () world := by
  refine holds_channel true_stable known ?_
  intro before sound own resolution answer after performed
  have lawful : Note.Lawful consumer decoders entries (.acknowledged deliveryTag) := by
    refine ⟨⟨letter, delivered⟩, ?_, unacknowledged⟩
    rcases settled with handled | published
    · exact .inl handled.1
    · exact .inr published
  have dropped : (before.broker.acknowledge process deliveryTag).Sound consumer decoders := by
    refine sound.acknowledge deliveryTag ?_
    intro pending held
    rw [own]
    rcases settled with ⟨returned, identity, event, called⟩ | published
    · refine .inr ⟨process, pending.deliveryTag, pending.letter, identity, event, rfl, ?_⟩
      rw [own]
      exact ⟨own ▸ sound.pending process pending held, called, returned⟩
    · exact .inl published
  have noted : ∀ {broker : Broker}, broker.Sound consumer decoders →
      broker.journal = before.broker.journal →
      Noted consumer decoders roles process entries (fun _ => True)
        [.acknowledged deliveryTag] before
        { before with broker := broker.note process (.acknowledged deliveryTag) } := by
    intro broker kept journal
    refine ⟨rfl, kept.note ?_ (by simp) (by simp), ?_, fun _ => delivery, ?_⟩
    · rw [journal, own]
      exact lawful
    · rw [Broker.note, journal]
      rfl
    · intro _ correlationId event called returned
      simp only [List.mem_append, List.mem_singleton, reduceCtorEq, or_false] at called returned
      exact .inl ⟨called, returned⟩
  cases resolution with
  | returns =>
      cases performed
      exact ⟨_, noted dropped rfl, fun _ => continues _ _⟩
  | raises error effective =>
      cases effective with
      | false =>
          cases performed
          exact ⟨_, noted sound rfl, fun _ => continues _ _⟩
      | true =>
          cases performed
          exact ⟨_, noted dropped rfl, fun _ => continues _ _⟩
  | _ => cases performed

/-- The failure path: the delivery is acknowledged only if its publication returns. -/
theorem holds_failure {deliveryTag : Nat} {letter : Letter} {calls : List Note}
    {properties : BasicProperties} {error : PyError}
    (delivery : roles process = .delivery)
    (calling : ∀ note ∈ calls, ∃ identity event, note = .called identity event)
    (known : Known roles requests process (.delivered deliveryTag letter :: calls)
      (fun _ => True) world) :
    (ingestionContract server consumer decoders roles requests process).holds
      (translate channelMeaning (Consumer.handleFailure consumer deliveryTag (some properties)
        letter.message.body error)) (fun _ _ _ => True) () world := by
  unfold Consumer.handleFailure
  rw [translate_bind, Interaction.Computation.translate_ofExcept]
  apply Contract.holds_bind
  apply Contract.holds_ofExcept
  cases Consumer.attemptCount (Consumer.headersOf (some properties)) with
  | error raised => trivial
  | ok count =>
      simp only [Contract.Post.on]
      rw [translate_bind]
      apply Contract.holds_bind
      apply Contract.holds_translate_call
      refine holds_operateNow true_stable known ?_
      intro now after known
      simp only [Contract.Post.on]
      rw [translate_bind]
      apply Contract.holds_bind
      apply Contract.holds_translate_call
      refine holds_publication delivery calling
        (Consumer.republication_carries consumer (some properties) _ letter.message.body count
          now error) known ?_ (fun _ _ => trivial)
      intro entries after delivered published unacknowledged known
      simp only [Contract.Post.on]
      apply Contract.holds_translate_call
      exact holds_ack delivery delivered (.inr ⟨_, published⟩) unacknowledged known
        (fun _ _ => trivial)

/-- The inner `try` statement: it is left without an exception only when the callable has
returned. -/
theorem holds_tryHandling {deliveryTag : Nat} {letter : Letter} {identity : String}
    {post : Contract.Post PyError Unit Deployment (Option PyError)}
    (delivery : roles process = .delivery)
    (known : Known roles requests process [.delivered deliveryTag letter]
      (Uninvolved process) world)
    (returned : ∀ event after, Known roles requests process
        [.delivered deliveryTag letter, .called identity event, .returned]
        (fun _ => True) after → post (.ok none) () after)
    (failed : ∀ error calls after,
        (∀ note ∈ calls, ∃ identity event, note = .called identity event) →
        Known roles requests process (.delivered deliveryTag letter :: calls)
          (fun _ => True) after → post (.ok (some error)) () after) :
    (ingestionContract server consumer decoders roles requests process).holds
      (translate channelMeaning (Consumer.tryHandling decoders identity letter.message.body))
      post () world := by
  unfold Consumer.tryHandling
  rw [translate_tryExcept]
  apply Contract.holds_tryExcept
  rw [translate_bind, Interaction.Computation.translate_ofExcept]
  apply Contract.holds_bind
  apply Contract.holds_ofExcept
  cases decoded : ShipmentEventMessage.fromJson decoders letter.message.body with
  | error error =>
      exact failed error [] world (by simp) ⟨known.entries, fun _ => trivial⟩
  | ok message =>
      simp only [Contract.Post.on]
      rw [translate_bind]
      apply Contract.holds_bind
      apply Contract.holds_translate_call
      refine holds_handling delivery decoded known ?_ ?_
      · intro after known
        exact returned message.toEvent after known
      · intro error after known
        refine failed error [.called identity message.toEvent] after ?_ known
        intro note member
        exact ⟨identity, message.toEvent, List.mem_singleton.mp member⟩

/-- One delivery keeps the contract of the deployment. -/
theorem holds_consumeOne (delivery : roles process = .delivery)
    (known : Known roles requests process [] (Uninvolved process) world) :
    (ingestionContract server consumer decoders roles requests process).holds
      (consumeOne consumer decoders) (fun _ _ _ => True) () world := by
  apply Contract.holds_bind
  refine holds_nextDelivery delivery Uninvolved.stable known ?_
  intro unacked after known
  simp only [Contract.Post.on]
  unfold Consumer.processDelivery
  rw [translate_bind]
  apply Contract.holds_bind
  refine holds_correlationId Uninvolved.stable known ?_
  intro identity after known
  simp only [Contract.Post.on]
  rw [translate_bind]
  apply Contract.holds_bind
  refine holds_tryHandling delivery known ?_ ?_
  · intro event after known
    simp only [Contract.Post.on]
    apply Contract.holds_translate_call
    refine holds_ack delivery List.mem_cons_self (.inl ⟨by simp, identity, event, by simp⟩)
      (by simp) known (fun _ _ => trivial)
  · intro error calls after calling known
    simp only [Contract.Post.on]
    exact holds_failure delivery calling known

end Rules

/-! ## Any number of processes -/

section Deployments

variable {server : Server} {consumer : RabbitMQShipmentEventConsumer} {decoders : Decoders}
  {roles : ProcessId → Role} {requests : ProcessId → Request}

/-- An empty broker and empty tables. -/
theorem Deployment.Invariant.initial :
    Deployment.Invariant server consumer decoders roles requests {} where
  broker :=
    { orderly := .nil
      queued := by simp
      delivered := by simp
      pending := by simp
      safe := by simp }
  deliveries := by simp
  store _ := Freight.Invariant.initial
  recorded := by simp

/-- Every role keeps the contract of the deployment. -/
theorem holds_role {process : ProcessId} :
    (ingestionContract server consumer decoders roles requests process).holds
      ((roles process).code consumer decoders) (fun _ _ _ => True) () {} := by
  have known : Known roles requests process [] (Uninvolved process) {} :=
    ⟨rfl, fun _ => ⟨rfl, by simp⟩⟩
  cases role : roles process with
  | delivery => exact holds_consumeOne role known
  | producer message =>
      refine holds_channel Uninvolved.stable known ?_
      intro before sound own resolution answer after performed
      cases resolution with
      | returns =>
          cases performed
          refine ⟨[], ⟨rfl, sound.enter message, ?_, fun none => absurd rfl none, ?_⟩,
            fun _ => trivial⟩
          · simp [Broker.enter]
          · simp
      | _ => cases performed
  | timer =>
      refine holds_channel Uninvolved.stable known ?_
      intro before sound own resolution answer after performed
      cases resolution with
      | expires index properties =>
          obtain ⟨broker, expires, same⟩ := Option.map_eq_some_iff.mp performed
          obtain ⟨rfl, rfl⟩ := Prod.mk.inj same
          obtain ⟨soundAfter, journal⟩ := sound.expire expires
          refine ⟨[], ⟨rfl, soundAfter, ?_, fun none => absurd rfl none, ?_⟩, fun _ => trivial⟩
          · simpa using journal
          · simp
      | _ => cases performed
  | request other =>
      have verified : Agreed roles requests ({} : Deployment).broker.journal →
          (storeContract server {} False requests process).holds other.code
            (fun outcome _ last => other.Ended server {} False process [] outcome last)
            {} {} := by
        intro agreed
        have requested : requests process = other := agreed.asked process other role
        have keyed : ({} : Database).outboxKeys.Nodup := List.nodup_nil
        have untouched : Mine process {} (fun store => Untouched False process [] store.wal)
            ({} : World) := ⟨rfl, by simp, False.elim⟩
        rw [← requested]
        exact holds_request (fun _ _ => keyed) untouched
      refine Contract.holds_mono (holds_inSession verified known.entries) ?_
      exact fun _ _ _ _ => trivial

/-- A crash gives the broker its deliveries back and keeps everything else. -/
theorem Deployment.crash_kept {process : ProcessId} {world : Deployment}
    (kept : Deployment.Invariant server consumer decoders roles requests world) :
    Deployment.Invariant server consumer decoders roles requests (world.crash process) ∧
      ∀ other, process ≠ other →
        Unaffected roles requests other world (world.crash process) := by
  have discarded : Agreed roles requests world.broker.journal →
      Step server {} False requests process world.store (world.store.discard process) :=
    fun agreed => .discard (kept.store agreed)
  refine ⟨⟨kept.broker.requeue process, kept.deliveries, fun agreed => (discarded agreed).1,
    kept.recorded⟩, ?_⟩
  intro other different
  exact ⟨rfl, List.prefix_refl _, fun agreed => (discarded agreed).2 other different.symm⟩

/-- The processes of the deployment keep its discipline. -/
theorem ingestion_verified :
    (ingestion server consumer decoders roles).Verified
      (ingestionDiscipline server consumer decoders roles requests) (fun _ _ _ => True) {} where
  refl _ world := Unaffected.refl world
  trans _ _ _ _ := Unaffected.trans
  stable _ _ _ _ _ _ _ := trivial
  compatible _ other _ _ different guarantee := guarantee other different.symm
  crash _ _ := Deployment.crash_kept
  begins := Deployment.Invariant.initial
  programs _ := holds_role

/-- The request that a call of the callable amounts to. -/
def Note.request : Note → Option Request
  | .called identity event => some (.handleEvent (some identity) event)
  | _ => none

/-- The requests that a journal tells of. -/
def requestOf (roles : ProcessId → Role) (journal : Journal Note) (process : ProcessId) :
    Request :=
  match roles process with
  | .request request => request
  | _ => ((journal.entriesOf process).findSome? Note.request).getD (.publishOne 0)

/-- A delivery calls the callable once. -/
theorem Broker.Sound.called_unique {broker : Broker} (sound : broker.Sound consumer decoders)
    {process : ProcessId} {identity otherIdentity : String} {event other : ShipmentEvent}
    (called : .called identity event ∈ broker.journal.entriesOf process)
    (again : .called otherIdentity other ∈ broker.journal.entriesOf process) :
    Note.called identity event = .called otherIdentity other := by
  have exclusive : ∀ {identity otherIdentity : String} {event other : ShipmentEvent}
      (entries : List Note), Note.Lawful consumer decoders entries (.called identity event) →
        .called otherIdentity other ∉ entries := by
    intro identity otherIdentity event other entries lawful
    obtain ⟨deliveryTag, letter, message, rfl, -⟩ := lawful
    simp
  exact sound.orderly.eq_of_exclusive (Journal.mem_entriesOf.mp called)
    (Journal.mem_entriesOf.mp again) exclusive exclusive

/-- A process has one delivery. -/
theorem Broker.Sound.delivered_unique {broker : Broker} (sound : broker.Sound consumer decoders)
    {process : ProcessId} {deliveryTag otherTag : Nat} {letter other : Letter}
    (delivered : .delivered deliveryTag letter ∈ broker.journal.entriesOf process)
    (again : .delivered otherTag other ∈ broker.journal.entriesOf process) :
    Note.delivered deliveryTag letter = .delivered otherTag other := by
  have exclusive : ∀ {deliveryTag otherTag : Nat} {letter other : Letter}
      (entries : List Note), Note.Lawful consumer decoders entries
        (.delivered deliveryTag letter) → .delivered otherTag other ∉ entries := by
    intro deliveryTag otherTag letter other entries lawful
    have nothing : entries = [] := lawful
    simp [nothing]
  exact sound.orderly.eq_of_exclusive (Journal.mem_entriesOf.mp delivered)
    (Journal.mem_entriesOf.mp again) exclusive exclusive

/-- Every reachable run agrees with the requests that its own journal tells of. -/
theorem Deployment.Invariant.agreed {world : Deployment}
    (kept : Deployment.Invariant server consumer decoders roles requests world) :
    Agreed roles (requestOf roles world.broker.journal) world.broker.journal where
  called := by
    intro process identity event member
    have role : roles process = .delivery :=
      kept.deliveries process (List.ne_nil_of_mem member)
    rw [requestOf, role]
    cases found : (world.broker.journal.entriesOf process).findSome? Note.request with
    | none =>
        have nothing := List.findSome?_eq_none_iff.mp found _ member
        cases nothing
    | some request =>
        obtain ⟨note, present, told⟩ := List.exists_of_findSome?_eq_some found
        cases note with
        | called otherIdentity other =>
            cases kept.broker.called_unique member present
            cases told
            rfl
        | _ => cases told
  asked := by
    intro process request role
    rw [requestOf, role]

/-- Some delivery of a message has been handled: the callable has been called with the
event that its body decodes to and has returned, and the event is recorded. -/
def Deployment.Committed (decoders : Decoders) (world : Deployment) (origin : Nat)
    (message : Message) : Prop :=
  ∃ process deliveryTag letter identity decoded row,
    letter.origin = origin ∧ letter.message.body = message.body ∧
      ShipmentEventMessage.fromJson decoders message.body = .ok decoded ∧
      [.delivered deliveryTag letter, .called identity decoded.toEvent, .returned] <+:
        world.broker.journal.entriesOf process ∧
      world.store.database.event decoded.toEvent.eventId = some row

/-- What the invariant says of a message that has been handled. -/
theorem Deployment.Invariant.committed {world : Deployment}
    (kept : Deployment.Invariant server consumer decoders roles requests world)
    (agreed : Agreed roles requests world.broker.journal) {origin : Nat} {message : Message}
    (entered : world.broker.entered[origin]? = some message)
    (handled : world.broker.Handled origin) : world.Committed decoders origin message := by
  obtain ⟨process, deliveryTag, letter, identity, event, rfl, delivered, called, returned⟩ :=
    handled
  obtain ⟨row, found⟩ := kept.recorded agreed process identity event called returned
  have database : world.store.database = replay {} world.store.wal := by
    rw [World.database, (kept.store agreed).start]
  -- the notes of the delivery up to the return
  obtain ⟨earlier, later, split⟩ := List.append_of_mem returned
  obtain ⟨tag, first, firstIdentity, firstEvent, rfl⟩ := kept.broker.orderly.lawful split
  have calledFirst : .called firstIdentity firstEvent ∈
      world.broker.journal.entriesOf process := by
    rw [split]
    simp
  cases kept.broker.called_unique called calledFirst
  have start : world.broker.journal.entriesOf process =
      [.delivered tag first] ++ .called identity event :: .returned :: later := by
    rw [split]
    rfl
  obtain ⟨_, _, decoded, same, body, rfl⟩ := kept.broker.orderly.lawful start
  cases same
  have deliveredFirst : .delivered tag first ∈ world.broker.journal.entriesOf process := by
    rw [split]
    simp
  cases kept.broker.delivered_unique delivered deliveredFirst
  obtain ⟨stem, present, genuine⟩ := kept.broker.delivered process deliveryTag letter delivered
  cases entered.symm.trans present
  refine ⟨process, deliveryTag, letter, identity, decoded, row, rfl, genuine, genuine ▸ body,
    ?_, ?_⟩
  · exact ⟨later, by rw [split]; rfl⟩
  · rw [database]
    exact found

/-- Whatever deliveries, producers, returns from the retry queue, other requests and
crashes do in whatever order, from an empty broker and empty tables: each message that was
ever put on the main queue is in one of the queues or with an unacknowledged delivery,
under its own body, unless some delivery of it has been handled, with its event recorded;
an acknowledgement is issued for a delivery at most once, and only after the callable has
returned or the delivery's body has been published to the retry or the dead-letter
exchange; and no event id is recorded twice. -/
theorem ingestion_loses_nothing (server : Server) (consumer : RabbitMQShipmentEventConsumer)
    (decoders : Decoders) (roles : ProcessId → Role) (state : IngestionState)
    (reached : (ingestion server consumer decoders roles).Reachable {} state) :
    (∀ origin message, state.world.broker.entered[origin]? = some message →
        (∃ letter ∈ state.world.broker.letters,
          letter.origin = origin ∧ letter.message.body = message.body) ∨
        state.world.Committed decoders origin message) ∧
      (∀ process earlier deliveryTag later,
        state.world.broker.journal.entriesOf process =
            earlier ++ .acknowledged deliveryTag :: later →
          (∀ other, .acknowledged other ∉ earlier ++ later) ∧
          ∃ letter, .delivered deliveryTag letter ∈ earlier ∧
            (.returned ∈ earlier ∨ ∃ republication, .published republication ∈ earlier ∧
              republication.Carries consumer letter.message.body)) ∧
      ∀ eventId, (state.world.store.database.shipmentEvents.countP fun row =>
        row.eventId = eventId) ≤ 1 := by
  have kept : Deployment.Invariant server consumer decoders roles
      (requestOf roles state.world.broker.journal) state.world :=
    ingestion_verified.invariant_reachable reached
  have agreed := kept.agreed
  refine ⟨?_, ?_, ?_⟩
  · intro origin message entered
    have bound : origin < state.world.broker.entered.length :=
      (List.getElem?_eq_some_iff.mp entered).1
    have body : ∀ letter : Letter, state.world.broker.Genuine letter →
        letter.origin = origin → letter.message.body = message.body := by
      intro letter genuine stems
      obtain ⟨stem, present, same⟩ := genuine
      rw [stems, entered] at present
      cases present
      exact same
    rcases kept.broker.safe origin bound with (queued | held) | handled
    · obtain ⟨place, letter, member, stems⟩ := queued
      refine .inl ⟨letter, ?_, stems, body letter (kept.broker.queued place letter member) stems⟩
      cases place <;> simp [Broker.letters, member]
    · obtain ⟨process, delivery, member, stems, -⟩ := held
      have genuine := kept.broker.delivered process _ _
        (kept.broker.pending process delivery member)
      refine .inl ⟨delivery.letter, ?_, stems, body _ genuine stems⟩
      have present : delivery.letter ∈
          state.world.broker.unacked.map fun entry => entry.2.letter :=
        List.mem_map.mpr ⟨(process, delivery), member, rfl⟩
      simp only [Broker.letters, List.mem_append, present, or_true, true_or]
    · exact .inr (kept.committed agreed entered handled)
  · intro process earlier deliveryTag later split
    obtain ⟨⟨letter, delivered⟩, settled, unacknowledged⟩ := kept.broker.orderly.lawful split
    refine ⟨?_, letter, delivered, ?_⟩
    · intro other member
      rcases List.mem_append.mp member with before | after
      · exact unacknowledged other before
      · obtain ⟨middle, rest, rfl⟩ := List.append_of_mem after
        have again : state.world.broker.journal.entriesOf process =
            (earlier ++ .acknowledged deliveryTag :: middle) ++ .acknowledged other :: rest := by
          rw [split]
          simp
        exact (kept.broker.orderly.lawful again).2.2 deliveryTag (by simp)
    · rcases settled with returned | ⟨republication, published⟩
      · exact .inl returned
      · refine .inr ⟨republication, published, ?_⟩
        obtain ⟨before, after, rfl⟩ := List.append_of_mem published
        have sent : state.world.broker.journal.entriesOf process =
            before ++ .published republication ::
              (after ++ .acknowledged deliveryTag :: later) := by
          rw [split]
          simp
        obtain ⟨tag, first, deliveredFirst, -, carries⟩ := kept.broker.orderly.lawful sent
        have firstHere : .delivered tag first ∈
            state.world.broker.journal.entriesOf process := by
          rw [sent]
          exact List.mem_append_left _ deliveredFirst
        have letterHere : .delivered deliveryTag letter ∈
            state.world.broker.journal.entriesOf process := by
          rw [split]
          exact List.mem_append_left _ delivered
        cases kept.broker.delivered_unique firstHere letterHere
        exact carries
  · intro eventId
    have references : ({} : Database).References := by simp [Database.References]
    have single : Single eventId ({} : Database) := ⟨by simp, by simp⟩
    rw [World.database, (kept.store agreed).start]
    exact ((kept.store agreed).history.single references single).event

/-- A producer of a body that is not JSON, two deliveries and the broker's timer. -/
def lossyRoles : ProcessId → Role
  | 0 => .producer { body := Consumer.ascii "not-json", properties := {} }
  | 1 | 2 => .delivery
  | _ => .timer

/-- The first delivery dies with its worker, the second one sends the message to the
dead-letter queue. -/
def lossySchedule : List (Interaction.System.Action Resolution) :=
  [.perform 0 .returns, .perform 1 (.delivers 0 7), .perform 1 (.uuid ⟨5⟩), .crash 1,
    .perform 2 (.delivers 0 9), .perform 2 (.uuid ⟨6⟩), .perform 2 (.time (.utc 0)),
    .perform 2 .returns, .perform 2 .returns]

def lossyIngestion :=
  ingestion Server.utc { exchange := "freight.shipment-events" } Consumer.strictDecoders
    lossyRoles

theorem lossySchedule_runs :
    (lossyIngestion.run lossySchedule (lossyIngestion.initial {})).map (fun state =>
      (state.world.broker.entered.map Message.body,
        state.world.broker.letters.map Letter.origin,
        (state.world.broker.journal.entriesOf 2).map fun
          | .acknowledged deliveryTag => some deliveryTag
          | _ => none)) =
      some ([Consumer.ascii "not-json"], [0], [none, none, some 9]) := by
  decide +kernel

/-- The message of the lost delivery is still there, or it has been handled. -/
theorem lossy_loses_nothing :
    ∃ state : IngestionState, lossyIngestion.Reachable {} state ∧
      ∃ message, state.world.broker.entered[0]? = some message ∧
        message.body = Consumer.ascii "not-json" ∧
        ((∃ letter ∈ state.world.broker.letters,
          letter.origin = 0 ∧ letter.message.body = message.body) ∨
          state.world.Committed Consumer.strictDecoders 0 message) := by
  obtain ⟨state, ran, shown⟩ := Option.map_eq_some_iff.mp lossySchedule_runs
  have reached : lossyIngestion.Reachable {} state := ⟨lossySchedule, ran⟩
  have bodies := (Prod.mk.inj shown).1
  have entered : (state.world.broker.entered.map Message.body)[0]? =
      some (Consumer.ascii "not-json") := by
    rw [bodies]
    rfl
  rw [List.getElem?_map] at entered
  obtain ⟨message, present, body⟩ := Option.map_eq_some_iff.mp entered
  have kept := (ingestion_loses_nothing Server.utc _ _ _ state reached).1 0 message present
  exact ⟨state, reached, message, present, body, kept⟩

end Deployments

end Freight
