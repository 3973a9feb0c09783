/-
Module: Freight.Proofs.IntakeExchange
Purpose: What each turn at the inbound queues takes and gives, as multisets of the copies
  of the messages, and that copies outside the dead-letter queue always have attempts left.
Trusted boundary: none
Main exports:
  Copy, Broker.copies, Intake.Counted, Intake.effects_cases, Intake.Sound, Intake.Leaves,
  Intake.Exchange, Intake.turn_exchange, Intake.Sound.step, Intake.Sound.initial
-/
import Freight.Messaging.Intake
import Mathlib.Algebra.BigOperators.Group.Multiset.Basic
import Mathlib.Tactic.Abel

namespace Freight

open Interaction (ProcessId Journal Machine)
open Consumer (headersOf attemptCount)

/-! ## The copies of the messages -/

/-- A letter and where it is: in a queue, or with a worker. -/
abbrev Copy : Type := Option Place × Letter

namespace Broker

variable {broker : Broker}

/-- The copies in a queue. -/
def copiesIn (broker : Broker) (place : Place) : Multiset Copy :=
  ((broker.queues place).map (Prod.mk (some place)) : List Copy)

/-- The copies that the workers have. -/
def copiesHeld (broker : Broker) : Multiset Copy :=
  (broker.unacked.map fun entry => (none, entry.2.letter) : List Copy)

/-- Everything that the broker has. -/
def copies (broker : Broker) : Multiset Copy :=
  broker.copiesIn .main + broker.copiesIn .retry + broker.copiesIn .deadLetter +
    broker.copiesHeld

theorem copiesIn_put (place other : Place) (letters : List Letter) :
    (broker.put place letters).copiesIn other =
      broker.copiesIn other +
        if other = place then ((letters.map (Prod.mk (some place)) : List Copy) : Multiset Copy)
        else 0 := by
  by_cases same : other = place
  · subst same
    simp [copiesIn, put]
  · simp [copiesIn, put, same]

theorem copies_put (place : Place) (letters : List Letter) :
    (broker.put place letters).copies =
      broker.copies + ((letters.map (Prod.mk (some place)) : List Copy) : Multiset Copy) := by
  have held : (broker.put place letters).copiesHeld = broker.copiesHeld := rfl
  simp only [copies, copiesIn_put, held]
  cases place <;> simp <;> abel

theorem copies_take {place : Place} {index : Nat} {letter : Letter}
    (found : (broker.queues place)[index]? = some letter) :
    (broker.take place index).copies + {(some place, letter)} = broker.copies := by
  obtain ⟨inside, here⟩ := List.getElem?_eq_some_iff.mp found
  have queues : ∀ other, broker.copiesIn other =
      (broker.take place index).copiesIn other +
        if other = place then {(some place, letter)} else 0 := by
    intro other
    by_cases same : other = place
    · subst same
      have rest := (List.getElem_cons_eraseIdx_perm inside).map (Prod.mk (some other))
      rw [here] at rest
      simp only [copiesIn, take, Function.update_self, if_true]
      rw [← Multiset.coe_eq_coe.mpr rest, List.map_cons, ← Multiset.cons_coe,
        ← Multiset.singleton_add, add_comm]
    · simp [copiesIn, take, same]
  have held : (broker.take place index).copiesHeld = broker.copiesHeld := rfl
  simp only [copies, held, queues]
  cases place <;> simp <;> abel

theorem copies_deliver {worker : ProcessId} {index deliveryTag : Nat}
    {result : Unacked × Broker}
    (delivers : broker.deliver worker index deliveryTag = some result) :
    result.2.copies + {(some .main, result.1.letter)} =
      broker.copies + {(none, result.1.letter)} := by
  obtain ⟨letter, found, rfl⟩ := Option.map_eq_some_iff.mp delivers
  have held : ((broker.unacked ++ [(worker, ({ deliveryTag, letter } : Unacked))]).map
        fun entry => ((none, entry.2.letter) : Copy) : List Copy) =
      (broker.unacked.map fun entry => (none, entry.2.letter)) ++ [(none, letter)] := by
    simp
  have queues : ∀ place, ({ (broker.take .main index).note worker
        (.delivered deliveryTag letter) with
      unacked := broker.unacked ++ [(worker, { deliveryTag, letter })] } : Broker).copiesIn
        place = (broker.take .main index).copiesIn place := fun _ => rfl
  have taken := copies_take found
  simp only [copies, copiesHeld, queues, held, ← Multiset.coe_add, Multiset.coe_singleton]
    at taken ⊢
  rw [← taken]
  have same : (broker.take .main index).unacked = broker.unacked := rfl
  rw [same]
  abel

/-- The copies of the others, once what a worker has is gone. -/
theorem copies_release {worker : ProcessId} {delivery : Unacked}
    (only : broker.unacked.entriesOf worker = [delivery]) :
    ({ broker with
        unacked := broker.unacked.filter fun entry => entry.1 ≠ worker } : Broker).copies +
        {(none, delivery.letter)} =
      broker.copies := by
  have split : ∀ unacked : Journal Unacked,
      ((unacked.map fun entry => (none, entry.2.letter) : List Copy) : Multiset Copy) =
        (((unacked.filter fun entry => entry.1 ≠ worker).map
            fun entry => (none, entry.2.letter) : List Copy) : Multiset Copy) +
          (((unacked.entriesOf worker).map fun delivery => (none, delivery.letter) :
            List Copy) : Multiset Copy) := by
    intro unacked
    induction unacked with
    | nil => rfl
    | cons entry rest inductionHypothesis =>
        by_cases own : entry.1 = worker
        · simp only [Journal.entriesOf, List.map_cons, own, ne_eq, not_true_eq_false,
            decide_false, Bool.false_eq_true, not_false_eq_true, List.filter_cons_of_neg,
            List.filterMap_cons, if_true, ← Multiset.cons_coe] at inductionHypothesis ⊢
          rw [inductionHypothesis, Multiset.add_cons]
        · simp only [Journal.entriesOf, List.map_cons, own, ne_eq, not_false_eq_true,
            decide_true, List.filter_cons_of_pos, List.filterMap_cons, if_false,
            ← Multiset.cons_coe] at inductionHypothesis ⊢
          rw [inductionHypothesis, Multiset.cons_add]
  have held := split broker.unacked
  rw [only, List.map_singleton, Multiset.coe_singleton] at held
  have queues : ∀ place, ({ broker with
      unacked := broker.unacked.filter fun entry => entry.1 ≠ worker } : Broker).copiesIn
        place = broker.copiesIn place := fun _ => rfl
  simp only [copies, queues, copiesHeld, held]
  abel

/-- What a worker has is all that it can acknowledge. -/
theorem unacked_acknowledge {worker : ProcessId} {delivery : Unacked}
    (only : broker.unacked.entriesOf worker = [delivery]) :
    (broker.acknowledge worker delivery.deliveryTag).unacked =
      broker.unacked.filter fun entry => entry.1 ≠ worker := by
  apply List.filter_congr
  intro entry member
  by_cases own : entry.1 = worker
  · have among : entry.2 ∈ broker.unacked.entriesOf worker :=
      Journal.mem_entriesOf.mpr (own ▸ member)
    rw [only, List.mem_singleton] at among
    simp [own, among]
  · simp [own]

theorem copies_acknowledge {worker : ProcessId} {delivery : Unacked}
    (only : broker.unacked.entriesOf worker = [delivery]) :
    (broker.acknowledge worker delivery.deliveryTag).copies + {(none, delivery.letter)} =
      broker.copies := by
  have same : (broker.acknowledge worker delivery.deliveryTag).copies =
      ({ broker with
        unacked := broker.unacked.filter fun entry => entry.1 ≠ worker } : Broker).copies := by
    rw [← unacked_acknowledge only]
    rfl
  rw [same, copies_release only]

/-- A worker that has nothing gives nothing back. -/
theorem copies_requeue_idle {worker : ProcessId}
    (idle : broker.unacked.entriesOf worker = []) :
    (broker.requeue worker).copies = broker.copies ∧
      (broker.requeue worker).unacked = broker.unacked := by
  have none : ∀ entry ∈ broker.unacked, entry.1 ≠ worker := by
    intro entry member own
    have among : entry.2 ∈ broker.unacked.entriesOf worker :=
      Journal.mem_entriesOf.mpr (own ▸ member)
    rw [idle] at among
    cases among
  have kept : (broker.requeue worker).unacked = broker.unacked :=
    List.filter_eq_self.mpr fun entry member => decide_eq_true (none entry member)
  have queues : ∀ place, (broker.requeue worker).copiesIn place = broker.copiesIn place := by
    intro place
    rw [requeue, idle]
    cases place <;> simp [copiesIn, put]
  refine ⟨?_, kept⟩
  simp only [copies, queues, copiesHeld, kept]

theorem copies_requeue {worker : ProcessId} {delivery : Unacked}
    (only : broker.unacked.entriesOf worker = [delivery]) :
    (broker.requeue worker).copies + {(none, delivery.letter)} =
      broker.copies + {(some .main, delivery.letter)} := by
  have same : (broker.requeue worker).copies =
      ({ broker with
        unacked := broker.unacked.filter fun entry => entry.1 ≠ worker } : Broker).copies +
        {(some .main, delivery.letter)} := by
    rw [requeue, only]
    change (put { broker with
      unacked := broker.unacked.filter fun entry => entry.1 ≠ worker } .main
        [delivery.letter]).copies = _
    exact copies_put .main [delivery.letter]
  rw [same, add_right_comm, copies_release only]

/-- What the others have. -/
theorem entriesOf_release {unacked : Journal Unacked} {worker other : ProcessId} :
    Journal.entriesOf (unacked.filter fun entry => entry.1 ≠ worker) other =
      if other = worker then [] else unacked.entriesOf other := by
  by_cases own : other = worker
  · subst own
    rw [if_pos rfl]
    apply List.eq_nil_iff_forall_not_mem.mpr
    intro delivery member
    have there := Journal.mem_entriesOf.mp member
    simp at there
  · rw [if_neg own]
    apply Journal.entriesOf_filter_of_ne
    intro entry mine
    simp [mine, own]

end Broker

/-! ## What a delivery leads to -/

namespace Intake

section Effects

variable {consumer : RabbitMQShipmentEventConsumer} {decoders : Decoders}

/-- A message that has had some of the attempts that it is given. -/
def Counted (consumer : RabbitMQShipmentEventConsumer) (made : Nat) (message : Message) :
    Prop :=
  attemptCount (headersOf (some message.properties)) = .ok (made + 1) ∧ made < consumer.bound

/-- A copy that a failed delivery leaves behind. -/
def Onward (consumer : RabbitMQShipmentEventConsumer) (made : Nat) (place : Place)
    (message : Message) : Prop :=
  place = .deadLetter ∨ (place = .retry ∧ Counted consumer (made + 1) message)

variable (decoders) in
/-- The effects of a delivery: it is acknowledged when it was handled, and otherwise its
message is passed on first. -/
theorem effects_cases {delivery : Unacked} {made : Nat}
    (counted : Counted consumer made delivery.letter.message) (attempt : DeliveryAttempt) :
    (attempt.result decoders delivery.letter.message.body = .ok () ∧
      effects consumer decoders delivery attempt = [.acknowledged delivery.deliveryTag]) ∨
    ∃ error republication place,
      attempt.result decoders delivery.letter.message.body = .error error ∧
      effects consumer decoders delivery attempt =
        [.published republication, .acknowledged delivery.deliveryTag] ∧
      route consumer republication.exchange republication.routingKey = [place] ∧
      Onward consumer made place republication.message := by
  have outcome : Consumer.attempt decoders attempt.channel delivery.letter.message.body
      delivery.letter.message.properties =
        attempt.result decoders delivery.letter.message.body := rfl
  unfold effects
  rw [Consumer.deliver_eq]
  simp only [Option.getD_some, outcome]
  cases ended : attempt.result decoders delivery.letter.message.body with
  | ok done => exact .inl ⟨rfl, rfl⟩
  | error error =>
      simp only [counted.1]
      by_cases retryable : classify error = .retry ∧ (made : Int) + 1 < consumer.maxAttempts
      · refine .inr ⟨error, _, .retry, rfl, rfl, ?_, .inr ⟨rfl, ?_, ?_⟩⟩
        · rw [republication_retry retryable]
          exact route_retry consumer
        · rw [republication_retry retryable]
          simp [attemptCount, headersOf, Consumer.failureProperties, AmqpValue.toInt]
        · rw [RabbitMQShipmentEventConsumer.bound]
          omega
      · refine .inr ⟨error, _, .deadLetter, rfl, rfl, ?_, .inl rfl⟩
        rw [republication_deadLetter retryable]
        exact route_deadLetter consumer

end Effects

/-! ## What a turn exchanges -/

section Exchanges

variable {consumer : RabbitMQShipmentEventConsumer} {decoders : Decoders} {intake after : Intake}

/-- What the intake keeps: copies outside the dead-letter queue have attempts left, every
copy stems from a message, and no worker has more than one delivery. -/
structure Sound (consumer : RabbitMQShipmentEventConsumer) (intake : Intake) : Prop where
  counted : ∀ copy ∈ intake.broker.copies, copy.1 ≠ some .deadLetter →
    ∃ made, Counted consumer made copy.2.message
  origins : ∀ copy ∈ intake.broker.copies, copy.2.origin < intake.broker.entered.length
  single : ∀ worker, (intake.broker.unacked.entriesOf worker).length ≤ 1

/-- The copies that a processed delivery leaves, and the origins that it has handled. -/
inductive Leaves (consumer : RabbitMQShipmentEventConsumer) (letter : Letter) (made : Nat) :
    Multiset Copy → List Nat → Prop where
  | handled : Leaves consumer letter made 0 [letter.origin]
  | passedOn {place : Place} {message : Message} (onward : Onward consumer made place message) :
      Leaves consumer letter made
        {(some place, { origin := letter.origin, message := message })} []

/-- The copies that a turn takes and those that it gives, and the origins that it has
handled. -/
inductive Exchange (consumer : RabbitMQShipmentEventConsumer) (number : Nat) :
    Turn → Multiset Copy → Multiset Copy → List Nat → Prop where
  | produced {message : Message} (counted : Counted consumer 0 message) :
      Exchange consumer number (.produced message) 0
        {(some .main, { origin := number, message := message })} []
  | delivered {worker : ProcessId} {index deliveryTag made : Nat} {letter : Letter}
      (counted : Counted consumer made letter.message) :
      Exchange consumer number (.delivered worker index deliveryTag) {(some .main, letter)}
        {(none, letter)} []
  | processed {worker : ProcessId} {attempt : DeliveryAttempt} {made : Nat} {letter : Letter}
      {given : Multiset Copy} {settled : List Nat}
      (counted : Counted consumer made letter.message)
      (leaves : Leaves consumer letter made given settled) :
      Exchange consumer number (.processed worker attempt) {(none, letter)} given settled
  | died {worker : ProcessId} {attempt : DeliveryAttempt} {performed made : Nat}
      {letter : Letter} {given : Multiset Copy} {settled : List Nat}
      (counted : Counted consumer made letter.message)
      (leaves : Leaves consumer letter made given settled) :
      Exchange consumer number (.died worker attempt performed) {(none, letter)} given settled
  | diedBetween {worker : ProcessId} {attempt : DeliveryAttempt} {performed made : Nat}
      {letter : Letter} {given : Multiset Copy} {settled : List Nat}
      (counted : Counted consumer made letter.message)
      (leaves : Leaves consumer letter made given settled) :
      Exchange consumer number (.died worker attempt performed) {(none, letter)}
        (given + {(some .main, letter)}) settled
  | diedBefore {worker : ProcessId} {attempt : DeliveryAttempt} {performed made : Nat}
      {letter : Letter} (counted : Counted consumer made letter.message) :
      Exchange consumer number (.died worker attempt performed) {(none, letter)}
        {(some .main, letter)} []
  | expired {index made : Nat} {properties : BasicProperties} {letter : Letter}
      (counted : Counted consumer made letter.message)
      (returned : Counted consumer made { letter.message with properties := properties }) :
      Exchange consumer number (.expired index properties) {(some .retry, letter)}
        {(some .main,
          { letter with message := { letter.message with properties := properties } })} []

theorem Sound.delivery_only (sound : intake.Sound consumer) {worker : ProcessId}
    {delivery : Unacked} (has : intake.delivery worker = some delivery) :
    intake.broker.unacked.entriesOf worker = [delivery] := by
  have single := sound.single worker
  rw [Intake.delivery] at has
  cases entries : intake.broker.unacked.entriesOf worker with
  | nil =>
      rw [entries] at has
      cases has
  | cons first rest =>
      rw [entries] at has single
      cases has
      have none : rest = [] := List.eq_nil_of_length_eq_zero (by simpa using single)
      rw [none]

theorem mem_copies_held {broker : Broker} {worker : ProcessId} {delivery : Unacked}
    (member : delivery ∈ broker.unacked.entriesOf worker) :
    (none, delivery.letter) ∈ broker.copies := by
  refine Multiset.mem_add.mpr (.inr ?_)
  exact List.mem_map.mpr ⟨(worker, delivery), Journal.mem_entriesOf.mp member, rfl⟩

theorem mem_copies_queue {broker : Broker} {place : Place} {letter : Letter}
    (member : letter ∈ broker.queues place) : (some place, letter) ∈ broker.copies := by
  have there : (some place, letter) ∈ broker.copiesIn place := List.mem_map_of_mem member
  cases place <;> simp [Broker.copies, there]

/-- A message that was never attempted has all its attempts. -/
theorem counted_uncounted {message : Message}
    (uncounted : (headersOf (some message.properties)).lookup "x-attempt-count" = none) :
    Counted consumer 0 message := by
  constructor
  · rw [attemptCount, uncounted]
    rfl
  · rw [RabbitMQShipmentEventConsumer.bound]
    omega

variable (decoders) in
/-- What processing leaves, once the delivery is acknowledged. -/
theorem absorb_all (sound : intake.Sound consumer) {worker : ProcessId} {delivery : Unacked}
    (has : intake.delivery worker = some delivery) {made : Nat}
    (counted : Counted consumer made delivery.letter.message) (attempt : DeliveryAttempt) :
    ∃ given settled, Leaves consumer delivery.letter made given settled ∧
      (intake.absorb consumer decoders worker delivery attempt
          (effects consumer decoders delivery attempt)).broker.copies +
          {(none, delivery.letter)} =
        intake.broker.copies + given ∧
      (intake.absorb consumer decoders worker delivery attempt
        (effects consumer decoders delivery attempt)).handled = intake.handled ++ settled ∧
      (intake.absorb consumer decoders worker delivery attempt
        (effects consumer decoders delivery attempt)).broker.entered =
          intake.broker.entered ∧
      (intake.absorb consumer decoders worker delivery attempt
          (effects consumer decoders delivery attempt)).broker.unacked =
        intake.broker.unacked.filter fun entry => entry.1 ≠ worker := by
  have only := sound.delivery_only has
  rcases effects_cases decoders counted attempt with
    ⟨ended, all⟩ | ⟨error, republication, place, ended, all, routed, onward⟩
  · refine ⟨0, [delivery.letter.origin], .handled, ?_⟩
    simp only [absorb, all, ended, List.foldl_cons, List.foldl_nil, receive, add_zero]
    exact ⟨Broker.copies_acknowledge only, trivial, rfl, Broker.unacked_acknowledge only⟩
  · refine ⟨_, [], .passedOn onward, ?_⟩
    have kept : (intake.broker.put place [{
        origin := delivery.letter.origin
        message := republication.message }]).unacked.entriesOf worker = [delivery] := only
    simp only [absorb, all, ended, List.foldl_cons, List.foldl_nil, receive, routed,
      List.append_nil]
    refine ⟨?_, trivial, rfl, Broker.unacked_acknowledge kept⟩
    rw [Broker.copies_acknowledge kept, Broker.copies_put]
    rfl

/-- Requeuing after the delivery was acknowledged changes nothing. -/
theorem requeue_released {broker : Broker} {worker : ProcessId} {unacked : Journal Unacked}
    (released : broker.unacked = unacked.filter fun entry => entry.1 ≠ worker) :
    (broker.requeue worker).copies = broker.copies ∧
      (broker.requeue worker).unacked = broker.unacked := by
  apply Broker.copies_requeue_idle
  rw [released, Broker.entriesOf_release, if_pos rfl]

variable (decoders) in
/-- What a death leaves. -/
theorem absorb_some (sound : intake.Sound consumer) {worker : ProcessId} {delivery : Unacked}
    (has : intake.delivery worker = some delivery) {made number : Nat}
    (counted : Counted consumer made delivery.letter.message) (attempt : DeliveryAttempt)
    (performed : Nat) :
    ∃ given settled,
      Exchange consumer number (.died worker attempt performed) {(none, delivery.letter)} given
        settled ∧
      ((intake.absorb consumer decoders worker delivery attempt
          ((effects consumer decoders delivery attempt).take performed)).broker.requeue
            worker).copies + {(none, delivery.letter)} =
        intake.broker.copies + given ∧
      (intake.absorb consumer decoders worker delivery attempt
        ((effects consumer decoders delivery attempt).take performed)).handled =
          intake.handled ++ settled ∧
      ((intake.absorb consumer decoders worker delivery attempt
        ((effects consumer decoders delivery attempt).take performed)).broker.requeue
          worker).entered = intake.broker.entered ∧
      ((intake.absorb consumer decoders worker delivery attempt
          ((effects consumer decoders delivery attempt).take performed)).broker.requeue
            worker).unacked =
        intake.broker.unacked.filter fun entry => entry.1 ≠ worker := by
  have only := sound.delivery_only has
  by_cases complete : (effects consumer decoders delivery attempt).length ≤ performed
  · -- everything was done, so there is nothing to give back
    rw [List.take_of_length_le complete]
    obtain ⟨given, settled, leaves, copies, handled, entered, unacked⟩ :=
      absorb_all decoders sound has counted attempt
    obtain ⟨kept, keptUnacked⟩ := requeue_released unacked
    refine ⟨given, settled, .died counted leaves, ?_, handled, entered, ?_⟩
    · rw [kept, copies]
    · rw [keptUnacked, unacked]
  · rcases effects_cases decoders counted attempt with
      ⟨ended, all⟩ | ⟨error, republication, place, ended, all, routed, onward⟩
    · -- the callable has returned, and nothing is acknowledged
      have nothing : performed = 0 := by
        rw [all] at complete
        simpa using complete
      refine ⟨_, _, .diedBetween counted .handled, ?_⟩
      simp only [absorb, nothing, ended, List.take_zero, List.foldl_nil, zero_add]
      exact ⟨Broker.copies_requeue only, trivial, rfl, rfl⟩
    · cases performed with
      | zero =>
          refine ⟨_, [], .diedBefore counted, ?_⟩
          simp only [absorb, ended, List.take_zero, List.foldl_nil, List.append_nil]
          exact ⟨Broker.copies_requeue only, trivial, rfl, rfl⟩
      | succ performed =>
          -- its message has been passed on, and nothing is acknowledged
          have one : performed = 0 := by
            rw [all] at complete
            simpa using complete
          have kept : (intake.broker.put place [{
              origin := delivery.letter.origin
              message := republication.message }]).unacked.entriesOf worker = [delivery] :=
            only
          refine ⟨_, _, .diedBetween counted (.passedOn onward), ?_⟩
          simp only [absorb, one, all, ended, List.take_succ_cons, List.take_zero, zero_add,
            List.foldl_cons, List.foldl_nil, receive, routed, List.append_nil]
          refine ⟨?_, trivial, rfl, rfl⟩
          rw [Broker.copies_requeue kept, Broker.copies_put, add_assoc]
          rfl

/-- Spec lemma: every possible turn is such an exchange. -/
theorem turn_exchange (sound : intake.Sound consumer) {turn : Turn}
    (proper : turn.Uncounted) (stepped : intake.turn consumer decoders turn = some after) :
    ∃ taken given settled,
      Exchange consumer intake.broker.entered.length turn taken given settled ∧
      after.broker.copies + taken = intake.broker.copies + given ∧
      after.handled = intake.handled ++ settled ∧
      after.broker.entered.length =
        intake.broker.entered.length + (if turn.isProduced then 1 else 0) ∧
      ∀ worker, (after.broker.unacked.entriesOf worker).length ≤ 1 := by
  cases turn with
  | produced message =>
      cases stepped
      refine ⟨0, _, [], .produced (counted_uncounted proper), ?_, (List.append_nil _).symm, ?_,
        sound.single⟩
      · rw [add_zero]
        exact Broker.copies_put .main _
      · simp [Broker.enter, Turn.isProduced]
  | delivered worker index deliveryTag =>
      simp only [Intake.turn] at stepped
      split at stepped
      · cases stepped
      · rename_i idle
        obtain ⟨result, delivers, rfl⟩ := Option.map_eq_some_iff.mp stepped
        have exchanged := Broker.copies_deliver delivers
        obtain ⟨letter, found, rfl⟩ := Option.map_eq_some_iff.mp delivers
        obtain ⟨made, counted⟩ := sound.counted (some .main, letter)
          (mem_copies_queue (List.mem_of_getElem? found)) (by simp)
        refine ⟨_, _, [], .delivered counted, exchanged, (List.append_nil _).symm, rfl, ?_⟩
        intro other
        by_cases own : other = worker
        · subst own
          rw [Journal.entriesOf_snoc_self, List.head?_eq_none_iff.mp idle]
          simp
        · rw [Journal.entriesOf_snoc_of_ne own]
          exact sound.single other
  | processed worker attempt =>
      obtain ⟨delivery, has, rfl⟩ := Option.map_eq_some_iff.mp stepped
      have only := sound.delivery_only has
      have held : delivery ∈ intake.broker.unacked.entriesOf worker := by simp [only]
      obtain ⟨made, counted⟩ := sound.counted (none, delivery.letter) (mem_copies_held held)
        (by simp)
      obtain ⟨given, settled, leaves, copies, handled, entered, unacked⟩ :=
        absorb_all decoders sound has counted attempt
      refine ⟨_, given, settled, .processed counted leaves, copies, handled, ?_, ?_⟩
      · rw [entered]
        rfl
      · intro other
        rw [unacked, Broker.entriesOf_release]
        split
        · simp
        · exact sound.single other
  | died worker attempt performed =>
      obtain ⟨delivery, has, rfl⟩ := Option.map_eq_some_iff.mp stepped
      have only := sound.delivery_only has
      have held : delivery ∈ intake.broker.unacked.entriesOf worker := by simp [only]
      obtain ⟨made, counted⟩ := sound.counted (none, delivery.letter) (mem_copies_held held)
        (by simp)
      obtain ⟨given, settled, exchange, copies, handled, entered, unacked⟩ :=
        absorb_some decoders sound has counted attempt performed
      refine ⟨_, given, settled, exchange, copies, handled, ?_, ?_⟩
      · change _ = _ + 0
        rw [entered]
        rfl
      · intro other
        rw [unacked, Broker.entriesOf_release]
        split
        · simp
        · exact sound.single other
  | expired index properties =>
      simp only [Intake.turn] at stepped
      split at stepped
      · cases stepped
      · rename_i letter found
        split at stepped
        · rename_i same
          obtain ⟨broker, expires, rfl⟩ := Option.map_eq_some_iff.mp stepped
          obtain ⟨other, there, rfl⟩ := Option.map_eq_some_iff.mp expires
          rw [found] at there
          cases there
          obtain ⟨made, counted⟩ := sound.counted (some .retry, letter)
            (mem_copies_queue (List.mem_of_getElem? found)) (by simp)
          have returned : Counted consumer made
              { letter.message with properties := properties } := by
            refine ⟨?_, counted.2⟩
            rw [counted.1] at same
            cases read : attemptCount (headersOf (some properties)) with
            | error error =>
                rw [read] at same
                cases same
            | ok count =>
                rw [read] at same
                cases same
                rfl
          refine ⟨_, _, [], .expired counted returned, ?_, (List.append_nil _).symm, rfl,
            sound.single⟩
          rw [Broker.copies_put, add_right_comm, Broker.copies_take found]
          rfl
        · cases stepped

end Exchanges

/-! ## Soundness -/

section Soundness

variable {consumer : RabbitMQShipmentEventConsumer} {decoders : Decoders}
  {intake after final : Intake} {number : Nat} {turn : Turn} {taken given : Multiset Copy}
  {settled : List Nat}

/-- A turn gives back nothing of what it takes. -/
theorem Exchange.moved (exchange : Exchange consumer number turn taken given settled)
    {copy : Copy} (member : copy ∈ taken) : copy ∉ given := by
  cases exchange with
  | produced counted => simp at member
  | delivered counted =>
      rw [Multiset.mem_singleton] at member
      simp [member]
  | processed counted leaves =>
      rw [Multiset.mem_singleton] at member
      cases leaves <;> simp [member]
  | died counted leaves =>
      rw [Multiset.mem_singleton] at member
      cases leaves <;> simp [member]
  | diedBetween counted leaves =>
      rw [Multiset.mem_singleton] at member
      cases leaves <;> simp [member]
  | diedBefore counted =>
      rw [Multiset.mem_singleton] at member
      simp [member]
  | expired counted returned =>
      rw [Multiset.mem_singleton] at member
      simp [member]

theorem Onward.counted {made : Nat} {place : Place} {message : Message}
    (onward : Onward consumer made place message) (open' : place ≠ .deadLetter) :
    ∃ made, Counted consumer made message := by
  rcases onward with dead | ⟨-, counted⟩
  · exact absurd dead open'
  · exact ⟨_, counted⟩

theorem Leaves.counted {letter : Letter} {made : Nat}
    (leaves : Leaves consumer letter made given settled) {copy : Copy} (member : copy ∈ given)
    (open' : copy.1 ≠ some .deadLetter) : ∃ made, Counted consumer made copy.2.message := by
  cases leaves with
  | handled => cases member
  | passedOn onward =>
      rw [Multiset.mem_singleton.mp member] at open' ⊢
      exact onward.counted fun dead => open' (congrArg some dead)

/-- What a turn gives has attempts left. -/
theorem Exchange.counted (exchange : Exchange consumer number turn taken given settled)
    {copy : Copy} (member : copy ∈ given) (open' : copy.1 ≠ some .deadLetter) :
    ∃ made, Counted consumer made copy.2.message := by
  cases exchange with
  | produced counted =>
      rw [Multiset.mem_singleton.mp member]
      exact ⟨_, counted⟩
  | delivered counted =>
      rw [Multiset.mem_singleton.mp member]
      exact ⟨_, counted⟩
  | processed counted leaves => exact leaves.counted member open'
  | died counted leaves => exact leaves.counted member open'
  | diedBetween counted leaves =>
      rcases Multiset.mem_add.mp member with left | back
      · exact leaves.counted left open'
      · rw [Multiset.mem_singleton.mp back]
        exact ⟨_, counted⟩
  | diedBefore counted =>
      rw [Multiset.mem_singleton.mp member]
      exact ⟨_, counted⟩
  | expired counted returned =>
      rw [Multiset.mem_singleton.mp member]
      exact ⟨_, returned⟩

/-- What a turn gives stems from what it takes, or from a new message. -/
theorem Exchange.origin (exchange : Exchange consumer number turn taken given settled)
    {copy : Copy} (member : copy ∈ given) :
    (turn.isProduced = true ∧ copy.2.origin = number) ∨
      ∃ earlier ∈ taken, earlier.2.origin = copy.2.origin := by
  have left : ∀ {letter made given settled}, Leaves consumer letter made given settled →
      copy ∈ given → letter.origin = copy.2.origin := by
    intro letter made given settled leaves member
    cases leaves with
    | handled => cases member
    | passedOn onward => rw [Multiset.mem_singleton.mp member]
  cases exchange with
  | produced counted =>
      rw [Multiset.mem_singleton.mp member]
      exact .inl ⟨rfl, rfl⟩
  | delivered counted =>
      rw [Multiset.mem_singleton.mp member]
      exact .inr ⟨_, Multiset.mem_singleton_self _, rfl⟩
  | processed counted leaves =>
      exact .inr ⟨_, Multiset.mem_singleton_self _, left leaves member⟩
  | died counted leaves =>
      exact .inr ⟨_, Multiset.mem_singleton_self _, left leaves member⟩
  | diedBetween counted leaves =>
      refine .inr ⟨_, Multiset.mem_singleton_self _, ?_⟩
      rcases Multiset.mem_add.mp member with remains | back
      · exact left leaves remains
      · rw [Multiset.mem_singleton.mp back]
  | diedBefore counted =>
      rw [Multiset.mem_singleton.mp member]
      exact .inr ⟨_, Multiset.mem_singleton_self _, rfl⟩
  | expired counted returned =>
      rw [Multiset.mem_singleton.mp member]
      exact .inr ⟨_, Multiset.mem_singleton_self _, rfl⟩

/-- Step lemma: every turn keeps the intake sound. -/
theorem Sound.step (sound : intake.Sound consumer) (proper : turn.Uncounted)
    (stepped : intake.turn consumer decoders turn = some after) : after.Sound consumer := by
  obtain ⟨taken, given, settled, exchange, copies, -, entered, single⟩ :=
    turn_exchange sound proper stepped
  have source : ∀ copy ∈ after.broker.copies, copy ∈ intake.broker.copies ∨ copy ∈ given := by
    intro copy member
    refine Multiset.mem_add.mp ?_
    rw [← copies]
    exact Multiset.mem_add.mpr (.inl member)
  refine ⟨?_, ?_, single⟩
  · intro copy member open'
    rcases source copy member with earlier | new
    · exact sound.counted copy earlier open'
    · exact exchange.counted new open'
  · intro copy member
    rw [entered]
    rcases source copy member with earlier | new
    · exact Nat.lt_add_right _ (sound.origins copy earlier)
    · rcases exchange.origin new with ⟨produced, same⟩ | ⟨other, there, same⟩
      · rw [produced, same]
        exact Nat.lt_succ_self _
      · rw [← same]
        have present : other ∈ intake.broker.copies + given := by
          rw [← copies]
          exact Multiset.mem_add.mpr (.inr there)
        rcases Multiset.mem_add.mp present with earlier | again
        · exact Nat.lt_add_right _ (sound.origins other earlier)
        · exact absurd again (exchange.moved there)

theorem Sound.initial : ({} : Intake).Sound consumer where
  counted := by simp [Broker.copies, Broker.copiesIn, Broker.copiesHeld]
  origins := by simp [Broker.copies, Broker.copiesIn, Broker.copiesHeld]
  single := by simp

end Soundness

end Intake

end Freight
