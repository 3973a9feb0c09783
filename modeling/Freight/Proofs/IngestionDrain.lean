/-
Module: Freight.Proofs.IngestionDrain
Purpose: How the inbound queues empty: any number of messages and workers need at most
  `max_attempts` deliveries for each message and each death of a worker, and without new
  messages and deaths every run goes on until nothing waits, each message being handled or
  dead-lettered.
Trusted boundary: none
Main exports:
  Intake.Tariff, Intake.Exchange.paid, Intake.Exchange.stems, Intake.balanced,
  Intake.goes_on, Intake.accounted_step, Intake.ingestion_drains
-/
import Freight.Proofs.BoundedRetry
import Freight.Proofs.DeliverySettlement
import Freight.Proofs.IntakeExchange

namespace Freight

open Interaction (ProcessId Journal Machine)
open Consumer (headersOf attemptCount)

namespace Intake

/-! ## Weights -/

section Weights

variable {consumer : RabbitMQShipmentEventConsumer} {number : Nat} {turn : Turn}
  {taken given : Multiset Copy} {settled : List Nat}

/-- The attempts that a message is still given. -/
def remaining (consumer : RabbitMQShipmentEventConsumer) (message : Message) : Nat :=
  match attemptCount (headersOf (some message.properties)) with
  | .ok count => consumer.bound - (count - 1).toNat
  | .error _ => 0

theorem Counted.remaining_eq {made : Nat} {message : Message}
    (counted : Counted consumer made message) :
    remaining consumer message = consumer.bound - made := by
  simp [remaining, counted.1]

/-- What a turn costs and what a copy is worth that has attempts left, such that the worth of
the copies pays for the turns, and an amount pays for a new copy. -/
structure Tariff (bound amount : Nat) where
  delivered : Nat
  processed : Nat
  expired : Nat
  main : Nat → Nat
  held : Nat → Nat
  retry : Nat → Nat
  deliver : ∀ left, 0 < left → held left + delivered ≤ main left
  process : ∀ left, 0 < left → processed ≤ held left
  pass : ∀ left, 0 < left → retry left + processed ≤ held (left + 1)
  expire : ∀ left, 0 < left → main left + expired ≤ retry left
  enter : ∀ left, left ≤ bound → main left ≤ amount

namespace Tariff

/-- Only deliveries are counted. -/
def deliveries (bound : Nat) : Tariff bound bound where
  delivered := 1
  processed := 0
  expired := 0
  main left := left
  held left := left - 1
  retry left := left
  deliver left some := by omega
  process left some := by omega
  pass left some := by omega
  expire left some := by omega
  enter left less := less

/-- Every turn is counted that is neither a new message nor a death: for each attempt a
message is delivered, processed and returned. -/
def turns (bound : Nat) : Tariff bound (3 * bound) where
  delivered := 1
  processed := 1
  expired := 1
  main left := 3 * left - 1
  held left := 3 * left - 2
  retry left := 3 * left
  deliver left some := by omega
  process left some := by omega
  pass left some := by omega
  expire left some := by omega
  enter left less := by omega

variable {amount : Nat} (tariff : Tariff consumer.bound amount)

/-- What a copy is worth; one that is dead-lettered is worth nothing. -/
def worth (tariff : Tariff consumer.bound amount) : Copy → Nat
  | (some .deadLetter, _) => 0
  | (some .retry, letter) => tariff.retry (remaining consumer letter.message)
  | (some .main, letter) => tariff.main (remaining consumer letter.message)
  | (none, letter) => tariff.held (remaining consumer letter.message)

/-- What a turn costs. -/
def cost (tariff : Tariff consumer.bound amount) : Turn → Nat
  | .delivered _ _ _ => tariff.delivered
  | .processed _ _ => tariff.processed
  | .expired _ _ => tariff.expired
  | _ => 0

end Tariff

/-- What all copies weigh. -/
def weigh (weight : Copy → Nat) (intake : Intake) : Nat :=
  (intake.broker.copies.map weight).sum

/-- A new message or a death brings in an amount. -/
def Turn.income (amount : Nat) (turn : Turn) : Nat :=
  if turn.isProduced || turn.isDied then amount else 0

variable {amount made : Nat} {letter : Letter} (tariff : Tariff consumer.bound amount)

/-- What a processed delivery leaves is worth less than the delivery. -/
theorem Leaves.paid (leaves : Leaves consumer letter made given settled)
    (counted : Counted consumer made letter.message) :
    (given.map tariff.worth).sum + tariff.processed ≤ tariff.held (consumer.bound - made) := by
  have bound := counted.2
  cases leaves with
  | handled => simpa using tariff.process (consumer.bound - made) (by omega)
  | passedOn onward =>
      rcases onward with rfl | ⟨rfl, onward⟩
      · simpa [Tariff.worth] using tariff.process (consumer.bound - made) (by omega)
      · have passed := tariff.pass (consumer.bound - (made + 1)) (by have := onward.2; omega)
        have next : consumer.bound - (made + 1) + 1 = consumer.bound - made := by omega
        rw [next] at passed
        simpa [Tariff.worth, onward.remaining_eq] using passed

/-- Spec lemma: what a turn takes, and the amount for a new message or a death, pays for
what it gives and for the turn. -/
theorem Exchange.paid (exchange : Exchange consumer number turn taken given settled) :
    (given.map tariff.worth).sum + tariff.cost turn ≤
      (taken.map tariff.worth).sum + turn.income amount := by
  cases exchange with
  | produced counted =>
      simpa [Tariff.worth, counted.remaining_eq, Turn.income, Tariff.cost] using
        tariff.enter consumer.bound (Nat.le_refl _)
  | @delivered _ _ _ made letter counted =>
      have bound := counted.2
      simpa [Tariff.worth, counted.remaining_eq, Turn.income, Tariff.cost] using
        tariff.deliver (consumer.bound - made) (by omega)
  | processed counted leaves =>
      simpa [Tariff.worth, counted.remaining_eq, Turn.income, Tariff.cost] using
        leaves.paid tariff counted
  | died counted leaves =>
      have paid := leaves.paid tariff counted
      simp [Tariff.worth, counted.remaining_eq, Turn.income, Tariff.cost]
      omega
  | @diedBetween _ _ _ made letter _ _ counted leaves =>
      have paid := leaves.paid tariff counted
      have back := tariff.enter (consumer.bound - made) (Nat.sub_le _ _)
      simp [Tariff.worth, counted.remaining_eq, Turn.income, Tariff.cost]
      omega
  | @diedBefore _ _ _ made letter counted =>
      have back := tariff.enter (consumer.bound - made) (Nat.sub_le _ _)
      simp [Tariff.worth, counted.remaining_eq, Turn.income, Tariff.cost]
      omega
  | @expired _ made _ letter counted returned =>
      have bound := counted.2
      simpa [Tariff.worth, counted.remaining_eq, returned.remaining_eq, Turn.income,
        Tariff.cost] using tariff.expire (consumer.bound - made) (by omega)

/-- Whether a copy stems from a message. -/
def stemsFrom (origin : Nat) (copy : Copy) : Nat := if copy.2.origin = origin then 1 else 0

/-- A turn loses no message, and doubles none unless a worker dies. -/
theorem Exchange.stems (exchange : Exchange consumer number turn taken given settled)
    (origin : Nat) :
    (taken.map (stemsFrom origin)).sum +
        (if turn.isProduced ∧ origin = number then 1 else 0) ≤
      (given.map (stemsFrom origin)).sum + settled.count origin ∧
    (turn.isDied = false →
      (taken.map (stemsFrom origin)).sum +
          (if turn.isProduced ∧ origin = number then 1 else 0) =
        (given.map (stemsFrom origin)).sum + settled.count origin) := by
  have left : ∀ {letter made given settled}, Leaves consumer letter made given settled →
      (given.map (stemsFrom origin)).sum + settled.count origin =
        if letter.origin = origin then 1 else 0 := by
    intro letter made given settled leaves
    cases leaves with
    | handled => simp [List.count_singleton]
    | passedOn onward => simp [stemsFrom]
  cases exchange with
  | produced counted => simp [stemsFrom, eq_comm]
  | delivered counted => simp [stemsFrom]
  | processed counted leaves => simp [stemsFrom, left leaves]
  | died counted leaves => simp [stemsFrom, left leaves]
  | diedBetween counted leaves =>
      have same := left leaves
      simp [stemsFrom]
      omega
  | diedBefore counted => simp [stemsFrom]
  | expired counted returned => simp [stemsFrom]

end Weights

/-! ## Runs -/

section Runs

variable {consumer : RabbitMQShipmentEventConsumer} {decoders : Decoders}
  {intake after final : Intake} {turn : Turn} {turns : List Turn}

/-- What the copies weigh after a turn. -/
theorem weigh_exchange {taken given : Multiset Copy} (weight : Copy → Nat)
    (copies : after.broker.copies + taken = intake.broker.copies + given) :
    after.weigh weight + (taken.map weight).sum =
      intake.weigh weight + (given.map weight).sum := by
  have weighed := congrArg (fun copies : Multiset Copy => (copies.map weight).sum) copies
  simp only [Multiset.map_add, Multiset.sum_add] at weighed
  exact weighed

/-- The accounts of one message: its copies, and how often it has been handled. -/
def accounted (intake : Intake) (origin : Nat) : Nat :=
  intake.weigh (stemsFrom origin) + intake.handled.count origin

theorem balanced {amount : Nat} (tariff : Tariff consumer.bound amount) :
    Machine.Balanced (Intake.turn consumer decoders) (Sound consumer) Turn.Uncounted
      (weigh tariff.worth) tariff.cost (Turn.income amount) := by
  intro intake turn after sound proper stepped
  obtain ⟨taken, given, settled, exchange, copies, -⟩ := turn_exchange sound proper stepped
  have moved := weigh_exchange tariff.worth copies
  have paid := exchange.paid tariff
  omega

theorem Sound.run (sound : intake.Sound consumer) (proper : ∀ turn ∈ turns, turn.Uncounted)
    (ran : Machine.run (Intake.turn consumer decoders) turns intake = some final) :
    final.Sound consumer :=
  Machine.run_invariant (Sound consumer) Turn.Uncounted
    (fun _ _ _ sound proper stepped => sound.step proper stepped) proper sound ran

/-- What a list of turns brings in. -/
theorem sum_income (amount : Nat) (turns : List Turn) :
    (turns.map (Turn.income amount)).sum =
      amount * (turns.countP Turn.isProduced + turns.countP Turn.isDied) := by
  induction turns with
  | nil => rfl
  | cons turn turns inductionHypothesis =>
      rw [List.map_cons, List.sum_cons, inductionHypothesis, List.countP_cons, List.countP_cons]
      cases turn <;> simp [Turn.income, Nat.mul_add] <;> omega

theorem sum_deliveries (turns : List Turn) :
    (turns.map (Tariff.deliveries consumer.bound).cost).sum =
      turns.countP Turn.isDelivered := by
  induction turns with
  | nil => rfl
  | cons turn turns inductionHypothesis =>
      have cost : (Tariff.deliveries consumer.bound).cost turn =
          if turn.isDelivered then 1 else 0 := by
        cases turn <;> rfl
      rw [List.map_cons, List.sum_cons, inductionHypothesis, List.countP_cons, cost,
        Nat.add_comm]

/-- While something waits, a turn is possible that is not a death. -/
theorem goes_on (waits : ¬ intake.Drained) :
    ∃ turn after, turn.isQuiet = true ∧
      Intake.turn consumer decoders intake turn = some after := by
  let attempt : DeliveryAttempt := { handled := .ok (), now := .utc 0, uuid := ⟨0⟩ }
  cases unacked : intake.broker.unacked with
  | cons entry rest =>
      have has : (intake.delivery entry.1).isSome := by
        rw [Intake.delivery, unacked]
        simp [Journal.entriesOf]
      obtain ⟨delivery, has⟩ := Option.isSome_iff_exists.mp has
      exact ⟨.processed entry.1 attempt, _, rfl,
        Option.map_eq_some_iff.mpr ⟨delivery, has, rfl⟩⟩
  | nil =>
      have idle : intake.delivery 0 = none := by
        rw [Intake.delivery, unacked]
        rfl
      cases main : intake.broker.queues .main with
      | cons letter rest =>
          have some : (intake.broker.deliver 0 0 0).isSome := by
            rw [Broker.deliver, main]
            rfl
          obtain ⟨result, delivers⟩ := Option.isSome_iff_exists.mp some
          refine ⟨.delivered 0 0 0, { intake with broker := result.2 }, rfl, ?_⟩
          simp only [Intake.turn, idle]
          exact Option.map_eq_some_iff.mpr ⟨result, delivers, rfl⟩
      | nil =>
          cases retry : intake.broker.queues .retry with
          | nil => exact absurd ⟨main, retry, unacked⟩ waits
          | cons letter rest =>
              have some : (intake.broker.expire 0 letter.message.properties).isSome := by
                rw [Broker.expire, retry]
                rfl
              obtain ⟨broker, expires⟩ := Option.isSome_iff_exists.mp some
              refine ⟨.expired 0 letter.message.properties, { intake with broker := broker },
                rfl, ?_⟩
              simp only [Intake.turn, retry, List.getElem?_cons_zero, if_true]
              exact Option.map_eq_some_iff.mpr ⟨broker, expires, rfl⟩

/-! ## The accounts of a message -/

/-- Whether a message has been produced. -/
def present (intake : Intake) (origin : Nat) : Nat :=
  if origin < intake.broker.entered.length then 1 else 0

/-- Step lemma: the accounts gain what is produced, and more only by a death. -/
theorem accounted_step (sound : intake.Sound consumer) (proper : turn.Uncounted)
    (stepped : Intake.turn consumer decoders intake turn = some after) (origin : Nat) :
    intake.accounted origin + after.present origin ≤
        after.accounted origin + intake.present origin ∧
      (turn.isDied = false →
        intake.accounted origin + after.present origin =
          after.accounted origin + intake.present origin) := by
  obtain ⟨taken, given, settled, exchange, copies, handled, entered, -⟩ :=
    turn_exchange sound proper stepped
  have moved := weigh_exchange (stemsFrom origin) copies
  obtain ⟨most, exact⟩ := exchange.stems origin
  have grown : after.present origin = intake.present origin +
      (if turn.isProduced ∧ origin = intake.broker.entered.length then 1 else 0) := by
    rw [present, present, entered]
    cases turn.isProduced with
    | false => simp
    | true =>
        rcases Nat.lt_trichotomy origin intake.broker.entered.length with below | same | above
        · simp [below, Nat.lt_succ_of_lt below, Nat.ne_of_lt below]
        · simp [same]
        · have beyond : ¬ origin < intake.broker.entered.length + 1 := by omega
          simp [Nat.not_lt_of_gt above, beyond, Nat.ne_of_gt above]
  rw [accounted, accounted, grown, handled, List.count_append]
  refine ⟨by omega, fun alive => ?_⟩
  have same := exact alive
  omega

/-- Run lemma: every message that was produced has a copy or has been handled. -/
theorem present_le_accounted (proper : ∀ turn ∈ turns, turn.Uncounted)
    (ran : Machine.run (Intake.turn consumer decoders) turns {} = some final) (origin : Nat) :
    final.present origin ≤ final.accounted origin := by
  have kept := Machine.run_invariant
    (fun intake : Intake => intake.Sound consumer ∧
      intake.present origin ≤ intake.accounted origin) Turn.Uncounted
    (fun intake turn after holds proper stepped => by
      obtain ⟨sound, covered⟩ := holds
      obtain ⟨most, -⟩ := accounted_step sound proper stepped origin
      exact ⟨sound.step proper stepped, by omega⟩)
    proper ⟨.initial, by simp [present]⟩ ran
  exact kept.2

/-- Run lemma: without deaths, it has one copy or has been handled once. -/
theorem present_eq_accounted (proper : ∀ turn ∈ turns, turn.Uncounted)
    (alive : ∀ turn ∈ turns, turn.isDied = false)
    (ran : Machine.run (Intake.turn consumer decoders) turns {} = some final) (origin : Nat) :
    final.present origin = final.accounted origin := by
  have kept := Machine.run_invariant
    (fun intake : Intake => intake.Sound consumer ∧
      intake.present origin = intake.accounted origin)
    (fun turn : Turn => turn.Uncounted ∧ turn.isDied = false)
    (fun intake turn after holds proper stepped => by
      obtain ⟨sound, covered⟩ := holds
      obtain ⟨-, exact⟩ := accounted_step sound proper.1 stepped origin
      have same := exact proper.2
      exact ⟨sound.step proper.1 stepped, by omega⟩)
    (fun turn member => ⟨proper turn member, alive turn member⟩)
    ⟨.initial, by
      simp [present, accounted, weigh, Broker.copies, Broker.copiesIn, Broker.copiesHeld]⟩ ran
  exact kept.2

/-- The copies of a message in the dead-letter queue. -/
def deadLettered (intake : Intake) (origin : Nat) : Nat :=
  (intake.broker.queues .deadLetter).countP fun letter => letter.origin = origin

/-- When nothing waits, the copies that are left are dead-lettered. -/
theorem Drained.accounted_eq (drained : intake.Drained) (origin : Nat) :
    intake.accounted origin = intake.deadLettered origin + intake.handled.count origin := by
  have weighed : ∀ letters : List Letter,
      ((letters.map fun letter => stemsFrom origin (some .deadLetter, letter)) : List Nat).sum =
        letters.countP fun letter => letter.origin = origin := by
    intro letters
    induction letters with
    | nil => rfl
    | cons letter letters inductionHypothesis =>
        rw [List.map_cons, List.sum_cons, inductionHypothesis, List.countP_cons, stemsFrom,
          Nat.add_comm]
        simp
  rw [accounted, weigh, Broker.copies, Broker.copiesIn, Broker.copiesIn, Broker.copiesIn,
    Broker.copiesHeld, drained.main, drained.retry, drained.unacked, deadLettered, ← weighed]
  simp [Function.comp_def]

theorem Turn.isQuiet.uncounted (quiet : turn.isQuiet = true) : turn.Uncounted := by
  cases turn with
  | produced message => cases quiet
  | _ => trivial

theorem Turn.isQuiet.income (quiet : turn.isQuiet = true) (amount : Nat) :
    turn.income amount = 0 := by
  cases turn with
  | produced message => cases quiet
  | died worker attempt performed => cases quiet
  | _ => rfl

theorem Turn.isQuiet.cost (quiet : turn.isQuiet = true) :
    (Tariff.turns consumer.bound).cost turn = 1 := by
  cases turn with
  | produced message => cases quiet
  | died worker attempt performed => cases quiet
  | _ => rfl

/-- Any number of producers and workers, any outcomes of the attempts, any times of return
from the retry queue and any deaths of workers, where producers send messages without an
attempt count.  Each message, and each death of a worker, costs at most `max_attempts`
deliveries.  Once nothing is produced and no worker dies, there are only so many turns left;
a turn is possible until nothing waits; that state is reached; and in it every message has
been handled or is in the dead-letter queue, exactly once where no worker ever died. -/
theorem ingestion_drains (consumer : RabbitMQShipmentEventConsumer) (decoders : Decoders)
    {turns : List Turn} {intake : Intake} (proper : ∀ turn ∈ turns, turn.Uncounted)
    (ran : Machine.run (Intake.turn consumer decoders) turns {} = some intake) :
    turns.countP Turn.isDelivered ≤
        consumer.bound * (turns.countP Turn.isProduced + turns.countP Turn.isDied) ∧
      (∀ more final, (∀ turn ∈ more, turn.isQuiet = true) →
        Machine.run (Intake.turn consumer decoders) more intake = some final →
        more.length ≤
            3 * consumer.bound * (turns.countP Turn.isProduced + turns.countP Turn.isDied) ∧
          (final.Drained ∨ ∃ turn next, turn.isQuiet = true ∧
            Intake.turn consumer decoders final turn = some next) ∧
          (final.Drained → ∀ origin < final.broker.entered.length,
            1 ≤ final.deadLettered origin + final.handled.count origin ∧
              (turns.countP Turn.isDied = 0 →
                final.deadLettered origin + final.handled.count origin = 1))) ∧
      ∃ more final, (∀ turn ∈ more, turn.isQuiet = true) ∧
        Machine.run (Intake.turn consumer decoders) more intake = some final ∧
        final.Drained := by
  have steps : ∀ (intake : Intake) (turn : Turn) (after : Intake), intake.Sound consumer →
      turn.Uncounted → Intake.turn consumer decoders intake turn = some after →
      after.Sound consumer :=
    fun _ _ _ sound proper stepped => sound.step proper stepped
  have sound : intake.Sound consumer := Sound.initial.run proper ran
  have empty : ∀ weight, ({} : Intake).weigh weight = 0 := by
    intro weight
    simp [weigh, Broker.copies, Broker.copiesIn, Broker.copiesHeld]
  refine ⟨?_, ?_, ?_⟩
  · have paid := Machine.run_balanced (balanced (.deliveries consumer.bound)) steps proper
      Sound.initial ran
    rw [empty, sum_deliveries, sum_income] at paid
    omega
  · intro more final quiet ranOn
    have whole : Machine.run (Intake.turn consumer decoders) (turns ++ more) {} =
        some final := by
      rw [Machine.run_append, ran]
      exact ranOn
    have allProper : ∀ turn ∈ turns ++ more, turn.Uncounted := by
      intro turn member
      rcases List.mem_append.mp member with earlier | later
      · exact proper turn earlier
      · exact Turn.isQuiet.uncounted (quiet turn later)
    refine ⟨?_, ?_, ?_⟩
    · have spent := Machine.run_balanced (balanced (.turns consumer.bound)) steps proper
        Sound.initial ran
      have paid := Machine.run_balanced (balanced (.turns consumer.bound)) steps
        (fun turn member => Turn.isQuiet.uncounted (quiet turn member)) sound ranOn
      have cost : (more.map (Tariff.turns consumer.bound).cost).sum = more.length := by
        rw [List.map_congr_left fun turn member => Turn.isQuiet.cost (quiet turn member)]
        simp
      have income : (more.map (Turn.income (3 * consumer.bound))).sum = 0 := by
        apply List.sum_eq_zero
        intro amount member
        obtain ⟨turn, there, rfl⟩ := List.mem_map.mp member
        exact Turn.isQuiet.income (quiet turn there) _
      rw [empty, sum_income] at spent
      rw [cost, income] at paid
      omega
    · by_cases drained : final.Drained
      · exact .inl drained
      · exact .inr (goes_on drained)
    · intro drained origin bound
      have there : final.present origin = 1 := if_pos bound
      have least := present_le_accounted allProper whole origin
      rw [drained.accounted_eq, there] at least
      refine ⟨least, fun alive => ?_⟩
      have noDeath : ∀ turn ∈ turns ++ more, turn.isDied = false := by
        intro turn member
        rcases List.mem_append.mp member with earlier | later
        · exact Bool.eq_false_iff.mpr (List.countP_eq_zero.mp alive turn earlier)
        · have calm := quiet turn later
          cases turn with
          | died worker attempt performed => cases calm
          | _ => rfl
      have exact := present_eq_accounted allProper noDeath whole origin
      rw [drained.accounted_eq, there] at exact
      exact exact.symm
  · refine Machine.comes_to_rest (Sound consumer) (fun turn : Turn => turn.isQuiet = true)
      (weigh (Tariff.turns consumer.bound).worth) ?_ ?_ ?_ sound
    · intro intake turn after sound quiet stepped
      exact sound.step (Turn.isQuiet.uncounted quiet) stepped
    · intro intake turn after sound quiet stepped
      have paid := balanced (.turns consumer.bound) intake turn after sound
        (Turn.isQuiet.uncounted quiet) stepped
      rw [Turn.isQuiet.income quiet, Turn.isQuiet.cost quiet] at paid
      omega
    · intro intake sound waits
      exact goes_on waits

/-- Two messages time out.  A worker dies with the first one, after it has published it for
another attempt and before it has acknowledged it; the second one waits in the retry queue, and
what returns from there of the first is handled. -/
def lossyTurns : List Turn :=
  let handled : DeliveryAttempt := { timeout with handled := .ok () }
  let returned : BasicProperties :=
    { probe.properties with
      headers := some (AList.insert "x-attempt-count" (.int 2) ∅) }
  [.produced probe, .produced probe, .delivered 1 0 7, .delivered 2 0 8, .died 1 timeout 1,
    .processed 2 timeout, .expired 0 returned, .delivered 1 1 9, .processed 1 handled]

theorem lossyTurns_run :
    ((Machine.run (Intake.turn { exchange := "freight.shipment-events" }
      probeDecoders) lossyTurns {}).map fun intake =>
        (intake.broker.letters.map Letter.origin, intake.handled)) = some ([0, 1], [0]) := by
  decide +kernel

theorem lossyTurns_uncounted : ∀ turn ∈ lossyTurns, turn.Uncounted := by
  simp [lossyTurns, Turn.Uncounted, headersOf, probe]

/-- They have taken at most nine deliveries, and the retry queue and the main queue can be
emptied from here. -/
theorem lossyTurns_drain :
    lossyTurns.countP Turn.isDelivered ≤ 3 * (2 + 1) ∧
      ∃ intake more final,
        Machine.run (Intake.turn { exchange := "freight.shipment-events" }
          probeDecoders) lossyTurns {} = some intake ∧
        Machine.run (Intake.turn { exchange := "freight.shipment-events" }
          probeDecoders) more intake = some final ∧ final.Drained := by
  obtain ⟨intake, ran, -⟩ := Option.map_eq_some_iff.mp lossyTurns_run
  obtain ⟨bounded, -, more, final, -, ranOn, drained⟩ :=
    ingestion_drains { exchange := "freight.shipment-events" } probeDecoders
      lossyTurns_uncounted ran
  exact ⟨bounded, intake, more, final, ran, ranOn, drained⟩

end Runs

end Intake

end Freight
