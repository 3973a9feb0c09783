/-
Module: Freight.Domain.Lifecycle
Purpose: The regular language of complete lifecycles, and that the state machine takes
  exactly its words from CREATED to DELIVERED and exactly their prefixes anywhere.
Trusted boundary: none
Main exports:
  lifecyclePattern, Lifecycle, ShipmentStateMachine.run, lifecyclePattern_iff,
  lifecycle_iff
-/
import Freight.Domain.Shipment
import Mathlib.Computability.RegularExpressions
import Mathlib.Tactic.Abel

namespace Freight

open RegularExpression (char)

/-! ## Words that begin with a letter -/

section Words

variable {α : Type} {letter first : α} {rest : List α} {language : Language α}

theorem cons_mem_letter_mul :
    first :: rest ∈ ({[letter]} : Language α) * language ↔ first = letter ∧ rest ∈ language := by
  rw [Language.mem_mul]
  constructor
  · rintro ⟨one, single, two, member, joined⟩
    rw [Set.mem_singleton_iff.mp single] at joined
    obtain ⟨same, others⟩ := List.cons.inj joined
    exact ⟨same.symm, others ▸ member⟩
  · rintro ⟨rfl, member⟩
    exact ⟨[first], rfl, rest, member, rfl⟩

theorem nil_notMem_letter_mul : [] ∉ ({[letter]} : Language α) * language := by
  rw [Language.mem_mul]
  rintro ⟨one, single, two, member, joined⟩
  rw [Set.mem_singleton_iff.mp single] at joined
  cases joined

end Words

/-! ## The language -/

/-- The lifecycles of a shipment, from the scheduling of its pickup to its delivery. -/
def lifecyclePattern : RegularExpression ShipmentEventType :=
  char .pickupScheduled * (char .pickupCompleted * (char .shipmentDeparted *
    (RegularExpression.star (char .delayDetected * char .shipmentDeparted) *
      ((char .delayDetected + 1) * char .delivered))))

/-- The beginnings of the lifecycles. -/
def Lifecycle (word : List ShipmentEventType) : Prop :=
  ∃ complete ∈ lifecyclePattern.matches', word <+: complete

namespace ShipmentStateMachine

/-- The state after a word of events, if every transition is defined. -/
def run (status : ShipmentStatus) (word : List ShipmentEventType) : Option ShipmentStatus :=
  word.foldlM transitions status

/-- What is left of a lifecycle in transit. -/
def journeys : Language ShipmentEventType :=
  KStar.kstar ({[.delayDetected]} * {[.shipmentDeparted]}) *
    (({[.delayDetected]} + 1) * {[.delivered]})

/-- What is left of a lifecycle in each state. -/
def remaining : ShipmentStatus → Language ShipmentEventType
  | .created => lifecyclePattern.matches'
  | .scheduled => {[.pickupCompleted]} * ({[.shipmentDeparted]} * journeys)
  | .pickedUp => {[.shipmentDeparted]} * journeys
  | .inTransit => journeys
  | .delayed => {[.delivered]} * 1 + {[.shipmentDeparted]} * journeys
  | .delivered => 1

/-- A journey ends, or it is delayed. -/
theorem journeys_eq :
    journeys = {[.delivered]} * 1 + {[.delayDetected]} * remaining .delayed := by
  have unrolled := Language.one_add_self_mul_kstar_eq_kstar
    (({[.delayDetected]} : Language ShipmentEventType) * {[.shipmentDeparted]})
  calc
    journeys = (({[.delayDetected]} + 1) * {[.delivered]}) +
        {[.delayDetected]} * ({[.shipmentDeparted]} * journeys) := by
      conv_lhs => rw [journeys, ← unrolled, add_mul, one_mul, mul_assoc, mul_assoc]
      rfl
    _ = {[.delivered]} * 1 +
        {[.delayDetected]} * ({[.delivered]} * 1 + {[.shipmentDeparted]} * journeys) := by
      rw [add_mul, one_mul, mul_one, mul_add]
      abel

/-- Reading a letter of what is left. -/
theorem cons_mem_remaining {status : ShipmentStatus} {eventType : ShipmentEventType}
    {word : List ShipmentEventType} :
    eventType :: word ∈ remaining status ↔
      ∃ next, transitions status eventType = some next ∧ word ∈ remaining next := by
  have nothing : ∀ {word : List ShipmentEventType}, word ∈ (1 : Language ShipmentEventType) ↔
      word = [] := Iff.rfl
  cases status with
  | created =>
      simp only [remaining, lifecyclePattern, RegularExpression.matches'_mul,
        RegularExpression.matches'_char, cons_mem_letter_mul]
      cases eventType <;> simp [transitions, journeys]
  | scheduled =>
      simp only [remaining, cons_mem_letter_mul]
      cases eventType <;> simp [transitions]
  | pickedUp =>
      simp only [remaining, cons_mem_letter_mul]
      cases eventType <;> simp [transitions]
  | inTransit =>
      change eventType :: word ∈ journeys ↔ _
      rw [journeys_eq, Language.mem_add, cons_mem_letter_mul, cons_mem_letter_mul]
      cases eventType <;> simp [transitions, remaining]
  | delayed =>
      rw [remaining, Language.mem_add, cons_mem_letter_mul, cons_mem_letter_mul]
      cases eventType <;> simp [transitions, remaining]
  | delivered =>
      rw [remaining, nothing]
      cases eventType <;> simp [transitions]

/-- Only a delivered shipment has nothing left. -/
theorem nil_mem_remaining {status : ShipmentStatus} :
    [] ∈ remaining status ↔ status = .delivered := by
  cases status with
  | created =>
      simp only [remaining, lifecyclePattern, RegularExpression.matches'_mul,
        RegularExpression.matches'_char, nil_notMem_letter_mul]
      simp
  | scheduled => simp [remaining, nil_notMem_letter_mul]
  | pickedUp => simp [remaining, nil_notMem_letter_mul]
  | inTransit =>
      change [] ∈ journeys ↔ _
      rw [journeys_eq, Language.mem_add]
      simp only [nil_notMem_letter_mul, or_self]
      decide
  | delayed =>
      rw [remaining, Language.mem_add]
      simp only [nil_notMem_letter_mul, or_self]
      decide
  | delivered => simp [remaining]

/-- What is left of a lifecycle is what leads to DELIVERED. -/
theorem mem_remaining_iff {word : List ShipmentEventType} : ∀ {status : ShipmentStatus},
    word ∈ remaining status ↔ run status word = some .delivered := by
  induction word with
  | nil =>
      intro status
      rw [nil_mem_remaining]
      simp [run]
  | cons eventType word inductionHypothesis =>
      intro status
      rw [cons_mem_remaining, run, List.foldlM_cons]
      simp only [inductionHypothesis, run, Option.bind_eq_bind, Option.bind_eq_some_iff]

/-- From every state something leads to DELIVERED. -/
theorem exists_run_delivered (status : ShipmentStatus) :
    ∃ word, run status word = some .delivered := by
  cases status with
  | created =>
      exact ⟨[.pickupScheduled, .pickupCompleted, .shipmentDeparted, .delivered], rfl⟩
  | scheduled => exact ⟨[.pickupCompleted, .shipmentDeparted, .delivered], rfl⟩
  | pickedUp => exact ⟨[.shipmentDeparted, .delivered], rfl⟩
  | inTransit => exact ⟨[.delivered], rfl⟩
  | delayed => exact ⟨[.delivered], rfl⟩
  | delivered => exact ⟨[], rfl⟩

theorem run_append (status : ShipmentStatus) (first second : List ShipmentEventType) :
    run status (first ++ second) = (run status first).bind fun next => run next second := by
  rw [run, List.foldlM_append]
  rfl

/-- A delivered shipment takes no event. -/
theorem run_delivered_iff {word : List ShipmentEventType} {status : ShipmentStatus} :
    run .delivered word = some status ↔ word = [] ∧ status = .delivered := by
  cases word with
  | nil => simp [run, eq_comm]
  | cons eventType word => cases eventType <;> simp [run, transitions]

/-- How often an event that happens once in a lifecycle is still to come. -/
def owed (status : ShipmentStatus) (eventType : ShipmentEventType) : Nat :=
  match status, eventType with
  | .created, .pickupScheduled => 1
  | .created, .pickupCompleted | .scheduled, .pickupCompleted => 1
  | .delivered, .delivered => 0
  | _, .delivered => 1
  | _, _ => 0

/-- The events that happen once in a lifecycle. -/
def single : List ShipmentEventType := [.pickupScheduled, .pickupCompleted, .delivered]

/-- Step lemma: a transition pays what it owes. -/
theorem owed_of_transition {status next : ShipmentStatus} {taken counted : ShipmentEventType}
    (once : counted ∈ single) (edge : transitions status taken = some next) :
    owed status counted = owed next counted + if taken = counted then 1 else 0 := by
  cases status <;> cases taken <;> cases edge <;> cases counted <;> revert once <;> decide

/-- A word that leads to DELIVERED pays what is owed. -/
theorem count_of_run {counted : ShipmentEventType} (once : counted ∈ single)
    {word : List ShipmentEventType} : ∀ {status : ShipmentStatus},
      run status word = some .delivered → word.count counted = owed status counted := by
  induction word with
  | nil =>
      intro status reached
      cases reached
      cases counted <;> revert once <;> decide
  | cons eventType word inductionHypothesis =>
      intro status reached
      rw [run, List.foldlM_cons] at reached
      obtain ⟨next, edge, rest⟩ := Option.bind_eq_some_iff.mp reached
      rw [List.count_cons, inductionHypothesis rest, owed_of_transition once edge]
      simp

end ShipmentStateMachine

/-- The complete lifecycles are the words that lead from CREATED to DELIVERED. -/
theorem lifecyclePattern_iff {word : List ShipmentEventType} :
    word ∈ lifecyclePattern.matches' ↔
      ShipmentStateMachine.run .created word = some .delivered := by
  change word ∈ ShipmentStateMachine.remaining .created ↔ _
  exact ShipmentStateMachine.mem_remaining_iff

/-- The beginnings of the lifecycles are the words that lead anywhere from CREATED. -/
theorem lifecycle_iff {word : List ShipmentEventType} :
    Lifecycle word ↔ ∃ status, ShipmentStateMachine.run .created word = some status := by
  constructor
  · rintro ⟨complete, member, rest, rfl⟩
    rw [lifecyclePattern_iff, ShipmentStateMachine.run_append] at member
    obtain ⟨status, reached, -⟩ := Option.bind_eq_some_iff.mp member
    exact ⟨status, reached⟩
  · rintro ⟨status, reached⟩
    obtain ⟨rest, delivered⟩ := ShipmentStateMachine.exists_run_delivered status
    refine ⟨word ++ rest, ?_, List.prefix_append word rest⟩
    rw [lifecyclePattern_iff, ShipmentStateMachine.run_append, reached]
    exact delivered

end Freight
