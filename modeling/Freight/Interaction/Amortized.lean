/-
Module: Freight.Interaction.Amortized
Purpose: Runs of a machine that takes one turn after another.  What every turn pays from a
  potential, a whole run pays; and a machine that can go on with turns that lower a
  potential comes to rest.
Trusted boundary: none
Main exports:
  Machine, Machine.run, Machine.run_append, Machine.run_invariant, Machine.Balanced,
  Machine.run_balanced, Machine.comes_to_rest
-/
import Mathlib.Algebra.BigOperators.Group.List.Basic
import Mathlib.Algebra.GroupWithZero.Nat

namespace Interaction

/-- A machine: the state after a turn, if the turn is possible. -/
abbrev Machine (State Turn : Type) : Type := State → Turn → Option State

namespace Machine

variable {State Turn : Type} (machine : Machine State Turn)

/-- One turn after another. -/
def run : List Turn → State → Option State
  | [], state => some state
  | turn :: turns, state => (machine state turn).bind (run turns)

variable {machine} {turns more : List Turn} {state final : State}

theorem run_cons_iff {turn : Turn} :
    machine.run (turn :: turns) state = some final ↔
      ∃ after, machine state turn = some after ∧ machine.run turns after = some final := by
  rw [run, Option.bind_eq_some_iff]

theorem run_append :
    machine.run (turns ++ more) state = (machine.run turns state).bind (machine.run more) := by
  induction turns generalizing state with
  | nil => rfl
  | cons turn turns inductionHypothesis =>
      simp only [List.cons_append, run]
      cases machine state turn with
      | none => rfl
      | some after => exact inductionHypothesis

/-! ## Invariants -/

/-- What every allowed turn keeps, a run of allowed turns keeps. -/
theorem run_invariant (invariant : State → Prop) (allowed : Turn → Prop)
    (kept : ∀ state turn after, invariant state → allowed turn →
      machine state turn = some after → invariant after)
    (proper : ∀ turn ∈ turns, allowed turn) (holds : invariant state)
    (ran : machine.run turns state = some final) : invariant final := by
  induction turns generalizing state with
  | nil =>
      cases ran
      exact holds
  | cons turn turns inductionHypothesis =>
      obtain ⟨after, stepped, rest⟩ := run_cons_iff.mp ran
      obtain ⟨first, others⟩ := List.forall_mem_cons.mp proper
      exact inductionHypothesis others (kept state turn after holds first stepped) rest

/-! ## Potentials -/

/-- A potential pays for the cost of every allowed turn, from what it was and what the turn
brings in. -/
def Balanced (machine : Machine State Turn) (invariant : State → Prop)
    (allowed : Turn → Prop) (potential : State → Nat) (cost income : Turn → Nat) : Prop :=
  ∀ state turn after, invariant state → allowed turn → machine state turn = some after →
    potential after + cost turn ≤ potential state + income turn

/-- Then it pays for the cost of a run. -/
theorem run_balanced {invariant : State → Prop} {allowed : Turn → Prop}
    {potential : State → Nat} {cost income : Turn → Nat}
    (balanced : machine.Balanced invariant allowed potential cost income)
    (kept : ∀ state turn after, invariant state → allowed turn →
      machine state turn = some after → invariant after)
    (proper : ∀ turn ∈ turns, allowed turn) (holds : invariant state)
    (ran : machine.run turns state = some final) :
    potential final + (turns.map cost).sum ≤ potential state + (turns.map income).sum := by
  induction turns generalizing state with
  | nil =>
      cases ran
      exact Nat.le_refl _
  | cons turn turns inductionHypothesis =>
      obtain ⟨after, stepped, rest⟩ := run_cons_iff.mp ran
      obtain ⟨first, others⟩ := List.forall_mem_cons.mp proper
      have paid := balanced state turn after holds first stepped
      have later := inductionHypothesis others (kept state turn after holds first stepped) rest
      simp only [List.map_cons, List.sum_cons]
      omega

/-- A machine that can always go on until it rests, with turns that lower a potential,
comes to rest. -/
theorem comes_to_rest (invariant : State → Prop) (allowed : Turn → Prop)
    {resting : State → Prop} (potential : State → Nat)
    (kept : ∀ state turn after, invariant state → allowed turn →
      machine state turn = some after → invariant after)
    (lowers : ∀ state turn after, invariant state → allowed turn →
      machine state turn = some after → potential after < potential state)
    (goesOn : ∀ state, invariant state → ¬ resting state →
      ∃ turn after, allowed turn ∧ machine state turn = some after)
    (holds : invariant state) :
    ∃ turns final, (∀ turn ∈ turns, allowed turn) ∧ machine.run turns state = some final ∧
      resting final := by
  induction bound : potential state using Nat.strongRecOn generalizing state with
  | ind bound inductionHypothesis =>
      by_cases rests : resting state
      · exact ⟨[], state, by simp, rfl, rests⟩
      · obtain ⟨turn, after, proper, stepped⟩ := goesOn state holds rests
        have lower := lowers state turn after holds proper stepped
        obtain ⟨turns, final, others, ran, rested⟩ :=
          inductionHypothesis (potential after) (bound ▸ lower)
            (kept state turn after holds proper stepped) rfl
        refine ⟨turn :: turns, final, List.forall_mem_cons.mpr ⟨proper, others⟩, ?_, rested⟩
        exact run_cons_iff.mpr ⟨after, stepped, ran⟩

end Machine

end Interaction
