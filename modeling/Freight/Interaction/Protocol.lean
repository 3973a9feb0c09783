/-
Module: Freight.Interaction.Protocol
Purpose: The places that a program passes through as its operations are answered, and
  what being at a place says about the world while other programs run.
Trusted boundary: none
Main exports:
  Protocol, Protocol.contract, Protocol.Follows, Protocol.holds_call,
  Protocol.Kept, Protocol.Kept.placed_reachable
-/
import Freight.Interaction.Concurrency

namespace Interaction

/-!
A protocol says in which order a program performs its operations, whoever answers them.
It is checked on the program alone, with the rules for contracts: the world is the place,
and an operation that is out of order leads to no place at all.
-/

/-- From each place, the operations that are in order, and where an answer leads. -/
structure Protocol (Op : Type) (Answer : Op → Type) (Place : Type) where
  start : Place
  next : Place → (op : Op) → Answer op → Option Place

namespace Protocol

section Following

variable {Op : Type} {Answer : Op → Type} {Place α : Type}

/-- The environment that answers at will and only keeps the place. -/
def contract (protocol : Protocol Op Answer Place) :
    Contract Op Answer (Option Place) ((op : Op) → Answer op) where
  act op choice place :=
    some (choice op, place.bind fun place => protocol.next place op (choice op))
  invariant place := place.isSome
  rely before after := after = before
  guarantee _ _ := True

/-- A program that follows the protocol from a place on and ends where it starts. -/
def Follows (protocol : Protocol Op Answer Place) (program : Program Op Answer α)
    (place : Place) : Prop :=
  protocol.contract.wp program (fun _ last => last = some protocol.start) (some place)

variable {protocol : Protocol Op Answer Place} {place : Place}

/-- The first operation is in order, whatever it is answered. -/
theorem Follows.perform [∀ op, Nonempty (Answer op)] {op : Op}
    {resume : Answer op → Program Op Answer α}
    (follows : protocol.Follows (.perform op resume) place) (answer : Answer op) :
    ∃ reached, protocol.next place op answer = some reached ∧
      protocol.Follows (resume answer) reached := by
  classical
  -- the choice that answers this operation so, and the others in any way
  have step := follows (some place) rfl rfl
    (Function.update (fun other => Classical.choice inferInstance) op answer) answer
    (protocol.next place op answer) (by simp [contract])
  obtain ⟨inside, -, rest⟩ := step
  obtain ⟨reached, found⟩ := Option.isSome_iff_exists.mp inside
  rw [found] at rest
  exact ⟨reached, found, rest⟩

theorem Follows.done {value : α}
    (follows : protocol.Follows (.done value : Program Op Answer α) place) :
    place = protocol.start :=
  Option.some.inj follows

end Following

section Rules

variable {Op : Type} {Reply : Op → Type} {ε σ Place : Type}
  {protocol : Protocol Op (fun op => Except ε (Reply op)) Place} {place : Place}

/-- The rule for one operation: where each answer leads. -/
theorem holds_call {op : Op} {state : σ}
    {post : Contract.Post ε σ (Option Place) (Reply op)}
    (answered : ∀ answer, ∃ reached, protocol.next place op answer = some reached ∧
      post answer state (some reached)) :
    protocol.contract.holds (Computation.call op) post state (some place) := by
  have stable : protocol.contract.Stable fun reached => reached = some place :=
    fun before after here same _ => same.trans here
  apply Contract.holds_call stable rfl
  intro before here _ choice answer after acted
  cases here
  cases acted
  obtain ⟨reached, found, established⟩ := answered (choice op)
  simp only [Option.bind_some, found]
  exact ⟨rfl, trivial, established⟩

end Rules

/-! ## Many programs -/

section Systems

variable {Op : Type} {Answer : Op → Type} {World Choice Place α : Type}

/-- What a place says about the world is kept by the operations of the process itself, by
those of the others and by their end; a process that is killed is back at the start. -/
structure Kept (protocol : Protocol Op Answer Place)
    (system : System Op Answer World Choice α) (stand : ProcessId → Place → World → Prop)
    (start : World) : Prop where
  begins : ∀ process, stand process protocol.start start
  own : ∀ {process place op choice before answer after reached},
    stand process place before → system.act process op choice before = some (answer, after) →
      protocol.next place op answer = some reached → stand process reached after
  others : ∀ {process other place op choice before answer after}, other ≠ process →
    stand process place before → system.act other op choice before = some (answer, after) →
      stand process place after
  killed : ∀ process before, stand process protocol.start (system.crash process before)
  survives : ∀ {process other place before}, other ≠ process → stand process place before →
    stand process place (system.crash other before)
  programs : ∀ process, protocol.Follows (system.program process) protocol.start

/-- A process at a place. -/
structure Placed (protocol : Protocol Op Answer Place)
    (stand : ProcessId → Place → World → Prop) (state : System.State Op Answer World α)
    (process : ProcessId) (place : Place) : Prop where
  stands : stand process place state.world
  follows : ∀ program, state.processes process = some program →
    protocol.Follows program place
  gone : state.processes process = none → place = protocol.start

namespace Kept

variable {protocol : Protocol Op Answer Place} {system : System Op Answer World Choice α}
  {stand : ProcessId → Place → World → Prop} {start : World}

/-- Step lemma: every process stays at its place, or moves on as the protocol says. -/
theorem placed_step [∀ op, Nonempty (Answer op)] (kept : protocol.Kept system stand start)
    {action : System.Action Choice} {state next : System.State Op Answer World α}
    (placed : ∀ process, ∃ place, protocol.Placed stand state process place)
    (stepped : system.step action state = some next) :
    ∀ process, ∃ place, protocol.Placed stand next process place := by
  intro process
  obtain ⟨place, stands, follows, gone⟩ := placed process
  rcases system.step_cases stepped with
    ⟨actor, choice, op, resume, answer, world, rfl, found, acted, rfl⟩ |
      ⟨actor, program, rfl, found, rfl⟩
  · by_cases same : actor = process
    · subst same
      obtain ⟨reached, moved, rest⟩ := (follows _ found).perform answer
      have remains := Function.update_self actor (some (resume answer)) state.processes
      refine ⟨reached, kept.own stands acted moved, ?_, ?_⟩
      · intro program equality
        cases remains.symm.trans equality
        exact rest
      · intro dead
        cases remains.symm.trans dead
    · have remains := Function.update_of_ne (Ne.symm same) (some (resume answer))
        state.processes
      refine ⟨place, kept.others same stands acted, ?_, ?_⟩
      · intro program equality
        exact follows program (remains.symm.trans equality)
      · intro dead
        exact gone (remains.symm.trans dead)
  · by_cases same : actor = process
    · subst same
      refine ⟨protocol.start, kept.killed actor state.world, ?_, fun _ => rfl⟩
      intro program equality
      cases (Function.update_self actor none state.processes).symm.trans equality
    · have remains := Function.update_of_ne (Ne.symm same) none state.processes
      refine ⟨place, kept.survives same stands, ?_, ?_⟩
      · intro program equality
        exact follows program (remains.symm.trans equality)
      · intro dead
        exact gone (remains.symm.trans dead)

/-- Run lemma: in every reachable state each process is at some place. -/
theorem placed_reachable [∀ op, Nonempty (Answer op)]
    (kept : protocol.Kept system stand start) {state : System.State Op Answer World α}
    (reached : system.Reachable start state) (process : ProcessId) :
    ∃ place, protocol.Placed stand state process place := by
  obtain ⟨actions, ran⟩ := reached
  refine system.run_induction
    (motive := fun state => ∀ process, ∃ place, protocol.Placed stand state process place)
    (fun action state next placed stepped => kept.placed_step placed stepped) ?_ ran process
  intro process
  refine ⟨protocol.start, kept.begins process, ?_, ?_⟩
  · intro program equality
    cases equality
    exact kept.programs process
  · intro dead
    cases dead

end Kept

end Systems

end Protocol

end Interaction
