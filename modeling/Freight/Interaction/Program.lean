/-
Module: Freight.Interaction.Program
Purpose: Programs that interact with their environment one operation at a
  time, with exceptions and private state layered on top.
Trusted boundary: none
Main exports:
  Program, Program.bind, Program.run, Computation, Computation.tryExcept,
  Computation.onExit, Computation.forEach
-/
import Mathlib.Data.List.Basic

namespace Interaction

/-!
A program is the tree of the operations it may ask its environment to perform.
Each node names one operation and continues with the answer.  Nothing is said
here about what an operation does: the same program is executed alone, killed
between two operations, or interleaved with others, depending on who answers.
-/

/-- A terminating program over operations `Op`, each with its own answer type. -/
inductive Program (Op : Type) (Answer : Op → Type) (α : Type) : Type where
  | done (value : α)
  | perform (op : Op) (resume : Answer op → Program Op Answer α)

namespace Program

variable {Op : Type} {Answer : Op → Type} {α β γ : Type}

/-- Sequential composition. -/
def bind : Program Op Answer α → (α → Program Op Answer β) → Program Op Answer β
  | .done value, next => next value
  | .perform op resume, next => .perform op fun answer => (resume answer).bind next

@[simp] theorem done_bind (value : α) (next : α → Program Op Answer β) :
    (Program.done value).bind next = next value := rfl

@[simp] theorem perform_bind (op : Op) (resume : Answer op → Program Op Answer α)
    (next : α → Program Op Answer β) :
    (Program.perform op resume).bind next =
      .perform op fun answer => (resume answer).bind next := rfl

/-- One way of answering operations: a choice resolves whatever the environment
leaves open, and `none` says that this choice is not possible in this world. -/
abbrev Interpreter (Op : Type) (Answer : Op → Type) (World Choice : Type) : Type :=
  (op : Op) → Choice → World → Option (Answer op × World)

variable {World Choice : Type}

/-- Execute a program alone, to its end, consuming one choice for each
operation.  `none` means that some choice was impossible or that the number of
choices does not fit. -/
def run (act : Interpreter Op Answer World Choice) :
    List Choice → Program Op Answer α → World → Option (α × World)
  | [], .done value, world => some (value, world)
  | choice :: choices, .perform op resume, world =>
      match act op choice world with
      | some (answer, world') => run act choices (resume answer) world'
      | none => none
  | _, _, _ => none

@[simp] theorem run_done (act : Interpreter Op Answer World Choice) (value : α)
    (world : World) : run act [] (.done value) world = some (value, world) := rfl

end Program

/-- A program that may raise an exception of type `ε` and carries private state
of type `σ`.  Each operation answers or raises; the state survives a raised
exception. -/
def Computation (Op : Type) (Reply : Op → Type) (ε σ α : Type) : Type :=
  σ → Program Op (fun op => Except ε (Reply op)) (Except ε α × σ)

namespace Computation

variable {Op : Type} {Reply : Op → Type} {ε σ α β : Type}

/-- Return without touching the environment. -/
protected def pure (value : α) : Computation Op Reply ε σ α :=
  fun state => .done (.ok value, state)

/-- Raise an exception. -/
def raise (error : ε) : Computation Op Reply ε σ α :=
  fun state => .done (.error error, state)

/-- Sequencing; an exception skips what follows. -/
protected def bind (first : Computation Op Reply ε σ α)
    (next : α → Computation Op Reply ε σ β) : Computation Op Reply ε σ β :=
  fun state => (first state).bind fun outcome =>
    match outcome.1 with
    | .ok value => next value outcome.2
    | .error error => .done (.error error, outcome.2)

instance : Monad (Computation Op Reply ε σ) where
  pure := Computation.pure
  bind := Computation.bind

/-- Ask the environment to perform one operation. -/
def call (op : Op) : Computation Op Reply ε σ (Reply op) :=
  fun state => .perform op fun answer => .done (answer, state)

/-- A result computed without the environment. -/
def ofExcept (result : Except ε α) : Computation Op Reply ε σ α :=
  fun state => .done (result, state)

/-- Read the private state. -/
def read : Computation Op Reply ε σ σ := fun state => .done (.ok state, state)

/-- Update the private state. -/
def modify (update : σ → σ) : Computation Op Reply ε σ Unit :=
  fun state => .done (.ok (), update state)

/-- `try … except`: the handler sees every exception and re-raises those it
does not want. -/
def tryExcept (body : Computation Op Reply ε σ α)
    (handler : ε → Computation Op Reply ε σ α) : Computation Op Reply ε σ α :=
  fun state => (body state).bind fun outcome =>
    match outcome.1 with
    | .ok value => .done (.ok value, outcome.2)
    | .error error => handler error outcome.2

/-- `try … finally`: the cleanup runs on both exits, and an exception of its own
replaces the outcome of the body. -/
def onExit (body : Computation Op Reply ε σ α)
    (cleanup : Computation Op Reply ε σ Unit) : Computation Op Reply ε σ α :=
  fun state => (body state).bind fun outcome =>
    (cleanup outcome.2).bind fun cleaned =>
      match cleaned.1 with
      | .ok _ => .done (outcome.1, cleaned.2)
      | .error error => .done (.error error, cleaned.2)

/-- A `for` loop over a list fixed at loop entry. -/
def forEach {ι : Type} (body : ι → Computation Op Reply ε σ Unit) :
    List ι → Computation Op Reply ε σ Unit
  | [] => pure ()
  | item :: items => do
      body item
      forEach body items

/-- The same computation, started from a state of its own that is discarded at
the end. -/
def withState {τ : Type} (initial : τ) (body : Computation Op Reply ε τ α) :
    Computation Op Reply ε σ α :=
  fun state => (body initial).bind fun outcome => .done (outcome.1, state)

end Computation

end Interaction
