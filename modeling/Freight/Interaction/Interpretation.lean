/-
Module: Freight.Interaction.Interpretation
Purpose: Two ways of giving a program's operations a meaning: a world that
  answers every one of them, and a program over other operations for each.
Trusted boundary: none
Main exports:
  Program.eval, Program.eval_bind, Program.interpret, Program.interpret_bind,
  Computation.eval_bind, Computation.eval_tryExcept, Computation.bind_bind,
  Computation.translate, Computation.translate_bind, Computation.translate_tryExcept
-/
import Freight.Interaction.Program

namespace Interaction.Program

variable {Op Op' : Type} {Answer : Op → Type} {Answer' : Op' → Type} {World α β : Type}

/-- Execute a program against a world that answers every operation. -/
def eval (answer : (op : Op) → World → Answer op × World) :
    Program Op Answer α → World → α × World
  | .done value, world => (value, world)
  | .perform op resume, world =>
      eval answer (resume (answer op world).1) (answer op world).2

@[simp] theorem eval_done (answer : (op : Op) → World → Answer op × World) (value : α)
    (world : World) : eval answer (.done value) world = (value, world) := rfl

@[simp] theorem eval_perform (answer : (op : Op) → World → Answer op × World) (op : Op)
    (resume : Answer op → Program Op Answer α) (world : World) :
    eval answer (.perform op resume) world =
      eval answer (resume (answer op world).1) (answer op world).2 := rfl

/-- A sequence is executed one part after the other. -/
theorem eval_bind (answer : (op : Op) → World → Answer op × World)
    (program : Program Op Answer α) (next : α → Program Op Answer β) (world : World) :
    eval answer (program.bind next) world =
      eval answer (next (eval answer program world).1) (eval answer program world).2 := by
  induction program generalizing world with
  | done value => rfl
  | perform op resume inductionHypothesis => exact inductionHypothesis _ _

/-- Replace every operation by a program over other operations. -/
def interpret (meaning : (op : Op) → Program Op' Answer' (Answer op)) :
    Program Op Answer α → Program Op' Answer' α
  | .done value => .done value
  | .perform op resume => (meaning op).bind fun answer => interpret meaning (resume answer)

theorem bind_assoc {γ : Type} (program : Program Op Answer α)
    (next : α → Program Op Answer β) (last : β → Program Op Answer γ) :
    (program.bind next).bind last = program.bind fun value => (next value).bind last := by
  induction program with
  | done value => rfl
  | perform op resume inductionHypothesis =>
      exact congrArg (Program.perform op) (funext inductionHypothesis)

theorem bind_done (program : Program Op Answer α) : program.bind .done = program := by
  induction program with
  | done value => rfl
  | perform op resume inductionHypothesis =>
      exact congrArg (Program.perform op) (funext inductionHypothesis)

/-- Interpretation distributes over sequencing. -/
theorem interpret_bind (meaning : (op : Op) → Program Op' Answer' (Answer op))
    (program : Program Op Answer α) (next : α → Program Op Answer β) :
    interpret meaning (program.bind next) =
      (interpret meaning program).bind fun value => interpret meaning (next value) := by
  induction program with
  | done value => rfl
  | perform op resume inductionHypothesis =>
      simp only [perform_bind, interpret, bind_assoc, inductionHypothesis]

end Interaction.Program

/-! ## Computations with exceptions and private state -/

namespace Interaction.Computation

variable {Op : Type} {Reply : Op → Type} {ε σ World α β : Type}
  (answer : (op : Op) → World → Except ε (Reply op) × World)

@[simp] theorem eval_pure (value : α) (state : σ) (world : World) :
    ((pure value : Computation Op Reply ε σ α) state).eval answer world =
      ((.ok value, state), world) := rfl

@[simp] theorem eval_ofExcept (result : Except ε α) (state : σ) (world : World) :
    ((ofExcept result : Computation Op Reply ε σ α) state).eval answer world =
      ((result, state), world) := rfl

@[simp] theorem eval_call (op : Op) (state : σ) (world : World) :
    ((call op : Computation Op Reply ε σ (Reply op)) state).eval answer world =
      (((answer op world).1, state), (answer op world).2) := rfl

/-- A sequence goes on where its first part has returned. -/
theorem eval_bind (first : Computation Op Reply ε σ α)
    (next : α → Computation Op Reply ε σ β) (state : σ) (world : World) :
    ((first >>= next) state).eval answer world =
      match (first state).eval answer world with
      | ((.ok value, state), world) => (next value state).eval answer world
      | ((.error error, state), world) => ((.error error, state), world) := by
  refine (Program.eval_bind answer (first state) _ world).trans ?_
  rcases (first state).eval answer world with ⟨⟨outcome | outcome, after⟩, reached⟩ <;> rfl

theorem eval_tryExcept (body : Computation Op Reply ε σ α)
    (handler : ε → Computation Op Reply ε σ α) (state : σ) (world : World) :
    ((tryExcept body handler) state).eval answer world =
      match (body state).eval answer world with
      | ((.ok value, state), world) => ((.ok value, state), world)
      | ((.error error, state), world) => (handler error state).eval answer world := by
  refine (Program.eval_bind answer (body state) _ world).trans ?_
  rcases (body state).eval answer world with ⟨⟨outcome | outcome, after⟩, reached⟩ <;> rfl

/-! ## Laws -/

section Laws

variable {γ : Type}

theorem bind_bind (first : Computation Op Reply ε σ α) (next : α → Computation Op Reply ε σ β)
    (last : β → Computation Op Reply ε σ γ) :
    first >>= next >>= last = first >>= fun value => next value >>= last := by
  funext state
  refine (Program.bind_assoc (first state) _ _).trans ?_
  refine congrArg (Program.bind _) (funext ?_)
  intro outcome
  rcases outcome with ⟨error | value, after⟩ <;> rfl

theorem bind_return (body : Computation Op Reply ε σ α) :
    (body >>= fun value => pure value) = body := by
  funext state
  refine Eq.trans ?_ (Program.bind_done (body state))
  refine congrArg (Program.bind _) (funext ?_)
  intro outcome
  rcases outcome with ⟨error | value, after⟩ <;> rfl

/-- A handler that only raises again. -/
theorem tryExcept_raise (body : Computation Op Reply ε σ α) :
    tryExcept body (fun error => raise error) = body := by
  funext state
  refine Eq.trans ?_ (Program.bind_done (body state))
  refine congrArg (Program.bind _) (funext ?_)
  intro outcome
  rcases outcome with ⟨error | value, after⟩ <;> rfl

/-- A cleanup that has nothing to do. -/
theorem onExit_pure (body : Computation Op Reply ε σ α) : onExit body (pure ()) = body := by
  funext state
  exact Program.bind_done (body state)

end Laws

/-! ## Translation -/

variable {Op' : Type} {Reply' : Op' → Type}
  (meaning : (op : Op) → Computation Op' Reply' ε Unit (Reply op))

/-- The same computation with every operation replaced by a computation over other
operations. -/
def translate (body : Computation Op Reply ε σ α) : Computation Op' Reply' ε σ α :=
  fun state => (body state).interpret fun op =>
    (meaning op ()).bind fun outcome => .done outcome.1

@[simp] theorem translate_pure (value : α) :
    translate meaning (pure value : Computation Op Reply ε σ α) = pure value := rfl

@[simp] theorem translate_ofExcept (result : Except ε α) :
    translate meaning (ofExcept result : Computation Op Reply ε σ α) = ofExcept result := rfl

/-- Translation distributes over sequencing. -/
theorem translate_bind (first : Computation Op Reply ε σ α)
    (next : α → Computation Op Reply ε σ β) :
    translate meaning (first >>= next) =
      translate meaning first >>= fun value => translate meaning (next value) := by
  funext state
  refine (Program.interpret_bind _ (first state) _).trans ?_
  refine congrArg (Program.bind _) (funext ?_)
  rintro ⟨outcome | outcome, after⟩ <;> rfl

theorem translate_onExit (body : Computation Op Reply ε σ α)
    (cleanup : Computation Op Reply ε σ Unit) :
    translate meaning (onExit body cleanup) =
      onExit (translate meaning body) (translate meaning cleanup) := by
  funext state
  refine (Program.interpret_bind _ (body state) _).trans ?_
  refine congrArg (Program.bind _) (funext ?_)
  intro outcome
  refine (Program.interpret_bind _ (cleanup outcome.2) _).trans ?_
  refine congrArg (Program.bind _) (funext ?_)
  rintro ⟨cleaned | cleaned, after⟩ <;> rfl

theorem translate_tryExcept (body : Computation Op Reply ε σ α)
    (handler : ε → Computation Op Reply ε σ α) :
    translate meaning (tryExcept body handler) =
      tryExcept (translate meaning body) fun error => translate meaning (handler error) := by
  funext state
  refine (Program.interpret_bind _ (body state) _).trans ?_
  refine congrArg (Program.bind _) (funext ?_)
  rintro ⟨outcome | outcome, after⟩ <;> rfl

/-- One operation is what it means. -/
theorem translate_call (op : Op) :
    translate meaning (call op : Computation Op Reply ε Unit (Reply op)) = meaning op := by
  funext state
  refine (Program.bind_assoc (meaning op ()) _ _).trans ?_
  exact Program.bind_done (meaning op state)

end Interaction.Computation
