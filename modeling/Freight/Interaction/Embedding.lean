/-
Module: Freight.Interaction.Embedding
Purpose: A program verified on a world of its own stays verified as part of a
  program over a larger world, when each of its operations does.
Trusted boundary: none
Main exports:
  Contract.Implements, Contract.wp_interpret, Contract.holds_translate_call,
  Contract.Implements.holds_translate
-/
import Freight.Interaction.Contract
import Freight.Interaction.Interpretation

namespace Interaction

namespace Contract

section Programs

variable {Op Op' : Type} {Answer : Op → Type} {Answer' : Op' → Type}
  {World World' Choice Choice' α : Type}

/-- The meanings of the operations keep the large contract wherever the operations
keep the small one.  What the small contract says about the part `view` of the
world need only be true while `trusted` is; `frame` is kept in any case. -/
def Implements (small : Contract Op Answer World Choice)
    (large : Contract Op' Answer' World' Choice')
    (meaning : (op : Op) → Program Op' Answer' (Answer op)) (view : World' → World)
    (trusted frame : World' → Prop) : Prop :=
  ∀ op (post : Answer op → World → Prop) world,
    (trusted world → small.wp (.perform op .done) post (view world)) → frame world →
      large.wp (meaning op)
        (fun answer after => (trusted after → post answer (view after)) ∧ frame after) world

variable {small : Contract Op Answer World Choice}
  {large : Contract Op' Answer' World' Choice'}
  {meaning : (op : Op) → Program Op' Answer' (Answer op)} {view : World' → World}
  {trusted frame : World' → Prop}

/-- What one operation keeps a whole program keeps. -/
theorem wp_interpret (implements : small.Implements large meaning view trusted frame)
    {program : Program Op Answer α} {post : α → World → Prop} :
    ∀ {world}, (trusted world → small.wp program post (view world)) → frame world →
      large.wp (program.interpret meaning)
        (fun value after => (trusted after → post value (view after)) ∧ frame after)
        world := by
  induction program with
  | done value =>
      intro world verified framed
      exact ⟨verified, framed⟩
  | perform op resume inductionHypothesis =>
      intro world verified framed
      apply wp_bind
      refine wp_mono ?_
        (implements op (fun answer => small.wp (resume answer) post) world verified framed)
      intro answer after established
      exact inductionHypothesis answer established.1 established.2

end Programs

section Computations

variable {Op Op' : Type} {Reply : Op → Type} {Reply' : Op' → Type}
  {ε σ World World' Choice Choice' α : Type}
  {large : Contract Op' (fun op => Except ε (Reply' op)) World' Choice'}
  {meaning : (op : Op) → Computation Op' Reply' ε Unit (Reply op)}

/-- A translated operation does what it means. -/
theorem holds_translate_call {op : Op} {post : Post ε σ World' (Reply op)} {state : σ}
    {world : World'}
    (verified : large.holds (meaning op) (fun outcome _ after => post outcome state after)
      () world) :
    large.holds (Computation.translate meaning (Computation.call op)) post state world := by
  apply wp_bind
  apply wp_bind
  exact verified

variable {small : Contract Op (fun op => Except ε (Reply op)) World Choice}
  {view : World' → World} {trusted frame : World' → Prop}

/-- The rule for a computation that is verified on the small world. -/
theorem holds_translate
    (implements : small.Implements large
      (fun op => (meaning op ()).bind fun outcome => .done outcome.1) view trusted frame)
    {body : Computation Op Reply ε σ α} {post : Post ε σ World α} {state : σ}
    {world : World'} (verified : trusted world → small.holds body post state (view world))
    (framed : frame world) :
    large.holds (Computation.translate meaning body)
      (fun outcome last after => (trusted after → post outcome last (view after)) ∧ frame after)
      state world :=
  wp_interpret implements verified framed

end Computations

end Contract

end Interaction
