/-
Module: Freight.Interaction.Contract
Purpose: Weakest preconditions for interaction programs that run among others:
  one invariant of the shared world, and for each program what it may assume of
  the others and what it owes them.
Trusted boundary: none
Main exports:
  Contract, Contract.wp, Contract.wp_bind, Contract.wp_perform,
  Contract.wp_run, Contract.holds, Contract.holds_bind,
  Contract.holds_tryExcept, Contract.holds_onExit, Contract.holds_forEach_cons
-/
import Freight.Interaction.Program

namespace Interaction

/-- What a program is verified against.  `rely` is what the others may do to the
world between two operations of this program; `guarantee` is what each of its
own operations owes them. -/
structure Contract (Op : Type) (Answer : Op → Type) (World Choice : Type) where
  act : Program.Interpreter Op Answer World Choice
  invariant : World → Prop
  rely : World → World → Prop
  guarantee : World → World → Prop

namespace Contract

variable {Op : Type} {Answer : Op → Type} {World Choice α β : Type}
variable (contract : Contract Op Answer World Choice)

/-- An assertion that interference cannot falsify. -/
def Stable (assertion : World → Prop) : Prop :=
  ∀ before after, assertion before → contract.rely before after →
    contract.invariant after → assertion after

theorem Stable.and {first second : World → Prop}
    (one : contract.Stable first) (two : contract.Stable second) :
    contract.Stable fun world => first world ∧ second world :=
  fun before after holds moved kept =>
    ⟨one before after holds.1 moved kept, two before after holds.2 moved kept⟩

/-- Weakest precondition.  Before each operation the others may have moved the
world along `rely`; the operation itself must restore the invariant, honour the
guarantee and establish what the rest of the program needs. -/
def wp : Program Op Answer α → (α → World → Prop) → World → Prop
  | .done value, post, world => post value world
  | .perform op resume, post, world =>
      ∀ moved, contract.rely world moved → contract.invariant moved →
        ∀ choice answer after,
          contract.act op choice moved = some (answer, after) →
            contract.invariant after ∧ contract.guarantee moved after ∧
              wp (resume answer) post after

variable {contract}

theorem wp_mono {program : Program Op Answer α} {post weaker : α → World → Prop}
    (implies : ∀ value world, post value world → weaker value world) :
    ∀ {world}, contract.wp program post world → contract.wp program weaker world := by
  induction program with
  | done value => exact fun holds => implies value _ holds
  | perform op resume inductionHypothesis =>
      intro world holds moved step kept choice answer after acted
      obtain ⟨invariant, guarantee, rest⟩ := holds moved step kept choice answer after acted
      exact ⟨invariant, guarantee, inductionHypothesis answer rest⟩

/-- A sequence is verified by verifying its first part against what the second
part needs. -/
theorem wp_bind {program : Program Op Answer α} {next : α → Program Op Answer β}
    {post : β → World → Prop} :
    ∀ {world}, contract.wp program (fun value => contract.wp (next value) post) world →
      contract.wp (program.bind next) post world := by
  induction program with
  | done value => exact fun holds => holds
  | perform op resume inductionHypothesis =>
      intro world holds moved step kept choice answer after acted
      obtain ⟨invariant, guarantee, rest⟩ := holds moved step kept choice answer after acted
      exact ⟨invariant, guarantee, inductionHypothesis answer rest⟩

/-- The rule for one operation, from a stable assertion. -/
theorem wp_perform {op : Op} {resume : Answer op → Program Op Answer α}
    {post : α → World → Prop} {assertion : World → Prop} {world : World}
    (stable : contract.Stable assertion) (holds : assertion world)
    (step : ∀ before, assertion before → contract.invariant before →
      ∀ choice answer after, contract.act op choice before = some (answer, after) →
        contract.invariant after ∧ contract.guarantee before after ∧
          contract.wp (resume answer) post after) :
    contract.wp (.perform op resume) post world := by
  intro moved rely kept
  exact step moved (stable world moved holds rely kept) kept

/-- A program verified at some world stays verified while the others move it. -/
theorem wp_stable (trans : ∀ {first second third},
      contract.rely first second → contract.rely second third → contract.rely first third)
    {program : Program Op Answer α} {post : α → World → Prop}
    (stable : ∀ value, contract.Stable (post value)) :
    contract.Stable (contract.wp program post) := by
  intro before after holds moved kept
  cases program with
  | done value => exact stable value before after holds moved kept
  | perform op resume =>
      intro later step invariant
      exact holds later (trans moved step) invariant

/-- Running a verified program alone ends in its postcondition, and all of the
run together honours the guarantee. -/
theorem wp_run (refl : ∀ world, contract.rely world world)
    (idle : ∀ world, contract.guarantee world world)
    (trans : ∀ first second third, contract.guarantee first second →
      contract.guarantee second third → contract.guarantee first third)
    {program : Program Op Answer α} {post : α → World → Prop} :
    ∀ {choices : List Choice} {world after : World} {value : α},
      contract.wp program post world → contract.invariant world →
      program.run contract.act choices world = some (value, after) →
      post value after ∧ contract.invariant after ∧ contract.guarantee world after := by
  induction program with
  | done result =>
      intro choices world after value holds kept ran
      cases choices with
      | nil =>
          cases ran
          exact ⟨holds, kept, idle world⟩
      | cons choice choices => cases ran
  | perform op resume inductionHypothesis =>
      intro choices world after value holds kept ran
      cases choices with
      | nil => cases ran
      | cons choice choices =>
          simp only [Program.run] at ran
          split at ran
          · rename_i answer next acted
            obtain ⟨invariant, guarantee, rest⟩ :=
              holds world (refl world) kept choice answer next acted
            obtain ⟨established, keptAfter, guaranteed⟩ :=
              inductionHypothesis answer rest invariant ran
            exact ⟨established, keptAfter, trans _ _ _ guarantee guaranteed⟩
          · cases ran

end Contract

/-! ## Computations with exceptions and private state -/

namespace Contract

variable {Op : Type} {Reply : Op → Type} {ε σ τ World Choice α β : Type}
variable (contract : Contract Op (fun op => Except ε (Reply op)) World Choice)

/-- A postcondition sees the outcome, returned or raised, and the final private
state. -/
abbrev Post (ε σ World α : Type) : Type := Except ε α → σ → World → Prop

/-- A postcondition from its two cases. -/
def Post.on (returned : α → σ → World → Prop) (raised : ε → σ → World → Prop) :
    Post ε σ World α
  | .ok value => returned value
  | .error error => raised error

/-- The weakest precondition of a computation started in a private state. -/
def holds (body : Computation Op Reply ε σ α) (post : Post ε σ World α)
    (state : σ) (world : World) : Prop :=
  contract.wp (body state) (fun outcome => post outcome.1 outcome.2) world

variable {contract} {post : Post ε σ World α} {state : σ} {world : World}

theorem holds_mono {body : Computation Op Reply ε σ α} {weaker : Post ε σ World α}
    (verified : contract.holds body post state world)
    (implies : ∀ outcome after reached,
      post outcome after reached → weaker outcome after reached) :
    contract.holds body weaker state world := by
  unfold holds at verified ⊢
  refine wp_mono ?_ verified
  intro outcome reached established
  exact implies outcome.1 outcome.2 reached established

theorem holds_pure {value : α} (established : post (.ok value) state world) :
    contract.holds (pure value) post state world := established

theorem holds_raise {error : ε} (established : post (.error error) state world) :
    contract.holds (Computation.raise error) post state world := established

theorem holds_ofExcept {result : Except ε α} (established : post result state world) :
    contract.holds (Computation.ofExcept result) post state world := established

theorem holds_read {post : Post ε σ World σ}
    (established : post (.ok state) state world) :
    contract.holds Computation.read post state world := established

theorem holds_modify {update : σ → σ} {post : Post ε σ World Unit}
    (established : post (.ok ()) (update state) world) :
    contract.holds (Computation.modify update) post state world := established

theorem holds_bind {first : Computation Op Reply ε σ α}
    {next : α → Computation Op Reply ε σ β} {post : Post ε σ World β}
    (verified : contract.holds first
      (Post.on (fun value => contract.holds (next value) post)
        (fun error => post (.error error))) state world) :
    contract.holds (first >>= next) post state world := by
  apply wp_bind
  refine wp_mono ?_ verified
  rintro ⟨outcome | outcome, after⟩ reached established
  · exact established
  · exact established

theorem holds_call {op : Op} {post : Post ε σ World (Reply op)}
    {assertion : World → Prop} (stable : contract.Stable assertion)
    (established : assertion world)
    (step : ∀ before, assertion before → contract.invariant before →
      ∀ choice answer after, contract.act op choice before = some (answer, after) →
        contract.invariant after ∧ contract.guarantee before after ∧
          post answer state after) :
    contract.holds (Computation.call op) post state world :=
  wp_perform stable established step

theorem holds_tryExcept {body : Computation Op Reply ε σ α}
    {handler : ε → Computation Op Reply ε σ α}
    (verified : contract.holds body
      (Post.on (fun value => post (.ok value))
        (fun error => contract.holds (handler error) post)) state world) :
    contract.holds (Computation.tryExcept body handler) post state world := by
  apply wp_bind
  refine wp_mono ?_ verified
  rintro ⟨outcome | outcome, after⟩ reached established
  · exact established
  · exact established

theorem holds_onExit {body : Computation Op Reply ε σ α}
    {cleanup : Computation Op Reply ε σ Unit}
    (verified : contract.holds body (fun outcome =>
      contract.holds cleanup
        (Post.on (fun _ => post outcome) (fun error => post (.error error))))
      state world) :
    contract.holds (Computation.onExit body cleanup) post state world := by
  apply wp_bind
  refine wp_mono ?_ verified
  intro outcome reached established
  apply wp_bind
  refine wp_mono ?_ established
  rintro ⟨cleaned | cleaned, final⟩ last ended
  · exact ended
  · exact ended

theorem holds_forEach_nil {ι : Type} {body : ι → Computation Op Reply ε σ Unit}
    {post : Post ε σ World Unit} (established : post (.ok ()) state world) :
    contract.holds (Computation.forEach body []) post state world := established

/-- The first turn of a loop, and the rest of it. -/
theorem holds_forEach_cons {ι : Type} {body : ι → Computation Op Reply ε σ Unit}
    {item : ι} {items : List ι} {post : Post ε σ World Unit}
    (verified : contract.holds (body item)
      (Post.on (fun _ => contract.holds (Computation.forEach body items) post)
        (fun error => post (.error error))) state world) :
    contract.holds (Computation.forEach body (item :: items)) post state world :=
  holds_bind verified

theorem holds_withState {initial : τ} {body : Computation Op Reply ε τ α}
    (verified : contract.holds body (fun outcome _ reached => post outcome state reached)
      initial world) :
    contract.holds (Computation.withState initial body) post state world := by
  apply wp_bind
  exact verified

end Contract

end Interaction
