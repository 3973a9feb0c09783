/-
Module: Freight.Interaction.Solo
Purpose: Total correctness of a program that nobody interferes with: it never gets
  stuck, and it ends in its postcondition however the environment resolves what an
  operation leaves open.
Trusted boundary: none
Main exports:
  Contract.alone, Contract.alone_wp_iff, Program.ends, Program.ends_bind,
  Program.ends.exists_run, Program.ends.of_run, Program.ends_relabel, Program.Answered,
  Program.ends_answered_iff,
  Computation.ends, Computation.ends_bind, Computation.ends_tryExcept, Computation.ends_onExit,
  Computation.ends.holds
-/
import Freight.Interaction.Contract
import Freight.Interaction.Interpretation
import Freight.Interaction.Recording

namespace Interaction

/-! ## Every run -/

namespace Contract

variable {Op : Type} {Answer : Op → Type} {World Choice α : Type}

/-- Nobody else moves the world. -/
def alone (act : Program.Interpreter Op Answer World Choice) :
    Contract Op Answer World Choice where
  act := act
  invariant := fun _ => True
  rely := Eq
  guarantee := fun _ _ => True

/-- What is verified of code that is alone holds at the end of every run. -/
theorem alone_wp_iff {act : Program.Interpreter Op Answer World Choice}
    {program : Program Op Answer α} {post : α → World → Prop} :
    ∀ {world : World}, (alone act).wp program post world ↔
      ∀ choices value after, program.run act choices world = some (value, after) →
        post value after := by
  induction program with
  | done value =>
      intro world
      constructor
      · intro holds choices result after ran
        cases choices with
        | nil =>
            cases ran
            exact holds
        | cons choice choices => cases ran
      · exact fun runs => runs [] value world rfl
  | perform op resume inductionHypothesis =>
      intro world
      constructor
      · intro holds choices result after ran
        cases choices with
        | nil => cases ran
        | cons choice choices =>
            simp only [Program.run] at ran
            split at ran
            · rename_i answer next acted
              obtain ⟨-, -, rest⟩ := holds world rfl trivial choice answer next acted
              exact (inductionHypothesis answer).mp rest choices result after ran
            · cases ran
      · intro runs moved same _ choice answer next acted
        cases same
        refine ⟨trivial, trivial, (inductionHypothesis answer).mpr ?_⟩
        intro choices result after ran
        refine runs (choice :: choices) result after ?_
        simp only [Program.run, alone] at acted ⊢
        rw [acted]
        exact ran

end Contract

namespace Program

variable {Op : Type} {Answer : Op → Type} {World Choice α β : Type}
variable (act : Interpreter Op Answer World Choice)

/-- Every operation can be performed, and whatever the choices, the program ends in
its postcondition. -/
def ends : Program Op Answer α → (α → World → Prop) → World → Prop
  | .done value, post, world => post value world
  | .perform op resume, post, world =>
      (∃ choice answer after, act op choice world = some (answer, after)) ∧
        ∀ choice answer after, act op choice world = some (answer, after) →
          ends (resume answer) post after

variable {act}

theorem ends_mono {program : Program Op Answer α} {post weaker : α → World → Prop}
    (implies : ∀ value world, post value world → weaker value world) :
    ∀ {world}, ends act program post world → ends act program weaker world := by
  induction program with
  | done value => exact fun established => implies value _ established
  | perform op resume inductionHypothesis =>
      intro world verified
      exact ⟨verified.1, fun choice answer after acted =>
        inductionHypothesis answer (verified.2 choice answer after acted)⟩

/-- A sequence ends where its second part does, from wherever the first one ends. -/
theorem ends_bind {program : Program Op Answer α} {next : α → Program Op Answer β}
    {post : β → World → Prop} :
    ∀ {world}, ends act program (fun value => ends act (next value) post) world →
      ends act (program.bind next) post world := by
  induction program with
  | done value => exact fun established => established
  | perform op resume inductionHypothesis =>
      intro world verified
      exact ⟨verified.1, fun choice answer after acted =>
        inductionHypothesis answer (verified.2 choice answer after acted)⟩

/-- There is a run to the end. -/
theorem ends.exists_run {program : Program Op Answer α} {post : α → World → Prop} :
    ∀ {world}, ends act program post world →
      ∃ choices value after, program.run act choices world = some (value, after) := by
  induction program with
  | done value => exact fun {world} _ => ⟨[], value, world, rfl⟩
  | perform op resume inductionHypothesis =>
      intro world verified
      obtain ⟨⟨choice, answer, after, acted⟩, rest⟩ := verified
      obtain ⟨choices, value, final, ran⟩ :=
        inductionHypothesis answer (rest choice answer after acted)
      refine ⟨choice :: choices, value, final, ?_⟩
      rw [run, acted]
      exact ran

/-- Every run to the end is in the postcondition. -/
theorem ends.of_run {program : Program Op Answer α} {post : α → World → Prop} :
    ∀ {choices : List Choice} {world after : World} {value : α},
      ends act program post world → program.run act choices world = some (value, after) →
        post value after := by
  induction program with
  | done result =>
      intro choices world after value established ran
      cases choices with
      | nil =>
          cases ran
          exact established
      | cons choice choices => cases ran
  | perform op resume inductionHypothesis =>
      intro choices world after value verified ran
      cases choices with
      | nil => cases ran
      | cons choice choices =>
          simp only [run] at ran
          split at ran
          · rename_i answer next acted
            exact inductionHypothesis answer (verified.2 choice answer next acted) ran
          · cases ran

/-- What every run to the end is in may be added to the postcondition. -/
theorem ends.and_of_run {program : Program Op Answer α} {post extra : α → World → Prop} :
    ∀ {world : World}, ends act program post world →
      (∀ choices value after, program.run act choices world = some (value, after) →
        extra value after) →
      ends act program (fun value after => post value after ∧ extra value after) world := by
  induction program with
  | done value => exact fun established ran => ⟨established, ran [] value _ rfl⟩
  | perform op resume inductionHypothesis =>
      intro world verified ran
      refine ⟨verified.1, fun choice answer after acted => ?_⟩
      refine inductionHypothesis answer (verified.2 choice answer after acted) ?_
      intro choices value final rest
      refine ran (choice :: choices) value final ?_
      rw [run, acted]
      exact rest

/-- A program with more detailed operations. -/
theorem ends_relabel {Op' : Type} {erase : Op' → Op}
    {program : Program Op' (fun op => Answer (erase op)) α} {post : α → World → Prop} :
    ∀ {world : World}, ends act (program.relabel erase) post world ↔
      ends (fun op => act (erase op)) program post world := by
  induction program with
  | done value => exact Iff.rfl
  | perform op resume inductionHypothesis =>
      intro world
      simp only [relabel, ends, inductionHypothesis]

/-- A world that answers every operation leaves nothing open. -/
def Answered (answer : (op : Op) → World → Answer op × World) :
    Interpreter Op Answer World Unit :=
  fun op _ world => some (answer op world)

/-- Against such a world a program ends in what evaluation gives. -/
theorem ends_answered_iff {answer : (op : Op) → World → Answer op × World}
    {program : Program Op Answer α} {post : α → World → Prop} :
    ∀ {world : World}, ends (Answered answer) program post world ↔
      post (program.eval answer world).1 (program.eval answer world).2 := by
  induction program with
  | done value => exact Iff.rfl
  | perform op resume inductionHypothesis =>
      intro world
      refine Iff.trans ?_ (inductionHypothesis _)
      constructor
      · exact fun verified => verified.2 () _ _ rfl
      · intro evaluated
        refine ⟨⟨(), _, _, rfl⟩, ?_⟩
        intro choice result after acted
        have answered := Option.some.inj acted
        rw [answered] at evaluated
        exact evaluated

end Program

/-! ## Computations with exceptions and private state -/

namespace Computation

variable {Op : Type} {Reply : Op → Type} {ε σ World Choice α β : Type}
variable (act : Program.Interpreter Op (fun op => Except ε (Reply op)) World Choice)

/-- Total correctness of a computation started in a private state. -/
def ends (body : Computation Op Reply ε σ α) (post : Contract.Post ε σ World α)
    (state : σ) (world : World) : Prop :=
  (body state).ends act (fun outcome => post outcome.1 outcome.2) world

variable {act} {post : Contract.Post ε σ World α} {state : σ} {world : World}

theorem ends_mono {body : Computation Op Reply ε σ α} {weaker : Contract.Post ε σ World α}
    (verified : body.ends act post state world)
    (implies : ∀ outcome last reached, post outcome last reached →
      weaker outcome last reached) : body.ends act weaker state world :=
  Program.ends_mono (fun outcome reached established =>
    implies outcome.1 outcome.2 reached established) verified

theorem ends_pure {value : α} (established : post (.ok value) state world) :
    (pure value : Computation Op Reply ε σ α).ends act post state world := established

theorem ends_raise {error : ε} (established : post (.error error) state world) :
    (raise error : Computation Op Reply ε σ α).ends act post state world := established

theorem ends_ofExcept {result : Except ε α} (established : post result state world) :
    (ofExcept result : Computation Op Reply ε σ α).ends act post state world := established

theorem ends_read {post : Contract.Post ε σ World σ}
    (established : post (.ok state) state world) :
    (read : Computation Op Reply ε σ σ).ends act post state world := established

theorem ends_modify {update : σ → σ} {post : Contract.Post ε σ World Unit}
    (established : post (.ok ()) (update state) world) :
    (modify update : Computation Op Reply ε σ Unit).ends act post state world := established

theorem ends_bind {first : Computation Op Reply ε σ α}
    {next : α → Computation Op Reply ε σ β} {post : Contract.Post ε σ World β}
    (verified : first.ends act
      (Contract.Post.on (fun value => (next value).ends act post)
        (fun error => post (.error error))) state world) :
    (first >>= next).ends act post state world := by
  apply Program.ends_bind
  refine Program.ends_mono ?_ verified
  intro outcome reached established
  rcases outcome with ⟨outcome | outcome, last⟩
  · exact established
  · exact established

theorem ends_call {op : Op} {post : Contract.Post ε σ World (Reply op)}
    (possible : ∃ choice answer after, act op choice world = some (answer, after))
    (established : ∀ choice answer after, act op choice world = some (answer, after) →
      post answer state after) : (call op).ends act post state world :=
  ⟨possible, established⟩

/-- The rule for one operation of a world that answers. -/
theorem ends_call_answered {answer : (op : Op) → World → Except ε (Reply op) × World}
    {op : Op} {post : Contract.Post ε σ World (Reply op)}
    (established : post (answer op world).1 state (answer op world).2) :
    (call op).ends (Program.Answered answer) post state world := by
  refine ends_call ⟨(), _, _, rfl⟩ ?_
  intro choice result after acted
  have answered := Option.some.inj acted
  rw [answered] at established
  exact established

theorem ends_tryExcept {body : Computation Op Reply ε σ α}
    {handler : ε → Computation Op Reply ε σ α}
    (verified : body.ends act
      (Contract.Post.on (fun value => post (.ok value))
        (fun error => (handler error).ends act post)) state world) :
    (tryExcept body handler).ends act post state world := by
  apply Program.ends_bind
  refine Program.ends_mono ?_ verified
  intro outcome reached established
  rcases outcome with ⟨outcome | outcome, last⟩
  · exact established
  · exact established

theorem ends_onExit {body : Computation Op Reply ε σ α}
    {cleanup : Computation Op Reply ε σ Unit}
    (verified : body.ends act (fun outcome =>
      cleanup.ends act
        (Contract.Post.on (fun _ => post outcome) (fun error => post (.error error))))
      state world) :
    (onExit body cleanup).ends act post state world := by
  apply Program.ends_bind
  refine Program.ends_mono ?_ verified
  intro outcome reached established
  apply Program.ends_bind
  refine Program.ends_mono ?_ established
  intro cleaned final ended
  rcases cleaned with ⟨cleaned | cleaned, last⟩
  · exact ended
  · exact ended

theorem ends_withState {τ : Type} {initial : τ} {body : Computation Op Reply ε τ α}
    (verified : body.ends act (fun outcome _ reached => post outcome state reached) initial
      world) :
    (withState initial body : Computation Op Reply ε σ α).ends act post state world :=
  Program.ends_bind verified

/-- What ends in its postcondition is verified when it is alone. -/
theorem ends.holds {body : Computation Op Reply ε σ α} (verified : body.ends act post state world) :
    (Contract.alone act).holds body post state world := by
  unfold ends at verified
  refine Contract.alone_wp_iff.mpr ?_
  intro choices outcome after ran
  exact verified.of_run ran

/-- A computation with more detailed operations, where the detail makes no difference to the
environment. -/
theorem ends_relabel {Op' : Type} {erase : Op' → Op}
    {body : Computation Op' (fun op => Reply (erase op)) ε σ α} :
    (relabel erase body).ends act post state world ↔
      body.ends (fun op => act (erase op)) post state world :=
  Program.ends_relabel

theorem ends_forEach_nil {ι : Type} {body : ι → Computation Op Reply ε σ Unit}
    {post : Contract.Post ε σ World Unit} (established : post (.ok ()) state world) :
    (forEach body []).ends act post state world := established

theorem ends_forEach_cons {ι : Type} {body : ι → Computation Op Reply ε σ Unit}
    {item : ι} {items : List ι} {post : Contract.Post ε σ World Unit}
    (verified : (body item).ends act
      (Contract.Post.on (fun _ => (forEach body items).ends act post)
        (fun error => post (.error error))) state world) :
    (forEach body (item :: items)).ends act post state world :=
  ends_bind verified

end Computation

end Interaction
