/-
Module: Freight.Interaction.Coupling
Purpose: Two programs that say nearly the same to environments that answer them alike.
Trusted boundary: none
Main exports:
  Program.Coupled, Program.coupled_bind, Computation.Coupled, Computation.Coupled.bind,
  Computation.Coupled.forEach
-/
import Freight.Interaction.Transcript
import Mathlib.Data.List.Forall2

namespace Interaction

/-!
The exchanges of one program are related to those of the other one by one, and so are the
results.  The relation says how far the operations may differ; that both programs get the
same answers is part of it.
-/

namespace Program

variable {Op : Type} {Answer : Op → Type} {α β α' β' : Type}

/-- Whatever one program says, the other one would say in the same place something related. -/
def Coupled (related : Exchange Op Answer → Exchange Op Answer → Prop) (post : α → β → Prop)
    (one : Program Op Answer α) (two : Program Op Answer β) : Prop :=
  ∀ transcript value, one.Converses transcript value →
    ∃ other last, two.Converses other last ∧ List.Forall₂ related transcript other ∧
      post value last

variable {related : Exchange Op Answer → Exchange Op Answer → Prop} {post : α → β → Prop}

/-- What the relation says of the one side holds of all that this program performs. -/
theorem Coupled.confined [∀ op, Nonempty (Answer op)] {one : Program Op Answer α}
    {two : Program Op Answer β} {allowed : Op → Prop} (coupled : Coupled related post one two)
    (left : ∀ exchange other, related exchange other → allowed exchange.1) :
    one.Confined allowed := by
  apply Confined.of_exchanges
  intro transcript value conversed exchange member
  obtain ⟨other, -, -, all, -⟩ := coupled transcript value conversed
  have paired : ∃ partner, related exchange partner := by
    clear coupled conversed
    induction all with
    | nil => cases member
    | cons first _ inductionHypothesis =>
        rcases List.mem_cons.mp member with rfl | later
        · exact ⟨_, first⟩
        · exact inductionHypothesis later
  obtain ⟨partner, same⟩ := paired
  exact left exchange partner same

theorem coupled_done {value : α} {last : β} (established : post value last) :
    Coupled related post (.done value : Program Op Answer α) (.done last) := by
  intro transcript result conversed
  obtain ⟨rfl, rfl⟩ := converses_done_iff.mp conversed
  exact ⟨[], last, .done last, .nil, established⟩

theorem coupled_perform {op other : Op} {resume : Answer op → Program Op Answer α}
    {partner : Answer other → Program Op Answer β}
    (answered : ∀ answer, ∃ reply, related ⟨op, answer⟩ ⟨other, reply⟩ ∧
      Coupled related post (resume answer) (partner reply)) :
    Coupled related post (.perform op resume) (.perform other partner) := by
  intro transcript value conversed
  obtain ⟨answer, rest, rfl, continued⟩ := converses_perform_iff.mp conversed
  obtain ⟨reply, same, coupled⟩ := answered answer
  obtain ⟨more, last, said, all, established⟩ := coupled rest value continued
  exact ⟨_, last, .perform reply said, .cons same all, established⟩

theorem coupled_bind {one : Program Op Answer α} {two : Program Op Answer β}
    {next : α → Program Op Answer α'} {partner : β → Program Op Answer β'}
    {last : α' → β' → Prop} (first : Coupled related post one two)
    (second : ∀ value other, post value other →
      Coupled related last (next value) (partner other)) :
    Coupled related last (one.bind next) (two.bind partner) := by
  intro transcript value conversed
  obtain ⟨front, middle, back, rfl, started, ended⟩ := converses_bind_iff.mp conversed
  obtain ⟨otherFront, otherMiddle, said, frontSame, established⟩ := first _ _ started
  obtain ⟨otherBack, otherLast, saidLast, backSame, finished⟩ :=
    second _ _ established _ _ ended
  refine ⟨otherFront ++ otherBack, otherLast, ?_, List.rel_append frontSame backSame, finished⟩
  exact converses_bind_iff.mpr ⟨otherFront, otherMiddle, otherBack, rfl, said, saidLast⟩

end Program

namespace Computation

variable {Op : Type} {Reply : Op → Type} {ε σ α β : Type}

/-- The same of computations that start in related states: they end alike, in related
states. -/
def Coupled
    (related : Exchange Op (fun op => Except ε (Reply op)) →
      Exchange Op (fun op => Except ε (Reply op)) → Prop)
    (kept : σ → σ → Prop) (one two : Computation Op Reply ε σ α) : Prop :=
  ∀ left right, kept left right →
    (one left).Coupled related (fun first second => first.1 = second.1 ∧ kept first.2 second.2)
      (two right)

namespace Coupled

variable {related : Exchange Op (fun op => Except ε (Reply op)) →
    Exchange Op (fun op => Except ε (Reply op)) → Prop} {kept : σ → σ → Prop}

theorem pure {value : α} :
    Coupled related kept (pure value : Computation Op Reply ε σ α) (pure value) :=
  fun _ _ good => Program.coupled_done ⟨rfl, good⟩

theorem raise {error : ε} :
    Coupled related kept (raise error : Computation Op Reply ε σ α) (raise error) :=
  fun _ _ good => Program.coupled_done ⟨rfl, good⟩

theorem ofExcept {result : Except ε α} :
    Coupled related kept (ofExcept result : Computation Op Reply ε σ α) (ofExcept result) :=
  fun _ _ good => Program.coupled_done ⟨rfl, good⟩

theorem modify {update change : σ → σ}
    (keeps : ∀ left right, kept left right → kept (update left) (change right)) :
    Coupled related kept (modify update : Computation Op Reply ε σ Unit) (modify change) :=
  fun left right good => Program.coupled_done ⟨rfl, keeps left right good⟩

/-- The same operation with the same answer. -/
theorem call {op : Op} (same : ∀ answer, related ⟨op, answer⟩ ⟨op, answer⟩) :
    Coupled related kept (call op : Computation Op Reply ε σ (Reply op)) (call op) := by
  intro left right good
  apply Program.coupled_perform
  intro answer
  exact ⟨answer, same answer, Program.coupled_done ⟨rfl, good⟩⟩

theorem bind {first second : Computation Op Reply ε σ α}
    {next partner : α → Computation Op Reply ε σ β} (one : Coupled related kept first second)
    (two : ∀ value, Coupled related kept (next value) (partner value)) :
    Coupled related kept (first >>= next) (second >>= partner) := by
  intro left right good
  refine Program.coupled_bind (one left right good) ?_
  rintro ⟨outcome, state⟩ ⟨result, last⟩ ⟨same, still⟩
  cases same
  cases outcome with
  | error error => exact Program.coupled_done ⟨rfl, still⟩
  | ok value => exact two value state last still

theorem read_bind {next partner : σ → Computation Op Reply ε σ β}
    (rest : ∀ left right, kept left right →
      (next left left).Coupled related
        (fun first second => first.1 = second.1 ∧ kept first.2 second.2) (partner right right)) :
    Coupled related kept (read >>= next) (read >>= partner) :=
  fun left right good => rest left right good

theorem tryExcept {body other : Computation Op Reply ε σ α}
    {handler recovery : ε → Computation Op Reply ε σ α} (one : Coupled related kept body other)
    (two : ∀ error, Coupled related kept (handler error) (recovery error)) :
    Coupled related kept (tryExcept body handler) (tryExcept other recovery) := by
  intro left right good
  refine Program.coupled_bind (one left right good) ?_
  rintro ⟨outcome, state⟩ ⟨result, last⟩ ⟨same, still⟩
  cases same
  cases outcome with
  | error error => exact two error state last still
  | ok value => exact Program.coupled_done ⟨rfl, still⟩

theorem onExit {body other : Computation Op Reply ε σ α}
    {cleanup closing : Computation Op Reply ε σ Unit} (one : Coupled related kept body other)
    (two : Coupled related kept cleanup closing) :
    Coupled related kept (onExit body cleanup) (onExit other closing) := by
  intro left right good
  refine Program.coupled_bind (one left right good) ?_
  rintro ⟨outcome, state⟩ ⟨result, last⟩ ⟨same, still⟩
  cases same
  refine Program.coupled_bind (two state last still) ?_
  rintro ⟨cleaned, after⟩ ⟨_, final⟩ ⟨same, closed⟩
  cases same
  cases cleaned with
  | error error => exact Program.coupled_done ⟨rfl, closed⟩
  | ok done => exact Program.coupled_done ⟨rfl, closed⟩

/-- Loops over lists that are related item by item. -/
theorem forEach {ι : Type} {body other : ι → Computation Op Reply ε σ Unit}
    {items others : List ι}
    (each : List.Forall₂ (fun item partner => Coupled related kept (body item) (other partner))
      items others) :
    Coupled related kept (forEach body items) (forEach other others) := by
  induction each with
  | nil => exact Coupled.pure
  | cons first _ inductionHypothesis => exact first.bind fun _ => inductionHypothesis

theorem ite {condition : Prop} [Decidable condition] {one two three four :
    Computation Op Reply ε σ α} (first : Coupled related kept one three)
    (second : Coupled related kept two four) :
    Coupled related kept (if condition then one else two)
      (if condition then three else four) := by
  by_cases holds : condition
  · rwa [if_pos holds, if_pos holds]
  · rwa [if_neg holds, if_neg holds]

end Coupled

end Computation

end Interaction
