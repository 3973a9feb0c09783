/-
Module: Freight.Interaction.Refinement
Purpose: Two implementations of one interface: code against an interface, carried out by the
  one or the other, and when the one refines the other.
Trusted boundary: none
Main exports:
  Program.Service, Program.Served, Program.Refines, Computation.Refines,
  Computation.Refines.call_bind, Computation.attemptEach, Computation.Refines.attemptEach,
  Computation.implement, Computation.recorded, Computation.served_of_run,
  Computation.service_of_holds
-/
import Freight.Interaction.Solo
import Freight.Interaction.Transcript
import Mathlib.Data.List.Forall2

namespace Interaction

/-!
A service says how an operation of the interface may be carried out: from which state, with
which answer, to which state.  Code refines code, served by one service and another, when to
whatever the one may say and come to, the other may say and come to something alike.
-/

namespace Program

variable {Op : Type} {Answer : Op → Type} {State Other α β α' β' : Type}

/-- An implementation of an interface. -/
abbrev Service (Op : Type) (Answer : Op → Type) (State : Type) : Type :=
  (op : Op) → Answer op → State → State → Prop

/-- Code is carried out by a service, from one state to another. -/
inductive Served (service : Service Op Answer State) :
    Program Op Answer α → State → List (Exchange Op Answer) → α → State → Prop where
  | done (value : α) (state : State) : Served service (.done value) state [] value state
  | perform {op : Op} {resume : Answer op → Program Op Answer α} {answer : Answer op}
      {before middle after : State} {said : List (Exchange Op Answer)} {value : α}
      (carried : service op answer before middle)
      (rest : Served service (resume answer) middle said value after) :
      Served service (.perform op resume) before (⟨op, answer⟩ :: said) value after

section Served

variable {service : Service Op Answer State} {before after : State}
  {said : List (Exchange Op Answer)}

theorem served_done_iff {value result : α} :
    Served service (.done value) before said result after ↔
      said = [] ∧ result = value ∧ after = before := by
  constructor
  · intro served
    cases served
    exact ⟨rfl, rfl, rfl⟩
  · intro ended
    rw [ended.1, ended.2.1, ended.2.2]
    exact .done value before

theorem served_perform_iff {op : Op} {resume : Answer op → Program Op Answer α} {value : α} :
    Served service (.perform op resume) before said value after ↔
      ∃ answer middle rest, said = ⟨op, answer⟩ :: rest ∧ service op answer before middle ∧
        Served service (resume answer) middle rest value after := by
  constructor
  · intro served
    cases served with
    | perform carried rest => exact ⟨_, _, _, rfl, carried, rest⟩
  · rintro ⟨answer, middle, rest, rfl, carried, served⟩
    exact .perform carried served

/-- A sequence is carried out one part after the other. -/
theorem served_bind_iff {program : Program Op Answer α} {next : α → Program Op Answer β}
    {last : β} :
    Served service (program.bind next) before said last after ↔
      ∃ first value middle second, said = first ++ second ∧
        Served service program before first value middle ∧
        Served service (next value) middle second last after := by
  induction program generalizing before said with
  | done result =>
      simp only [done_bind, served_done_iff]
      constructor
      · intro served
        exact ⟨[], result, before, said, rfl, ⟨rfl, rfl, rfl⟩, served⟩
      · rintro ⟨_, _, _, second, rfl, ⟨rfl, rfl, rfl⟩, served⟩
        exact served
  | perform op resume inductionHypothesis =>
      simp only [perform_bind, served_perform_iff, inductionHypothesis]
      constructor
      · rintro ⟨answer, middle, _, rfl, carried, first, value, between, second, rfl, one, two⟩
        exact ⟨⟨op, answer⟩ :: first, value, between, second, rfl,
          ⟨answer, middle, first, rfl, carried, one⟩, two⟩
      · rintro ⟨_, value, between, second, rfl, ⟨answer, middle, first, rfl, carried, one⟩, two⟩
        exact ⟨answer, middle, first ++ second, rfl, carried, first, value, between, second, rfl,
          one, two⟩

end Served

/-- Whatever the one may say and come to, the other may say and come to something alike. -/
def Refines (one : Service Op Answer State) (two : Service Op Answer Other)
    (related : Exchange Op Answer → Exchange Op Answer → Prop)
    (post : α → β → State → Other → Prop) (program : Program Op Answer α)
    (other : Program Op Answer β) (state : State) (partner : Other) : Prop :=
  ∀ said value after, Served one program state said value after →
    ∃ heard last final, Served two other partner heard last final ∧
      List.Forall₂ related said heard ∧ post value last after final

section Refines

variable {one : Service Op Answer State} {two : Service Op Answer Other}
  {related : Exchange Op Answer → Exchange Op Answer → Prop} {state : State} {partner : Other}

theorem refines_done {post : α → β → State → Other → Prop} {value : α} {last : β}
    (established : post value last state partner) :
    Refines one two related post (.done value) (.done last) state partner := by
  intro said result after served
  obtain ⟨rfl, rfl, rfl⟩ := served_done_iff.mp served
  exact ⟨[], last, partner, .done last partner, .nil, established⟩

theorem refines_perform {post : α → β → State → Other → Prop} {op other : Op}
    {resume : Answer op → Program Op Answer α} {follow : Answer other → Program Op Answer β}
    (carried : ∀ answer next, one op answer state next →
      ∃ reply reached, two other reply partner reached ∧ related ⟨op, answer⟩ ⟨other, reply⟩ ∧
        Refines one two related post (resume answer) (follow reply) next reached) :
    Refines one two related post (.perform op resume) (.perform other follow) state partner := by
  intro said value after served
  obtain ⟨answer, middle, rest, rfl, first, served⟩ := served_perform_iff.mp served
  obtain ⟨reply, reached, second, same, refines⟩ := carried answer middle first
  obtain ⟨heard, last, final, answered, all, established⟩ := refines rest value after served
  exact ⟨_, last, final, .perform second answered, .cons same all, established⟩

theorem refines_bind {first : α → β → State → Other → Prop}
    {post : α' → β' → State → Other → Prop} {program : Program Op Answer α}
    {other : Program Op Answer β} {next : α → Program Op Answer α'}
    {follow : β → Program Op Answer β'}
    (front : Refines one two related first program other state partner)
    (back : ∀ value last after final, first value last after final →
      Refines one two related post (next value) (follow last) after final) :
    Refines one two related post (program.bind next) (other.bind follow) state partner := by
  intro said value after served
  obtain ⟨early, middle, between, late, rfl, started, ended⟩ := served_bind_iff.mp served
  obtain ⟨heard, last, reached, answered, all, established⟩ := front _ _ _ started
  obtain ⟨more, final, finish, finished, rest, holds⟩ :=
    back _ _ _ _ established _ _ _ ended
  exact ⟨heard ++ more, final, finish,
    served_bind_iff.mpr ⟨heard, last, reached, more, rfl, answered, finished⟩,
    List.rel_append all rest, holds⟩

end Refines

end Program

/-! ## Computations -/

namespace Computation

variable {Op Op' : Type} {Reply : Op → Type} {Reply' : Op' → Type}
  {ε σ τ World Choice State Other α β α' β' : Type}

/-- Code of a process without a state of its own, with its outcome. -/
def Refines (one : Program.Service Op (fun op => Except ε (Reply op)) State)
    (two : Program.Service Op (fun op => Except ε (Reply op)) Other)
    (related : Exchange Op (fun op => Except ε (Reply op)) →
      Exchange Op (fun op => Except ε (Reply op)) → Prop)
    (post : Except ε α → Except ε β → State → Other → Prop)
    (body : Computation Op Reply ε Unit α) (other : Computation Op Reply ε Unit β) :
    State → Other → Prop :=
  Program.Refines one two related (fun value last => post value.1 last.1) (body ()) (other ())

namespace Refines

variable {one : Program.Service Op (fun op => Except ε (Reply op)) State}
  {two : Program.Service Op (fun op => Except ε (Reply op)) Other}
  {related : Exchange Op (fun op => Except ε (Reply op)) →
    Exchange Op (fun op => Except ε (Reply op)) → Prop}
  {post : Except ε α → Except ε β → State → Other → Prop} {state : State} {partner : Other}

theorem pure {value : α} {last : β} (established : post (.ok value) (.ok last) state partner) :
    Refines one two related post (pure value) (pure last) state partner :=
  Program.refines_done established

theorem raise {error failure : ε}
    (established : post (.error error) (.error failure) state partner) :
    Refines one two related post (raise error) (raise failure) state partner :=
  Program.refines_done established

/-- A result that both have computed alike. -/
theorem ofExcept_bind {result : Except ε α'} {next : α' → Computation Op Reply ε Unit α}
    {follow : α' → Computation Op Reply ε Unit β}
    (failed : ∀ error, result = .error error → post (.error error) (.error error) state partner)
    (returned : ∀ value, result = .ok value →
      Refines one two related post (next value) (follow value) state partner) :
    Refines one two related post (ofExcept result >>= next) (ofExcept result >>= follow) state
      partner := by
  cases result with
  | error error => exact Program.refines_done (failed error rfl)
  | ok value => exact returned value rfl

/-- A first part that returns on both sides, and what follows. -/
theorem bind_returned {body : Computation Op Reply ε Unit α'}
    {other : Computation Op Reply ε Unit β'} {next : α' → Computation Op Reply ε Unit α}
    {follow : β' → Computation Op Reply ε Unit β}
    (front : Refines one two related
      (fun outcome last after final => ∃ value reply, outcome = .ok value ∧ last = .ok reply ∧
        Refines one two related post (next value) (follow reply) after final)
      body other state partner) :
    Refines one two related post (body >>= next) (other >>= follow) state partner := by
  refine Program.refines_bind front ?_
  rintro ⟨outcome, _⟩ ⟨last, _⟩ after final ⟨value, reply, returned, answered, refines⟩
  cases returned
  cases answered
  exact refines

/-- The rule for one operation, which returns. -/
theorem call_bind {op other : Op} {next : Reply op → Computation Op Reply ε Unit α}
    {follow : Reply other → Computation Op Reply ε Unit β}
    (carried : ∀ answer after, one op answer state after →
      ∃ value reply reached, answer = .ok value ∧ two other (.ok reply) partner reached ∧
        related ⟨op, .ok value⟩ ⟨other, .ok reply⟩ ∧
        Refines one two related post (next value) (follow reply) after reached) :
    Refines one two related post (call op >>= next) (call other >>= follow) state partner := by
  apply Program.refines_perform
  intro answer after first
  obtain ⟨value, reply, reached, rfl, second, same, refines⟩ := carried answer after first
  exact ⟨.ok reply, reached, second, same, refines⟩

end Refines

/-! ## One after the other -/

section Attempts

variable {ι : Type}

/-- Code with what it has returned or raised. -/
def attempt (body : Computation Op Reply ε σ α) : Computation Op Reply ε σ (Except ε α) :=
  fun state => (body state).bind fun final => .done (.ok final.1, final.2)

/-- Code for each item in turn, whatever it has raised for those before. -/
def attemptEach (body : ι → Computation Op Reply ε σ α) :
    List ι → Computation Op Reply ε σ (List (Except ε α))
  | [] => pure []
  | item :: items => do
      let outcome ← attempt (body item)
      let outcomes ← attemptEach body items
      pure (outcome :: outcomes)

theorem attemptEach_cons_apply (body : ι → Computation Op Reply ε σ α) (item : ι)
    (items : List ι) (state : σ) :
    attemptEach body (item :: items) state =
      (body item state).bind fun first =>
        (attemptEach body items first.2).bind fun rest =>
          .done (rest.1.map (first.1 :: ·), rest.2) := by
  refine (Program.bind_assoc _ _ _).trans (congrArg _ (funext ?_))
  rintro ⟨outcome, middle⟩
  refine congrArg (Program.bind (attemptEach body items middle)) (funext ?_)
  rintro ⟨outcomes | outcomes, last⟩
  · rfl
  · rfl

variable {one : Program.Service Op (fun op => Except ε (Reply op)) State}
  {two : Program.Service Op (fun op => Except ε (Reply op)) Other}
  {related : Exchange Op (fun op => Except ε (Reply op)) →
    Exchange Op (fun op => Except ε (Reply op)) → Prop}

/-- The rule for items in turn, from what holds as long as some of them are left. -/
theorem Refines.attemptEach {body : ι → Computation Op Reply ε Unit α}
    {other : ι → Computation Op Reply ε Unit β} {alike : Except ε α → Except ε β → Prop}
    {invariant : List ι → State → Other → Prop}
    (step : ∀ item items state partner, invariant (item :: items) state partner →
      Refines one two related
        (fun outcome last after final => alike outcome last ∧ invariant items after final)
        (body item) (other item) state partner)
    (items later : List ι) :
    ∀ {state : State} {partner : Other}, invariant (items ++ later) state partner →
      Refines one two related
        (fun result last after final => ∃ outcomes answers, result = .ok outcomes ∧
          last = .ok answers ∧ List.Forall₂ alike outcomes answers ∧
            invariant later after final)
        (attemptEach body items) (attemptEach other items) state partner := by
  induction items with
  | nil =>
      intro state partner kept
      exact Program.refines_done ⟨[], [], rfl, rfl, .nil, kept⟩
  | cons item items inductionHypothesis =>
      intro state partner kept
      unfold Refines
      rw [attemptEach_cons_apply, attemptEach_cons_apply]
      refine Program.refines_bind (step item (items ++ later) state partner kept) ?_
      rintro ⟨outcome, _⟩ ⟨answer, _⟩ after final ⟨same, preserved⟩
      refine Program.refines_bind (inductionHypothesis preserved) ?_
      rintro ⟨result, _⟩ ⟨last, _⟩ reached finish
        ⟨outcomes, answers, returned, answered, all, holds⟩
      cases returned
      cases answered
      refine Program.refines_done ?_
      exact ⟨outcome :: outcomes, answer :: answers, rfl, rfl, .cons same all, holds⟩

/-- Items are served in turn. -/
theorem served_attemptEach_append {body : ι → Computation Op Reply ε Unit α}
    {second : List ι} {answers : List (Except ε α)} {heard : List (Exchange Op _)}
    {middle after : State} (first : List ι) :
    ∀ {before : State} {said : List (Exchange Op _)} {outcomes : List (Except ε α)},
      Program.Served one (attemptEach body first ()) before said (.ok outcomes, ()) middle →
      Program.Served one (attemptEach body second ()) middle heard (.ok answers, ()) after →
      Program.Served one (attemptEach body (first ++ second) ()) before (said ++ heard)
        (.ok (outcomes ++ answers), ()) after := by
  induction first with
  | nil =>
      intro before said outcomes early late
      obtain ⟨rfl, ended, rfl⟩ := Program.served_done_iff.mp early
      cases ended
      exact late
  | cons item items inductionHypothesis =>
      intro before said outcomes early late
      rw [attemptEach_cons_apply, Program.served_bind_iff] at early
      obtain ⟨own, outcome, between, others, rfl, started, early⟩ := early
      obtain ⟨more, rest, reached, none, rfl, followed, ended⟩ :=
        Program.served_bind_iff.mp early
      obtain ⟨rfl, same, rfl⟩ := Program.served_done_iff.mp ended
      obtain ⟨rest | rest, _⟩ := rest
      · cases same
      · cases same
        rw [List.cons_append, attemptEach_cons_apply, List.append_assoc]
        refine Program.served_bind_iff.mpr
          ⟨own, outcome, between, more ++ heard, by simp, started, ?_⟩
        refine Program.served_bind_iff.mpr
          ⟨more ++ heard, _, after, [], by simp, inductionHypothesis followed late, ?_⟩
        exact .done _ _

end Attempts

/-! ## Implementations -/

section Implementations

variable (meaning : (op : Op) → Computation Op' Reply' ε τ (Reply op))

/-- The operations of an interface are carried out by code with a state of its own. -/
def implementProgram : Program Op (fun op => Except ε (Reply op)) α → τ →
    Program Op' (fun op => Except ε (Reply' op)) (α × τ)
  | .done value, state => .done (value, state)
  | .perform op resume, state =>
      (meaning op state).bind fun outcome => implementProgram (resume outcome.1) outcome.2

def implement (body : Computation Op Reply ε Unit α) : Computation Op' Reply' ε τ α :=
  fun state => (implementProgram meaning (body ()) state).bind fun final =>
    .done (final.1.1, final.2)

/-- The same, with a record of what the operations have answered. -/
def recorded (op : Op) :
    Computation Op' Reply' ε (τ × List (Exchange Op fun op => Except ε (Reply op)))
      (Reply op) :=
  fun state => (meaning op state.1).bind fun outcome =>
    .done (outcome.1, outcome.2, state.2 ++ [⟨op, outcome.1⟩])

/-- What a run of the code does with an operation, on its state and the world. -/
def service (act : Program.Interpreter Op' (fun op => Except ε (Reply' op)) World Choice) :
    Program.Service Op (fun op => Except ε (Reply op)) (τ × World) :=
  fun op answer before after =>
    ∃ choices,
      (meaning op before.1).run act choices before.2 = some ((answer, after.1), after.2)

variable {meaning}

theorem implementProgram_bind (program : Program Op (fun op => Except ε (Reply op)) α)
    (next : α → Program Op (fun op => Except ε (Reply op)) β) (state : τ) :
    implementProgram meaning (program.bind next) state =
      (implementProgram meaning program state).bind fun final =>
        implementProgram meaning (next final.1) final.2 := by
  induction program generalizing state with
  | done value => rfl
  | perform op resume inductionHypothesis =>
      simp only [Program.perform_bind, implementProgram, Program.bind_assoc, inductionHypothesis]

/-- Implementation distributes over sequencing. -/
theorem implement_bind (first : Computation Op Reply ε Unit α)
    (next : α → Computation Op Reply ε Unit β) :
    implement meaning (first >>= next) =
      implement meaning first >>= fun value => implement meaning (next value) := by
  funext state
  refine (congrArg (Program.bind · _) (implementProgram_bind (first ()) _ state)).trans ?_
  refine (Program.bind_assoc _ _ _).trans (Eq.trans ?_ (Program.bind_assoc _ _ _).symm)
  refine congrArg _ (funext ?_)
  rintro ⟨⟨outcome | outcome, _⟩, last⟩
  · rfl
  · rfl

theorem implement_pure (value : α) :
    implement meaning (pure value : Computation Op Reply ε Unit α) = pure value := rfl

theorem implement_ofExcept (result : Except ε α) :
    implement meaning (ofExcept result : Computation Op Reply ε Unit α) = ofExcept result := rfl

theorem implement_call (op : Op) :
    implement meaning (call op : Computation Op Reply ε Unit (Reply op)) = meaning op := by
  funext state
  refine (Program.bind_assoc _ _ _).trans ?_
  exact Program.bind_done _

theorem implement_attempt (body : Computation Op Reply ε Unit α) :
    implement meaning (attempt body) = attempt (implement meaning body) := by
  funext state
  simp only [implement, attempt, implementProgram_bind, Program.bind_assoc, Program.done_bind,
    implementProgram]

theorem implement_attemptEach {ι : Type} (body : ι → Computation Op Reply ε Unit α)
    (items : List ι) :
    implement meaning (attemptEach body items) =
      attemptEach (fun item => implement meaning (body item)) items := by
  induction items with
  | nil => rfl
  | cons item items inductionHypothesis =>
      simp only [attemptEach, implement_bind, implement_attempt, inductionHypothesis,
        implement_pure]

/-- Without the record it is the code. -/
theorem implementProgram_recorded (program : Program Op (fun op => Except ε (Reply op)) α)
    (state : τ) (log : List (Exchange Op fun op => Except ε (Reply op))) :
    (implementProgram (recorded meaning) program (state, log)).bind
        (fun final => .done (final.1, final.2.1)) =
      implementProgram meaning program state := by
  induction program generalizing state log with
  | done value => rfl
  | perform op resume inductionHypothesis =>
      simp only [implementProgram, recorded, Program.bind_assoc, Program.done_bind,
        inductionHypothesis]

/-! ## Runs -/

/-- A run of an implementation serves the code, and its record is what was said. -/
theorem served_of_run
    {act : Program.Interpreter Op' (fun op => Except ε (Reply' op)) World Choice}
    {program : Program Op (fun op => Except ε (Reply op)) α} :
    ∀ {state : τ} {log : List (Exchange Op fun op => Except ε (Reply op))} {world : World},
      (Contract.alone act).wp (implementProgram (recorded meaning) program (state, log))
        (fun final after => ∃ said, final.2.2 = log ++ said ∧
          Program.Served (service meaning act) program (state, world) said final.1
            (final.2.1, after)) world := by
  induction program with
  | done value => exact fun {state log world} => ⟨[], by simp, .done _ _⟩
  | perform op resume inductionHypothesis =>
      intro state log world
      apply Contract.wp_bind
      apply Contract.wp_bind
      refine Contract.alone_wp_iff.mpr ?_
      intro choices outcome middle ran
      change (Contract.alone act).wp (implementProgram (recorded meaning) (resume outcome.1)
        (outcome.2, log ++ [⟨op, outcome.1⟩])) _ middle
      refine Contract.wp_mono ?_ (inductionHypothesis outcome.1)
      intro final after served
      obtain ⟨said, noted, rest⟩ := served
      refine ⟨⟨op, outcome.1⟩ :: said, ?_, .perform ⟨choices, ran⟩ rest⟩
      rw [noted, List.append_assoc]
      rfl

/-- What is verified of code that is alone holds of what it does for an operation. -/
theorem service_of_holds
    {act : Program.Interpreter Op' (fun op => Except ε (Reply' op)) World Choice} {op : Op}
    {post : Contract.Post ε τ World (Reply op)} {answer : Except ε (Reply op)}
    {before after : τ × World}
    (verified : (Contract.alone act).holds (meaning op) post before.1 before.2)
    (carried : service meaning act op answer before after) : post answer after.1 after.2 := by
  obtain ⟨choices, ran⟩ := carried
  exact Contract.alone_wp_iff.mp verified choices (answer, after.1) after.2 ran

end Implementations

end Computation

end Interaction
