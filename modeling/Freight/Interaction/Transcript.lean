/-
Module: Freight.Interaction.Transcript
Purpose: What a program and its environment may say to each other: the operations with
  their answers, whoever gives them.
Trusted boundary: none
Main exports:
  Exchange, Program.Converses, Program.converses_bind_iff, Program.transcribe,
  Program.Converses.of_run,
  Program.Confined, Program.Confined.interpret, System.converses_of_reachable,
  Computation.Confined,
  Computation.Straight, Computation.Straight.propagates, Computation.Returns.bind
-/
import Freight.Interaction.Concurrency
import Freight.Interaction.Interpretation

namespace Interaction

/-- An operation, and what it was answered. -/
abbrev Exchange (Op : Type) (Answer : Op → Type) : Type := (op : Op) × Answer op

namespace Program

variable {Op : Type} {Answer : Op → Type} {World Choice α β : Type}

/-- A program comes to an end through these exchanges. -/
inductive Converses : Program Op Answer α → List (Exchange Op Answer) → α → Prop where
  | done (value : α) : Converses (.done value) [] value
  | perform {op : Op} {resume : Answer op → Program Op Answer α} (answer : Answer op)
      {transcript : List (Exchange Op Answer)} {value : α}
      (rest : Converses (resume answer) transcript value) :
      Converses (.perform op resume) (⟨op, answer⟩ :: transcript) value

variable {program : Program Op Answer α} {transcript : List (Exchange Op Answer)} {value : α}

theorem converses_done_iff {result : α} :
    Converses (.done result : Program Op Answer α) transcript value ↔
      transcript = [] ∧ value = result := by
  constructor
  · intro conversed
    cases conversed
    exact ⟨rfl, rfl⟩
  · intro ended
    rw [ended.1, ended.2]
    exact .done result

theorem converses_perform_iff {op : Op} {resume : Answer op → Program Op Answer α} :
    Converses (.perform op resume) transcript value ↔
      ∃ answer rest, transcript = ⟨op, answer⟩ :: rest ∧
        Converses (resume answer) rest value := by
  constructor
  · intro conversed
    cases conversed with
    | perform answer rest => exact ⟨answer, _, rfl, rest⟩
  · intro conversed
    obtain ⟨answer, rest, rfl, conversed⟩ := conversed
    exact .perform answer conversed

/-- A sequence says what its first part says, and then what its second part says. -/
theorem converses_bind_iff {next : α → Program Op Answer β} {last : β} :
    Converses (program.bind next) transcript last ↔
      ∃ first value second, transcript = first ++ second ∧
        Converses program first value ∧ Converses (next value) second last := by
  induction program generalizing transcript with
  | done result =>
      simp only [done_bind, converses_done_iff]
      constructor
      · intro conversed
        exact ⟨[], result, transcript, rfl, ⟨rfl, rfl⟩, conversed⟩
      · intro conversed
        obtain ⟨_, _, second, rfl, ⟨rfl, rfl⟩, conversed⟩ := conversed
        exact conversed
  | perform op resume inductionHypothesis =>
      simp only [perform_bind, converses_perform_iff, inductionHypothesis]
      constructor
      · intro conversed
        obtain ⟨answer, rest, rfl, first, value, second, rfl, one, two⟩ := conversed
        exact ⟨⟨op, answer⟩ :: first, value, second, rfl, ⟨answer, first, rfl, one⟩, two⟩
      · intro conversed
        obtain ⟨_, value, second, rfl, ⟨answer, first, rfl, one⟩, two⟩ := conversed
        exact ⟨answer, first ++ second, rfl, first, value, second, rfl, one, two⟩

/-- The conversation with an environment that answers by the clock. -/
def transcribe (answer : Nat → (op : Op) → Answer op) :
    Nat → Program Op Answer α → List (Exchange Op Answer) × α
  | _, .done value => ([], value)
  | time, .perform op resume =>
      let rest := transcribe answer (time + 1) (resume (answer time op))
      (⟨op, answer time op⟩ :: rest.1, rest.2)

theorem converses_transcribe (answer : Nat → (op : Op) → Answer op)
    (program : Program Op Answer α) :
    ∀ time, Converses program (transcribe answer time program).1
      (transcribe answer time program).2 := by
  induction program with
  | done value => exact fun _ => .done value
  | perform op resume inductionHypothesis =>
      exact fun time => .perform _ (inductionHypothesis _ (time + 1))

/-- Whatever world a program is run in, it has said something on the way. -/
theorem Converses.of_run {act : Interpreter Op Answer World Choice} :
    ∀ {choices : List Choice} {world after : World},
      program.run act choices world = some (value, after) →
        ∃ transcript, Converses program transcript value := by
  induction program with
  | done result =>
      intro choices world after ran
      cases choices with
      | nil =>
          cases ran
          exact ⟨[], .done _⟩
      | cons choice choices => cases ran
  | perform op resume inductionHypothesis =>
      intro choices world after ran
      cases choices with
      | nil => cases ran
      | cons choice choices =>
          simp only [run] at ran
          split at ran
          · rename_i answer next acted
            obtain ⟨transcript, conversed⟩ := inductionHypothesis answer ran
            exact ⟨_, .perform answer conversed⟩
          · cases ran

theorem Converses.of_eq {other : List (Exchange Op Answer)}
    (conversed : Converses program transcript value) (same : other = transcript) :
    Converses program other value := by
  rwa [same]

/-- After the same exchanges a program performs the same operation. -/
theorem Converses.next_unique {spoken one two : List (Exchange Op Answer)}
    {first second : Exchange Op Answer} {other : α}
    (here : Converses program (spoken ++ first :: one) value)
    (there : Converses program (spoken ++ second :: two) other) : first.1 = second.1 := by
  induction spoken generalizing program with
  | nil =>
      cases here with
      | perform answer rest =>
          cases there with
          | perform answer rest => rfl
  | cons exchange spoken inductionHypothesis =>
      cases here with
      | perform answer rest =>
          cases there with
          | perform _ again => exact inductionHypothesis rest again

/-- A program that has ended performs no operation. -/
theorem Converses.not_longer {spoken more : List (Exchange Op Answer)}
    {next : Exchange Op Answer} {other : α} (ended : Converses program spoken value)
    (longer : Converses program (spoken ++ next :: more) other) : False := by
  induction spoken generalizing program with
  | nil =>
      cases ended
      cases longer
  | cons exchange spoken inductionHypothesis =>
      cases ended with
      | perform answer rest =>
          cases longer with
          | perform _ again => exact inductionHypothesis rest again

/-! ## Operations that do not occur -/

/-- A program that performs only operations of one kind. -/
def Confined (allowed : Op → Prop) : Program Op Answer α → Prop
  | .done _ => True
  | .perform op resume => allowed op ∧ ∀ answer, Confined allowed (resume answer)

variable {allowed : Op → Prop}

theorem Confined.bind {next : α → Program Op Answer β} (first : program.Confined allowed)
    (second : ∀ value, (next value).Confined allowed) :
    (program.bind next).Confined allowed := by
  induction program with
  | done value => exact second value
  | perform op resume inductionHypothesis =>
      exact ⟨first.1, fun answer => inductionHypothesis answer (first.2 answer)⟩

/-- Every program performs operations of some kind. -/
theorem confined_true (program : Program Op Answer α) : program.Confined fun _ => True := by
  induction program with
  | done value => trivial
  | perform op resume inductionHypothesis => exact ⟨trivial, inductionHypothesis⟩

/-- It says nothing of another kind. -/
theorem Confined.exchanges (confined : program.Confined allowed)
    (conversed : Converses program transcript value) :
    ∀ exchange ∈ transcript, allowed exchange.1 := by
  induction conversed with
  | done value => exact fun _ member => nomatch member
  | perform answer rest inductionHypothesis =>
      intro exchange member
      rcases List.mem_cons.mp member with rfl | later
      · exact confined.1
      · exact inductionHypothesis (confined.2 answer) exchange later

theorem Confined.mono {weaker : Op → Prop} (confined : program.Confined allowed)
    (implies : ∀ op, allowed op → weaker op) : program.Confined weaker := by
  induction program with
  | done value => trivial
  | perform op resume inductionHypothesis =>
      exact ⟨implies op confined.1, fun answer => inductionHypothesis answer (confined.2 answer)⟩

/-- Where every operation has an answer, what is never said is never performed. -/
theorem Confined.of_exchanges [answers : ∀ op, Nonempty (Answer op)]
    (all : ∀ transcript value, Converses program transcript value →
      ∀ exchange ∈ transcript, allowed exchange.1) : program.Confined allowed := by
  induction program with
  | done value => trivial
  | perform op resume inductionHypothesis =>
      constructor
      · let answer : Nat → (op : Op) → Answer op := fun _ op => (answers op).some
        exact all _ _ (converses_transcribe answer (.perform op resume) 0) _ List.mem_cons_self
      · intro answer
        apply inductionHypothesis
        intro transcript value conversed exchange member
        exact all _ _ (.perform answer conversed) exchange (List.mem_cons_of_mem _ member)

/-- Operations that stand for programs. -/
theorem Confined.interpret {Op' : Type} {Answer' : Op' → Type} {permitted : Op' → Prop}
    {meaning : (op : Op) → Program Op' Answer' (Answer op)} (confined : program.Confined allowed)
    (means : ∀ op, allowed op → (meaning op).Confined permitted) :
    (program.interpret meaning).Confined permitted := by
  induction program with
  | done value => trivial
  | perform op resume inductionHypothesis =>
      refine (means op confined.1).bind ?_
      intro answer
      exact inductionHypothesis answer (confined.2 answer)

end Program

/-- Neither do processes among others come to an end without a conversation. -/
theorem System.converses_of_reachable {Op : Type} {Answer : Op → Type} {World Choice α : Type}
    {system : System Op Answer World Choice α} {world : World}
    {state : State Op Answer World α} (reached : system.Reachable world state)
    {process : ProcessId} {value : α} (ended : state.processes process = some (.done value)) :
    ∃ transcript, Program.Converses (system.program process) transcript value := by
  obtain ⟨actions, ran⟩ := reached
  -- what is left of a program completes whatever it has said so far
  have resumes : ∀ program, state.processes process = some program →
      ∃ spoken, ∀ transcript value, Program.Converses program transcript value →
        Program.Converses (system.program process) (spoken ++ transcript) value := by
    refine system.run_induction (motive := fun state => ∀ program,
      state.processes process = some program → ∃ spoken, ∀ transcript value,
        Program.Converses program transcript value →
          Program.Converses (system.program process) (spoken ++ transcript) value) ?_ ?_ ran
    · intro action before next held stepped program left
      rcases system.step_cases stepped with
        ⟨actor, choice, op, resume, answer, after, rfl, found, acted, rfl⟩ |
          ⟨actor, killed, rfl, found, rfl⟩
      · by_cases same : process = actor
        · subst same
          simp only [Function.update_self, Option.some.injEq] at left
          subst left
          obtain ⟨spoken, completes⟩ := held _ found
          refine ⟨spoken ++ [⟨op, answer⟩], ?_⟩
          intro transcript value conversed
          rw [List.append_assoc]
          exact completes _ _ (.perform answer conversed)
        · simp only [Function.update_of_ne same] at left
          exact held program left
      · by_cases same : process = actor
        · subst same
          simp at left
        · simp only [Function.update_of_ne same] at left
          exact held program left
    · intro program left
      cases left
      exact ⟨[], fun _ _ conversed => conversed⟩
  obtain ⟨spoken, completes⟩ := resumes _ ended
  exact ⟨spoken ++ [], completes [] value (.done value)⟩

/-! ## Computations with exceptions and private state -/

namespace Computation

variable {Op : Type} {Reply : Op → Type} {ε σ α β : Type} {allowed : Op → Prop}

/-- A computation that performs only operations of one kind, from whatever state. -/
def Confined (allowed : Op → Prop) (body : Computation Op Reply ε σ α) : Prop :=
  ∀ state, (body state).Confined allowed

theorem confined_pure {value : α} :
    Confined allowed (pure value : Computation Op Reply ε σ α) := fun _ => trivial

theorem confined_raise {error : ε} :
    Confined allowed (raise error : Computation Op Reply ε σ α) := fun _ => trivial

theorem confined_ofExcept {result : Except ε α} :
    Confined allowed (ofExcept result : Computation Op Reply ε σ α) := fun _ => trivial

theorem confined_read : Confined allowed (read : Computation Op Reply ε σ σ) :=
  fun _ => trivial

theorem confined_modify {update : σ → σ} :
    Confined allowed (modify update : Computation Op Reply ε σ Unit) := fun _ => trivial

theorem confined_call {op : Op} (permitted : allowed op) :
    Confined allowed (call op : Computation Op Reply ε σ (Reply op)) :=
  fun _ => ⟨permitted, fun _ => trivial⟩

theorem Confined.bind {first : Computation Op Reply ε σ α}
    {next : α → Computation Op Reply ε σ β} (one : Confined allowed first)
    (two : ∀ value, Confined allowed (next value)) : Confined allowed (first >>= next) := by
  intro state
  refine (one state).bind ?_
  intro outcome
  rcases outcome with ⟨error | value, after⟩
  · trivial
  · exact two value after

theorem Confined.tryExcept {body : Computation Op Reply ε σ α}
    {handler : ε → Computation Op Reply ε σ α} (one : Confined allowed body)
    (two : ∀ error, Confined allowed (handler error)) :
    Confined allowed (Computation.tryExcept body handler) := by
  intro state
  refine (one state).bind ?_
  intro outcome
  rcases outcome with ⟨error | value, after⟩
  · exact two error after
  · trivial

theorem Confined.ite {condition : Prop} [Decidable condition]
    {one two : Computation Op Reply ε σ α} (first : Confined allowed one)
    (second : Confined allowed two) : Confined allowed (if condition then one else two) := by
  by_cases holds : condition
  · rwa [if_pos holds]
  · rwa [if_neg holds]

theorem Confined.onExit {body : Computation Op Reply ε σ α}
    {cleanup : Computation Op Reply ε σ Unit} (one : Confined allowed body)
    (two : Confined allowed cleanup) : Confined allowed (Computation.onExit body cleanup) := by
  intro state
  refine (one state).bind ?_
  intro outcome
  refine (two outcome.2).bind ?_
  intro cleaned
  rcases cleaned with ⟨error | value, after⟩ <;> trivial

/-! ## Operations that fail -/

/-- Code without an exception of its own, and without a handler. -/
inductive Straight (allowed : Op → Prop) : {α : Type} → Computation Op Reply ε σ α → Prop where
  | pure {α : Type} (value : α) : Straight allowed (pure value)
  | read : Straight allowed read
  | modify (update : σ → σ) : Straight allowed (modify update)
  | call {op : Op} (permitted : allowed op) : Straight allowed (call op)
  | bind {α β : Type} {first : Computation Op Reply ε σ α}
      {next : α → Computation Op Reply ε σ β} (one : Straight allowed first)
      (two : ∀ value, Straight allowed (next value)) : Straight allowed (first >>= next)

theorem Straight.forEach {ι : Type} {body : ι → Computation Op Reply ε σ Unit}
    (each : ∀ item, Straight allowed (body item)) :
    ∀ items, Straight allowed (Computation.forEach body items) := by
  intro items
  induction items with
  | nil => exact .pure ()
  | cons item items inductionHypothesis => exact .bind (each item) fun _ => inductionHypothesis

theorem Straight.ite {condition : Prop} [Decidable condition]
    {one two : Computation Op Reply ε σ α} (first : Straight allowed one)
    (second : Straight allowed two) : Straight allowed (if condition then one else two) := by
  by_cases holds : condition
  · rwa [if_pos holds]
  · rwa [if_neg holds]

theorem Straight.confined {body : Computation Op Reply ε σ α}
    (straight : Straight allowed body) : Confined allowed body := by
  induction straight with
  | pure value => exact confined_pure
  | read => exact confined_read
  | modify update => exact confined_modify
  | call permitted => exact confined_call permitted
  | bind _ _ first second => exact first.bind second

/-- The environment did not raise. -/
def Succeeded (exchange : Exchange Op fun op => Except ε (Reply op)) : Prop :=
  ∃ reply, exchange.2 = .ok reply

/-- What a sequence says: its first part, and its second part if the first one returns. -/
theorem converses_bind {first : Computation Op Reply ε σ α}
    {next : α → Computation Op Reply ε σ β} {state : σ}
    {transcript : List (Exchange Op fun op => Except ε (Reply op))} {outcome : Except ε β × σ}
    (conversed : ((first >>= next) state).Converses transcript outcome) :
    (∃ value middle one two, transcript = one ++ two ∧
        (first state).Converses one (.ok value, middle) ∧
        (next value middle).Converses two outcome) ∨
      ∃ error, outcome.1 = .error error ∧
        (first state).Converses transcript (.error error, outcome.2) := by
  obtain ⟨one, ⟨reached, middle⟩, two, rfl, started, ended⟩ :=
    Program.converses_bind_iff.mp conversed
  cases reached with
  | ok value => exact .inl ⟨value, middle, one, two, rfl, started, ended⟩
  | error error =>
      obtain ⟨rfl, rfl⟩ := Program.converses_done_iff.mp ended
      exact .inr ⟨error, rfl, by simpa using started⟩

/-- Straight code returns if all of its operations succeed, and raises what the first of
them raises that does not. -/
theorem Straight.propagates {body : Computation Op Reply ε σ α}
    (straight : Straight allowed body) :
    ∀ {state last : σ} {transcript} {outcome : Except ε α},
      (body state).Converses transcript (outcome, last) →
        (∃ value, outcome = .ok value ∧ ∀ exchange ∈ transcript, Succeeded exchange) ∨
          ∃ earlier op error, outcome = .error error ∧
            transcript = earlier ++ [⟨op, .error error⟩] ∧
            ∀ exchange ∈ earlier, Succeeded exchange := by
  induction straight with
  | pure value =>
      intro state last transcript outcome conversed
      obtain ⟨rfl, same⟩ := Program.converses_done_iff.mp conversed
      cases same
      exact .inl ⟨value, rfl, by simp⟩
  | read =>
      intro state last transcript outcome conversed
      obtain ⟨rfl, same⟩ := Program.converses_done_iff.mp conversed
      cases same
      exact .inl ⟨state, rfl, by simp⟩
  | modify update =>
      intro state last transcript outcome conversed
      obtain ⟨rfl, same⟩ := Program.converses_done_iff.mp conversed
      cases same
      exact .inl ⟨(), rfl, by simp⟩
  | @call op permitted =>
      intro state last transcript outcome conversed
      obtain ⟨answer, rest, rfl, ended⟩ := Program.converses_perform_iff.mp conversed
      obtain ⟨rfl, same⟩ := Program.converses_done_iff.mp ended
      cases same
      cases outcome with
      | ok reply => exact .inl ⟨reply, rfl, by simp [Succeeded]⟩
      | error error => exact .inr ⟨[], op, error, rfl, rfl, by simp⟩
  | bind _ _ one two =>
      intro state last transcript outcome conversed
      rcases converses_bind conversed with
        ⟨value, middle, earlier, later, rfl, started, ended⟩ | ⟨error, rfl, started⟩
      · obtain ⟨_, same, allEarlier⟩ | ⟨_, _, _, same, -⟩ := one started
        · rcases two value ended with
            ⟨result, returned, allLater⟩ | ⟨between, op, error, raised, rfl, allBetween⟩
          · refine .inl ⟨result, returned, ?_⟩
            intro exchange member
            rcases List.mem_append.mp member with before | after
            · exact allEarlier exchange before
            · exact allLater exchange after
          · refine .inr ⟨earlier ++ between, op, error, raised, by simp, ?_⟩
            intro exchange member
            rcases List.mem_append.mp member with before | after
            · exact allEarlier exchange before
            · exact allBetween exchange after
        · cases same
      · rcases one started with ⟨_, same, -⟩ | ⟨earlier, op, raised, same, rfl, succeeded⟩
        · cases same
        · cases same
          exact .inr ⟨earlier, op, _, rfl, rfl, succeeded⟩

/-! ## Conversations put together -/

section Together

variable {first : Computation Op Reply ε σ α} {next : α → Computation Op Reply ε σ β}
  {body : Computation Op Reply ε σ α} {state middle last : σ} {value : α} {error : ε}
  {one two : List (Exchange Op fun op => Except ε (Reply op))} {outcome : Except ε α × σ}

theorem Returns.bind {after : Except ε β × σ}
    (returned : (first state).Converses one (.ok value, middle))
    (continued : (next value middle).Converses two after) :
    ((first >>= next) state).Converses (one ++ two) after :=
  Program.converses_bind_iff.mpr ⟨one, _, two, rfl, returned, continued⟩

theorem Returns.ofExcept {after : Except ε β × σ}
    (continued : (next value state).Converses two after) :
    ((ofExcept (.ok value) >>= next) state).Converses two after := continued

theorem Raises.bind (raised : (first state).Converses one (.error error, middle)) :
    ((first >>= next) state).Converses one (.error error, middle) :=
  Program.converses_bind_iff.mpr ⟨one, _, [], by simp, raised, .done _⟩

theorem Returns.tryExcept {handler : ε → Computation Op Reply ε σ α}
    (returned : (body state).Converses one (.ok value, middle)) :
    (tryExcept body handler state).Converses one (.ok value, middle) :=
  Program.converses_bind_iff.mpr ⟨one, _, [], by simp, returned, .done _⟩

theorem Raises.tryExcept {handler : ε → Computation Op Reply ε σ α}
    (raised : (body state).Converses one (.error error, middle))
    (handled : (handler error middle).Converses two outcome) :
    (tryExcept body handler state).Converses (one ++ two) outcome :=
  Program.converses_bind_iff.mpr ⟨one, _, two, rfl, raised, handled⟩

theorem Returns.onExit {cleanup : Computation Op Reply ε σ Unit}
    (ended : (body state).Converses one outcome)
    (cleaned : (cleanup outcome.2).Converses two (.ok (), last)) :
    (onExit body cleanup state).Converses (one ++ two) (outcome.1, last) := by
  refine Program.converses_bind_iff.mpr ⟨one, _, two, rfl, ended, ?_⟩
  exact Program.converses_bind_iff.mpr ⟨two, _, [], by simp, cleaned, .done _⟩

theorem Returns.withState {τ : Type} {initial after : τ} {result : Except ε α}
    {body : Computation Op Reply ε τ α}
    (ended : (body initial).Converses one (result, after)) :
    (withState initial body state).Converses one (result, state) :=
  Program.converses_bind_iff.mpr ⟨one, _, [], by simp, ended, .done _⟩

end Together

end Computation

end Interaction
