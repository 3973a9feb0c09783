/-
Module: Freight.Interaction.Signals
Purpose: Programs that also give signals, which their environment only takes note of: the
  same programs without them, and the systems of both.
Trusted boundary: none
Main exports:
  Signalled, Program.silence, Computation.silence, Computation.plainly, Computation.emit,
  Computation.silence_bind, System.signalled, System.reachable_of_signalled,
  System.exists_signalled
-/
import Freight.Interaction.Recording

namespace Interaction

/-!
A signal is something that a program lets others know and that makes no difference to it: the
increment of a counter, a line of a log.  It is always given, and nothing comes back.
-/

/-- An operation, or a signal. -/
inductive Signalled (Op Signal : Type) where
  | act (op : Op)
  | signal (signal : Signal)
deriving DecidableEq

/-- What a signal is answered says nothing. -/
abbrev Signalled.Reply {Op Signal : Type} (Reply : Op → Type) : Signalled Op Signal → Type
  | .act op => Reply op
  | .signal _ => Unit

/-! ## Without the signals -/

namespace Program

variable {Op Signal : Type} {Reply : Op → Type} {ε α β : Type}

/-- The program without its signals. -/
def silence :
    Program (Signalled Op Signal) (fun op => Except ε (op.Reply Reply)) α →
      Program Op (fun op => Except ε (Reply op)) α
  | .done value => .done value
  | .perform (.act op) resume => .perform op fun answer => silence (resume answer)
  | .perform (.signal _) resume => silence (resume (.ok ()))

theorem silence_bind
    (program : Program (Signalled Op Signal) (fun op => Except ε (op.Reply Reply)) α)
    (next : α → Program (Signalled Op Signal) (fun op => Except ε (op.Reply Reply)) β) :
    (program.bind next).silence = program.silence.bind fun value => (next value).silence := by
  induction program with
  | done value => rfl
  | perform op resume inductionHypothesis =>
      cases op with
      | act op => exact congrArg (Program.perform op) (funext inductionHypothesis)
      | signal signal => exact inductionHypothesis (.ok ())

/-- Nothing has been added to a program that knows no signals. -/
theorem silence_relabel (program : Program Op (fun op => Except ε (Reply op)) α) :
    silence (Program.relabel Signalled.act program :
      Program (Signalled Op Signal) (fun op => Except ε (op.Reply Reply)) α) = program := by
  induction program with
  | done value => rfl
  | perform op resume inductionHypothesis =>
      exact congrArg (Program.perform op) (funext inductionHypothesis)

end Program

namespace Computation

variable {Op Signal : Type} {Reply : Op → Type} {ε σ τ α β : Type}

/-- The computation without its signals. -/
def silence (body : Computation (Signalled Op Signal) (Signalled.Reply Reply) ε σ α) :
    Computation Op Reply ε σ α := fun state => (body state).silence

/-- A computation that gives no signals. -/
def plainly (body : Computation Op Reply ε σ α) :
    Computation (Signalled Op Signal) (Signalled.Reply Reply) ε σ α :=
  relabel Signalled.act body

/-- Give a signal. -/
def emit (signal : Signal) : Computation (Signalled Op Signal) (Signalled.Reply Reply) ε σ Unit :=
  call (Signalled.signal signal)

@[simp] theorem silence_plainly (body : Computation Op Reply ε σ α) :
    silence (plainly body : Computation (Signalled Op Signal) (Signalled.Reply Reply) ε σ α) =
      body := funext fun state => Program.silence_relabel (body state)

@[simp] theorem silence_emit (signal : Signal) :
    silence (emit signal : Computation (Signalled Op Signal) (Signalled.Reply Reply) ε σ Unit) =
      pure () := rfl

@[simp] theorem silence_pure (value : α) :
    silence (pure value : Computation (Signalled Op Signal) (Signalled.Reply Reply) ε σ α) =
      pure value := rfl

@[simp] theorem silence_raise (error : ε) :
    silence (raise error : Computation (Signalled Op Signal) (Signalled.Reply Reply) ε σ α) =
      raise error := rfl

@[simp] theorem silence_ofExcept (result : Except ε α) :
    silence (ofExcept result : Computation (Signalled Op Signal) (Signalled.Reply Reply) ε σ α) =
      ofExcept result := rfl

theorem silence_bind
    (first : Computation (Signalled Op Signal) (Signalled.Reply Reply) ε σ α)
    (next : α → Computation (Signalled Op Signal) (Signalled.Reply Reply) ε σ β) :
    silence (first >>= next) = silence first >>= fun value => silence (next value) := by
  funext state
  apply (Program.silence_bind (first state) _).trans
  refine congrArg (Program.bind _) (funext ?_)
  intro outcome
  rcases outcome with ⟨error | value, after⟩ <;> rfl

theorem silence_tryExcept
    (body : Computation (Signalled Op Signal) (Signalled.Reply Reply) ε σ α)
    (handler : ε → Computation (Signalled Op Signal) (Signalled.Reply Reply) ε σ α) :
    silence (tryExcept body handler) =
      tryExcept (silence body) fun error => silence (handler error) := by
  funext state
  apply (Program.silence_bind (body state) _).trans
  refine congrArg (Program.bind _) (funext ?_)
  intro outcome
  rcases outcome with ⟨error | value, after⟩ <;> rfl

theorem silence_onExit
    (body : Computation (Signalled Op Signal) (Signalled.Reply Reply) ε σ α)
    (cleanup : Computation (Signalled Op Signal) (Signalled.Reply Reply) ε σ Unit) :
    silence (onExit body cleanup) = onExit (silence body) (silence cleanup) := by
  funext state
  apply (Program.silence_bind (body state) _).trans
  refine congrArg (Program.bind _) (funext ?_)
  intro outcome
  apply (Program.silence_bind (cleanup outcome.2) _).trans
  refine congrArg (Program.bind _) (funext ?_)
  intro cleaned
  rcases cleaned with ⟨error | value, after⟩ <;> rfl

theorem silence_withState (initial : τ)
    (body : Computation (Signalled Op Signal) (Signalled.Reply Reply) ε τ α) :
    silence (withState initial body : Computation (Signalled Op Signal)
      (Signalled.Reply Reply) ε σ α) = withState initial (silence body) := by
  funext state
  exact Program.silence_bind (body initial) _

end Computation

/-! ## Systems -/

namespace System

variable {Op Signal : Type} {Reply : Op → Type} {ε World Choice α : Type}

/-- The system of programs that give signals.  A signal leaves the world as it is. -/
def signalled (system : System Op (fun op => Except ε (Reply op)) World Choice α)
    (program : ProcessId →
      Program (Signalled Op Signal) (fun op => Except ε (op.Reply Reply)) α) :
    System (Signalled Op Signal) (fun op => Except ε (op.Reply Reply)) World (Option Choice)
      α where
  act process op choice world :=
    match op, choice with
    | .act op, some choice => system.act process op choice world
    | .signal _, none => some (.ok (), world)
    | _, _ => none
  crash := system.crash
  program := program

variable {system : System Op (fun op => Except ε (Reply op)) World Choice α}
  {program : ProcessId → Program (Signalled Op Signal) (fun op => Except ε (op.Reply Reply)) α}

/-- An operation does what it does in the system. -/
theorem signalled_act {process : ProcessId} {op : Op} {choice : Option Choice}
    {world after : World} {answer : Except ε (Reply op)}
    (acted : (system.signalled program).act process (.act op) choice world =
      some (answer, after)) :
    ∃ chosen, system.act process op chosen world = some (answer, after) := by
  cases choice with
  | none => cases acted
  | some chosen => exact ⟨chosen, acted⟩

/-- A signal does nothing. -/
theorem signalled_signal {process : ProcessId} {signal : Signal} {choice : Option Choice}
    {world after : World} {answer : Except ε Unit}
    (acted : (system.signalled program).act process (.signal signal) choice world =
      some (answer, after)) : answer = .ok () ∧ after = world := by
  cases choice with
  | none =>
      cases acted
      exact ⟨rfl, rfl⟩
  | some chosen => cases acted

/-- Without its signals, a run is a run. -/
theorem reachable_of_signalled
    (same : ∀ process, (program process).silence = system.program process) {world : World}
    {state : State (Signalled Op Signal) (fun op => Except ε (op.Reply Reply)) World α}
    (reached : (system.signalled program).Reachable world state) :
    system.Reachable world
      { world := state.world
        processes := fun process => (state.processes process).map Program.silence } := by
  obtain ⟨actions, ran⟩ := reached
  refine (system.signalled program).run_induction
    (motive := fun state => system.Reachable world
      { world := state.world
        processes := fun process => (state.processes process).map Program.silence }) ?_ ?_ ran
  · intro action state next reached stepped
    rcases (system.signalled program).step_cases stepped with
      ⟨process, choice, op, resume, answer, after, rfl, found, acted, rfl⟩ |
        ⟨process, rest, rfl, found, rfl⟩
    · cases op with
      | act op =>
          obtain ⟨chosen, acts⟩ := signalled_act acted
          refine reached.step system (?_ : system.step (.perform process chosen) _ = some _)
          simp only [step, found, Option.map_some, Program.silence, acts, Option.some.injEq,
            State.mk.injEq, true_and]
          exact (Function.comp_update (Option.map Program.silence) state.processes process
            (some (resume answer))).symm
      | signal signal =>
          -- the state without signals stays where it is
          obtain ⟨given, still⟩ := signalled_signal acted
          subst given
          subst still
          have idle : (fun other => (Function.update state.processes process
              (some (resume (.ok ()))) other).map Program.silence) =
                fun other => (state.processes other).map Program.silence := by
            apply (Function.comp_update (Option.map Program.silence) state.processes process
              (some (resume (.ok ())))).trans
            apply Function.update_eq_self_iff.mpr
            simp [found, Program.silence]
          rw [idle]
          exact reached
    · refine reached.step system (?_ : system.step (.crash process) _ = some _)
      simp only [step, found, Option.map_some, signalled, Option.some.injEq, State.mk.injEq,
        true_and]
      exact (Function.comp_update (Option.map Program.silence) state.processes process none).symm
  · refine ⟨[], ?_⟩
    simp only [run_nil, initial, Option.map_some, signalled, same]

/-- A process gives its signals until it comes to an operation. -/
theorem signalled_advance {world : World} {process : ProcessId} {op : Op}
    {resume : Except ε (Reply op) → Program Op (fun op => Except ε (Reply op)) α}
    (left : Program (Signalled Op Signal) (fun op => Except ε (op.Reply Reply)) α)
    (silent : left.silence = .perform op resume) :
    ∀ {state}, (system.signalled program).Reachable world state →
      state.processes process = some left →
        ∃ ahead : Except ε (Reply op) →
            Program (Signalled Op Signal) (fun op => Except ε (op.Reply Reply)) α,
          (∀ answer, (ahead answer).silence = resume answer) ∧
            (system.signalled program).Reachable world
              { world := state.world
                processes :=
                  Function.update state.processes process (some (.perform (.act op) ahead)) } := by
  induction left with
  | done value => cases silent
  | perform asked continues inductionHypothesis =>
      intro state reached found
      cases asked with
      | act asked =>
          cases silent
          refine ⟨continues, fun answer => rfl, ?_⟩
          rw [← found, Function.update_eq_self]
          exact reached
      | signal signal =>
          have moved : (system.signalled program).step (.perform process none) state =
              some
                { world := state.world
                  processes :=
                    Function.update state.processes process (some (continues (.ok ()))) } := by
            simp only [step, found, signalled]
          obtain ⟨ahead, same, further⟩ := inductionHypothesis (.ok ()) silent
            (reached.step _ moved) (Function.update_self ..)
          refine ⟨ahead, same, ?_⟩
          simpa only [Function.update_idem] using further

/-- Every run can be had with signals. -/
theorem exists_signalled (same : ∀ process, (program process).silence = system.program process)
    {world : World} {plain : State Op (fun op => Except ε (Reply op)) World α}
    (reached : system.Reachable world plain) :
    ∃ state, (system.signalled program).Reachable world state ∧
      plain = { world := state.world
                processes := fun process => (state.processes process).map Program.silence } := by
  obtain ⟨actions, ran⟩ := reached
  refine system.run_induction
    (motive := fun plain => ∃ state, (system.signalled program).Reachable world state ∧
      plain = { world := state.world
                processes := fun process => (state.processes process).map Program.silence })
    ?_ ?_ ran
  · rintro action _ next ⟨state, reached, rfl⟩ stepped
    rcases system.step_cases stepped with
      ⟨process, choice, op, resume, answer, after, rfl, found, acted, rfl⟩ |
        ⟨process, rest, rfl, found, rfl⟩
    · obtain ⟨left, here, silent⟩ := Option.map_eq_some_iff.mp found
      obtain ⟨ahead, continues, further⟩ := signalled_advance left silent reached here
      change system.act process op choice state.world = some (answer, after) at acted
      have moved : (system.signalled program).step (.perform process (some choice))
          { world := state.world
            processes :=
              Function.update state.processes process (some (.perform (.act op) ahead)) } =
          some
            { world := after
              processes := Function.update state.processes process (some (ahead answer)) } := by
        simp only [step, Function.update_self, signalled, acted, Function.update_idem]
      refine ⟨_, further.step _ moved, ?_⟩
      simp only [State.mk.injEq, true_and]
      rw [← continues answer]
      exact (Function.comp_update (Option.map Program.silence) state.processes process
        (some (ahead answer))).symm
    · obtain ⟨left, here, silent⟩ := Option.map_eq_some_iff.mp found
      have moved : (system.signalled program).step (.crash process) state =
          some
            { world := system.crash process state.world
              processes := Function.update state.processes process none } := by
        simp only [step, here, signalled]
      refine ⟨_, reached.step _ moved, ?_⟩
      simp only [State.mk.injEq, true_and]
      exact (Function.comp_update (Option.map Program.silence) state.processes process none).symm
  · refine ⟨_, ⟨[], rfl⟩, ?_⟩
    simp only [initial, Option.map_some, signalled, same]

end System

end Interaction
