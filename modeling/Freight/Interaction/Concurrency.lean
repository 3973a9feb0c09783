/-
Module: Freight.Interaction.Concurrency
Purpose: Any number of interaction programs over one world, interleaved one
  operation at a time, each of which may be killed between two operations.
Trusted boundary: none
Main exports:
  System, System.State, System.Action, System.step, System.run,
  System.Reachable, System.run_append, System.run_induction, System.Verified,
  System.Verified.invariant_reachable, System.Verified.post_reachable,
  System.Verified.relation_run, System.Verified.post_run
-/
import Freight.Interaction.Contract
import Mathlib.Logic.Function.Basic

namespace Interaction

/-- Processes are numbered; a run touches finitely many of them. -/
abbrev ProcessId := Nat

/-- A family of programs over one shared world.  `crash` is what the world does
when a process disappears. -/
structure System (Op : Type) (Answer : Op → Type) (World Choice α : Type) where
  act : ProcessId → Program.Interpreter Op Answer World Choice
  crash : ProcessId → World → World
  program : ProcessId → Program Op Answer α

namespace System

variable {Op : Type} {Answer : Op → Type} {World Choice α : Type}

/-- The world and what is left of each program; `none` after a crash. -/
structure State (Op : Type) (Answer : Op → Type) (World α : Type) where
  world : World
  processes : ProcessId → Option (Program Op Answer α)

/-- A scheduler decision. -/
inductive Action (Choice : Type) where
  | perform (process : ProcessId) (choice : Choice)
  | crash (process : ProcessId)
deriving DecidableEq

def Action.process {Choice : Type} : Action Choice → ProcessId
  | .perform process _ | .crash process => process

variable (system : System Op Answer World Choice α)

/-- Every program at its beginning. -/
def initial (world : World) : State Op Answer World α :=
  { world := world, processes := fun process => some (system.program process) }

/-- One scheduler decision; `none` when it is not possible, in particular when
the process waits for another one. -/
def step (action : Action Choice) (state : State Op Answer World α) :
    Option (State Op Answer World α) :=
  match action with
  | .perform process choice =>
      match state.processes process with
      | some (.perform op resume) =>
          match system.act process op choice state.world with
          | some (answer, world) =>
              some
                { world := world
                  processes :=
                    Function.update state.processes process (some (resume answer)) }
          | none => none
      | _ => none
  | .crash process =>
      match state.processes process with
      | some _ =>
          some
            { world := system.crash process state.world
              processes := Function.update state.processes process none }
      | none => none

/-- A finite run, chosen by a scheduler. -/
def run : List (Action Choice) → State Op Answer World α → Option (State Op Answer World α)
  | [], state => some state
  | action :: actions, state =>
      match system.step action state with
      | some next => run actions next
      | none => none

/-- States reached by some finite run from a world. -/
def Reachable (world : World) (state : State Op Answer World α) : Prop :=
  ∃ actions, system.run actions (system.initial world) = some state

@[simp] theorem run_nil (state : State Op Answer World α) :
    system.run [] state = some state := rfl

theorem run_cons {action : Action Choice} {actions : List (Action Choice)}
    {state next : State Op Answer World α} (stepped : system.step action state = some next) :
    system.run (action :: actions) state = system.run actions next := by
  simp [run, stepped]

theorem run_append {first second : List (Action Choice)}
    {state : State Op Answer World α} :
    system.run (first ++ second) state = (system.run first state).bind (system.run second) := by
  induction first generalizing state with
  | nil => rfl
  | cons action actions inductionHypothesis =>
      simp only [List.cons_append, run]
      cases system.step action state with
      | none => rfl
      | some next => exact inductionHypothesis

/-- A run that reaches a state and goes on reaches a state again. -/
theorem Reachable.run {world : World} {state final : State Op Answer World α}
    (reached : system.Reachable world state) {actions : List (Action Choice)}
    (ran : system.run actions state = some final) : system.Reachable world final := by
  obtain ⟨earlier, equality⟩ := reached
  exact ⟨earlier ++ actions, by rw [run_append, equality]; exact ran⟩

theorem Reachable.step {world : World} {state next : State Op Answer World α}
    (reached : system.Reachable world state) {action : Action Choice}
    (stepped : system.step action state = some next) : system.Reachable world next :=
  reached.run system ((system.run_cons stepped).trans (system.run_nil next))

/-- What a step does: an operation of one process, or a crash of one. -/
theorem step_cases {action : Action Choice} {state next : State Op Answer World α}
    (stepped : system.step action state = some next) :
    (∃ process choice op resume answer world,
        action = .perform process choice ∧
        state.processes process = some (.perform op resume) ∧
        system.act process op choice state.world = some (answer, world) ∧
        next = { world := world
                 processes :=
                  Function.update state.processes process (some (resume answer)) }) ∨
      (∃ process program,
        action = .crash process ∧
        state.processes process = some program ∧
        next = { world := system.crash process state.world
                 processes := Function.update state.processes process none }) := by
  cases action with
  | perform process choice =>
      left
      simp only [step] at stepped
      split at stepped
      · rename_i op resume found
        split at stepped
        · rename_i answer world acted
          exact ⟨process, choice, op, resume, answer, world, rfl, found, acted,
            (Option.some.inj stepped).symm⟩
        · cases stepped
      · cases stepped
  | crash process =>
      right
      simp only [step] at stepped
      split at stepped
      · rename_i program found
        exact ⟨process, program, rfl, found, (Option.some.inj stepped).symm⟩
      · cases stepped

/-- An induction principle for runs: what holds of one state and is kept by
every step holds of every state reached from it. -/
theorem run_induction {motive : State Op Answer World α → Prop}
    (keeps : ∀ action state next, motive state → system.step action state = some next →
      motive next) :
    ∀ {actions : List (Action Choice)} {state final : State Op Answer World α},
      motive state → system.run actions state = some final → motive final := by
  intro actions
  induction actions with
  | nil =>
      intro state final start ran
      cases ran
      exact start
  | cons action actions inductionHypothesis =>
      intro state final start ran
      simp only [run] at ran
      split at ran
      · rename_i next stepped
        exact inductionHypothesis (keeps action state next start stepped) ran
      · cases ran

/-! ## Verification of a family of programs -/

/-- How the processes of a system share the world: an invariant they all keep,
what each may assume of the others and what each owes them. -/
structure Discipline (World : Type) where
  invariant : World → Prop
  rely : ProcessId → World → World → Prop
  guarantee : ProcessId → World → World → Prop

/-- The contract of one process under a discipline. -/
def contract (discipline : Discipline World) (process : ProcessId) :
    Contract Op Answer World Choice where
  act := system.act process
  invariant := discipline.invariant
  rely := discipline.rely process
  guarantee := discipline.guarantee process

/-- The obligations under which every program may be verified on its own. -/
structure Verified (discipline : Discipline World)
    (post : ProcessId → α → World → Prop) (start : World) : Prop where
  refl : ∀ process world, discipline.rely process world world
  trans : ∀ process first second third,
    discipline.rely process first second → discipline.rely process second third →
      discipline.rely process first third
  stable : ∀ process value,
    (system.contract discipline process).Stable (post process value)
  compatible : ∀ process other before after, process ≠ other →
    discipline.guarantee process before after → discipline.rely other before after
  crash : ∀ process world, discipline.invariant world →
    discipline.invariant (system.crash process world) ∧
      ∀ other, process ≠ other →
        discipline.rely other world (system.crash process world)
  begins : discipline.invariant start
  programs : ∀ process,
    (system.contract discipline process).wp (system.program process) (post process) start

/-- What the obligations establish at one state: the invariant, and for each
process still alive that the rest of its program is verified. -/
def Sound (discipline : Discipline World) (post : ProcessId → α → World → Prop)
    (state : State Op Answer World α) : Prop :=
  discipline.invariant state.world ∧
    ∀ process program, state.processes process = some program →
      (system.contract discipline process).wp program (post process) state.world

namespace Verified

variable {system} {discipline : Discipline World}
  {post : ProcessId → α → World → Prop} {start : World}

theorem sound_initial (verified : system.Verified discipline post start) :
    system.Sound discipline post (system.initial start) := by
  refine ⟨verified.begins, ?_⟩
  intro process program equality
  cases equality
  exact verified.programs process

/-- The rest of a program survives whatever another process does. -/
theorem wp_of_rely (verified : system.Verified discipline post start)
    {process : ProcessId} {program : Program Op Answer α} {before after : World}
    {promise : α → World → Prop}
    (stable : ∀ value, (system.contract discipline process).Stable (promise value))
    (holds : (system.contract discipline process).wp program promise before)
    (moved : discipline.rely process before after)
    (kept : discipline.invariant after) :
    (system.contract discipline process).wp program promise after :=
  Contract.wp_stable (fun {_ _ _} => verified.trans process _ _ _) stable before after holds
    moved kept

/-- Step lemma: an operation of one process, or a crash of one, keeps the invariant, and
every process verified for whatever it has been verified for. -/
theorem wp_step (verified : system.Verified discipline post start)
    {action : Action Choice} {state next : State Op Answer World α}
    (sound : system.Sound discipline post state)
    (stepped : system.step action state = some next) :
    discipline.invariant next.world ∧
      ∀ (other : ProcessId) (promise : α → World → Prop),
        (∀ value, (system.contract discipline other).Stable (promise value)) →
        (∀ program, state.processes other = some program →
          (system.contract discipline other).wp program promise state.world) →
        ∀ program, next.processes other = some program →
          (system.contract discipline other).wp program promise next.world := by
  obtain ⟨kept, programs⟩ := sound
  rcases system.step_cases stepped with
    ⟨process, choice, op, resume, answer, world, rfl, found, acted, rfl⟩ |
      ⟨process, program, rfl, found, rfl⟩
  · obtain ⟨invariant, guarantee, -⟩ :=
      programs process _ found state.world (verified.refl process state.world) kept
        choice answer world acted
    refine ⟨invariant, ?_⟩
    intro other promise stable holds program equality
    by_cases same : other = process
    · subst same
      simp only [Function.update_self, Option.some.injEq] at equality
      have rest := holds _ found state.world (verified.refl other state.world) kept choice
        answer world acted
      exact equality ▸ rest.2.2
    · simp only [Function.update_of_ne same] at equality
      exact verified.wp_of_rely stable (holds program equality)
        (verified.compatible process other _ _ (Ne.symm same) guarantee) invariant
  · obtain ⟨invariant, disturbs⟩ := verified.crash process state.world kept
    refine ⟨invariant, ?_⟩
    intro other promise stable holds rest equality
    by_cases same : other = process
    · subst same
      simp at equality
    · simp only [Function.update_of_ne same] at equality
      exact verified.wp_of_rely stable (holds rest equality)
        (disturbs other (Ne.symm same)) invariant

/-- So the state stays sound. -/
theorem sound_step (verified : system.Verified discipline post start)
    {action : Action Choice} {state next : State Op Answer World α}
    (sound : system.Sound discipline post state)
    (stepped : system.step action state = some next) :
    system.Sound discipline post next := by
  obtain ⟨invariant, keeps⟩ := verified.wp_step sound stepped
  exact ⟨invariant, fun other =>
    keeps other (post other) (verified.stable other) (sound.2 other)⟩

/-- Run lemma: every reachable state satisfies the invariant, and every process
alive there is verified for the rest of its program. -/
theorem sound_reachable (verified : system.Verified discipline post start)
    {state : State Op Answer World α} (reached : system.Reachable start state) :
    system.Sound discipline post state := by
  obtain ⟨actions, ran⟩ := reached
  exact system.run_induction (motive := system.Sound discipline post)
    (fun action state next sound stepped => verified.sound_step sound stepped)
    verified.sound_initial ran

theorem invariant_reachable (verified : system.Verified discipline post start)
    {state : State Op Answer World α} (reached : system.Reachable start state) :
    discipline.invariant state.world :=
  (verified.sound_reachable reached).1

/-- A process that has finished in a reachable state satisfies its
postcondition there. -/
theorem post_reachable (verified : system.Verified discipline post start)
    {state : State Op Answer World α} (reached : system.Reachable start state)
    {process : ProcessId} {value : α}
    (finished : state.processes process = some (.done value)) :
    post process value state.world :=
  (verified.sound_reachable reached).2 process _ finished

/-- Whatever every operation and every crash does, a run does. -/
theorem relation_run (verified : system.Verified discipline post start)
    (relation : World → World → Prop) (refl : ∀ world, relation world world)
    (trans : ∀ first second third, relation first second → relation second third →
      relation first third)
    (performs : ∀ process before after, discipline.guarantee process before after →
      relation before after)
    (crashes : ∀ process world, relation world (system.crash process world))
    {state final : State Op Answer World α} (reached : system.Reachable start state)
    {actions : List (Action Choice)} (ran : system.run actions state = some final) :
    relation state.world final.world := by
  have last := system.run_induction
    (motive := fun middle => system.Sound discipline post middle ∧
      relation state.world middle.world)
    (fun action middle next both stepped => by
      refine ⟨verified.sound_step both.1 stepped, trans _ _ _ both.2 ?_⟩
      rcases system.step_cases stepped with
        ⟨process, choice, op, resume, answer, world, rfl, found, acted, rfl⟩ |
          ⟨process, program, rfl, found, rfl⟩
      · exact performs process _ _ (both.1.2 process _ found middle.world
          (verified.refl process middle.world) both.1.1 choice answer world acted).2.1
      · exact crashes process middle.world)
    ⟨verified.sound_reachable reached, refl state.world⟩ ran
  exact last.2

/-- A process that has been verified anew in a reachable state keeps that promise as
well, if it finishes later on. -/
theorem post_run (verified : system.Verified discipline post start)
    {state final : State Op Answer World α} (reached : system.Reachable start state)
    {process : ProcessId} (promise : α → World → Prop)
    (stable : ∀ value, (system.contract discipline process).Stable (promise value))
    (holds : ∀ program, state.processes process = some program →
      (system.contract discipline process).wp program promise state.world)
    {actions : List (Action Choice)} (ran : system.run actions state = some final)
    {value : α} (finished : final.processes process = some (.done value)) :
    promise value final.world := by
  have last := system.run_induction
    (motive := fun state => system.Sound discipline post state ∧
      ∀ program, state.processes process = some program →
        (system.contract discipline process).wp program promise state.world)
    (fun action state next both stepped =>
      ⟨verified.sound_step both.1 stepped,
        (verified.wp_step both.1 stepped).2 process promise stable both.2⟩)
    ⟨verified.sound_reachable reached, holds⟩ ran
  exact last.2 _ finished

end Verified

end System

end Interaction
