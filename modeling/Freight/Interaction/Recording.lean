/-
Module: Freight.Interaction.Recording
Purpose: A system that keeps a record of everything its processes do, what the record
  says about the system without it, and laws that every process keeps because of its code.
Trusted boundary: none
Main exports:
  Entry, Recorded, Journal.exchangesOf, System.recorded, System.reachable_of_recorded,
  System.exists_recorded,
  Program.relabel, transcripts, transcripts_call, Computation.Within, Journal.Lawful,
  System.recorded_lawful, System.reachable_of_relabel
-/
import Freight.Interaction.Journal
import Freight.Interaction.Transcript
import Mathlib.Data.Sigma.Basic

namespace Interaction

/-! ## The record -/

/-- Something that a process did, with the state of affairs at that moment: an exchange with
the environment, or nothing any more. -/
structure Entry (Stamp Op : Type) (Answer : Op → Type) where
  stamp : Stamp
  exchange : Option (Exchange Op Answer)

instance {Stamp Op : Type} {Answer : Op → Type} [DecidableEq Stamp] [DecidableEq Op]
    [∀ op, DecidableEq (Answer op)] : DecidableEq (Entry Stamp Op Answer) :=
  fun one two =>
    decidable_of_iff (one.stamp = two.stamp ∧ one.exchange = two.exchange)
      ⟨fun same => by cases one; cases two; simp_all, fun same => by simp [same]⟩

/-- A world and the record of how it came about. -/
structure Recorded (World Stamp Op : Type) (Answer : Op → Type) where
  world : World
  log : Journal (Entry Stamp Op Answer) := []

/-- What a process has said. -/
def Journal.exchangesOf {Stamp Op : Type} {Answer : Op → Type}
    (log : Journal (Entry Stamp Op Answer)) (process : ProcessId) :
    List (Exchange Op Answer) :=
  (log.entriesOf process).filterMap Entry.exchange

namespace Journal

variable {Stamp Op : Type} {Answer : Op → Type} {log : Journal (Entry Stamp Op Answer)}
  {process other : ProcessId} {entry : Entry Stamp Op Answer} {exchange : Exchange Op Answer}

@[simp] theorem exchangesOf_nil :
    exchangesOf ([] : Journal (Entry Stamp Op Answer)) process = [] := rfl

theorem exchangesOf_snoc_self :
    exchangesOf (log ++ [(process, entry)]) process =
      log.exchangesOf process ++ entry.exchange.toList := by
  rw [exchangesOf, entriesOf_snoc_self, List.filterMap_append]
  cases same : entry.exchange <;> simp [exchangesOf, same]

theorem exchangesOf_snoc_of_ne (different : other ≠ process) :
    exchangesOf (log ++ [(process, entry)]) other = log.exchangesOf other := by
  rw [exchangesOf, entriesOf_snoc_of_ne different, exchangesOf]

/-- Something that a process has said is in an entry of its. -/
theorem exists_of_exchangesOf {earlier later : List (Exchange Op Answer)}
    (split : log.exchangesOf process = earlier ++ exchange :: later) :
    ∃ (before : Journal (Entry Stamp Op Answer)) (entry : Entry Stamp Op Answer)
      (after : Journal (Entry Stamp Op Answer)),
      log = before ++ (process, entry) :: after ∧ entry.exchange = some exchange ∧
        before.exchangesOf process = earlier := by
  obtain ⟨first, rest, whole, rfl, behind⟩ := List.filterMap_eq_append_iff.mp split
  obtain ⟨skipped, entry, last, rfl, silent, exchanged, -⟩ :=
    List.filterMap_eq_cons_iff.mp behind
  rw [← List.append_assoc] at whole
  obtain ⟨before, after, same, entries⟩ := exists_of_entriesOf whole
  refine ⟨before, entry, after, same, exchanged, ?_⟩
  rw [exchangesOf, entries, List.filterMap_append, List.filterMap_eq_nil_iff.mpr silent,
    List.append_nil]

theorem mem_exchangesOf :
    exchange ∈ log.exchangesOf process ↔
      ∃ entry, (process, entry) ∈ log ∧ entry.exchange = some exchange := by
  simp [exchangesOf, List.mem_filterMap]

end Journal

namespace System

variable {Op : Type} {Answer : Op → Type} {World Choice Stamp α : Type}

/-- The system with a record.  What the environment may choose may depend on what the process
has said before. -/
def recorded (system : System Op Answer World Choice α) (stamp : World → Stamp)
    (permits : List (Exchange Op Answer) → Op → Choice → Bool) :
    System Op Answer (Recorded World Stamp Op Answer) Choice α where
  act process op choice recorded :=
    if permits (recorded.log.exchangesOf process) op choice then
      (system.act process op choice recorded.world).map fun result =>
        (result.1,
          { world := result.2
            log := recorded.log ++
              [(process, { stamp := stamp recorded.world
                           exchange := some ⟨op, result.1⟩ })] })
    else none
  crash process recorded :=
    { world := system.crash process recorded.world
      log := recorded.log ++
        [(process, { stamp := stamp recorded.world, exchange := none })] }
  program := system.program

variable {system : System Op Answer World Choice α} {stamp : World → Stamp}
  {permits : List (Exchange Op Answer) → Op → Choice → Bool}

/-- What an operation of the system with a record does. -/
theorem recorded_act {process : ProcessId} {op : Op} {choice : Choice}
    {before after : Recorded World Stamp Op Answer} {answer : Answer op}
    (acted : (system.recorded stamp permits).act process op choice before =
      some (answer, after)) :
    permits (before.log.exchangesOf process) op choice = true ∧
      system.act process op choice before.world = some (answer, after.world) ∧
      after.log = before.log ++
        [(process, { stamp := stamp before.world, exchange := some ⟨op, answer⟩ })] := by
  simp only [recorded] at acted
  split at acted
  · rename_i permitted
    obtain ⟨⟨given, world⟩, acts, same⟩ := Option.map_eq_some_iff.mp acted
    cases same
    exact ⟨permitted, acts, rfl⟩
  · cases acted

/-- Without its record, a recorded run is a run. -/
theorem reachable_of_recorded {world : World}
    {state : State Op Answer (Recorded World Stamp Op Answer) α}
    (reached : (system.recorded stamp permits).Reachable { world := world } state) :
    system.Reachable world { world := state.world.world, processes := state.processes } := by
  obtain ⟨actions, ran⟩ := reached
  refine (system.recorded stamp permits).run_induction
    (motive := fun state => system.Reachable world
      { world := state.world.world, processes := state.processes }) ?_ ?_ ran
  · intro action state next reached stepped
    have taken : system.run [action]
        { world := state.world.world, processes := state.processes } =
          some { world := next.world.world, processes := next.processes } := by
      rcases (system.recorded stamp permits).step_cases stepped with
        ⟨process, choice, op, resume, answer, after, rfl, found, acted, rfl⟩ |
          ⟨process, program, rfl, found, rfl⟩
      · obtain ⟨-, acts, -⟩ := recorded_act acted
        simp [run, step, found, acts]
      · simp [run, step, found, recorded]
    exact Reachable.run system reached taken
  · exact ⟨[], rfl⟩

/-- Where every choice is permitted, every run can be recorded. -/
theorem exists_recorded (always : ∀ spoken op choice, permits spoken op choice = true)
    {world : World} {plain : State Op Answer World α} (reached : system.Reachable world plain) :
    ∃ state : State Op Answer (Recorded World Stamp Op Answer) α,
      (system.recorded stamp permits).Reachable { world := world } state ∧
        plain = { world := state.world.world, processes := state.processes } := by
  obtain ⟨actions, ran⟩ := reached
  refine system.run_induction
    (motive := fun plain => ∃ state : State Op Answer (Recorded World Stamp Op Answer) α,
      (system.recorded stamp permits).Reachable { world := world } state ∧
        plain = { world := state.world.world, processes := state.processes }) ?_ ?_ ran
  · rintro action _ next ⟨state, reached, rfl⟩ stepped
    rcases system.step_cases stepped with
      ⟨process, choice, op, resume, answer, after, rfl, found, acted, rfl⟩ |
        ⟨process, program, rfl, found, rfl⟩
    · change state.processes process = some (.perform op resume) at found
      change system.act process op choice state.world.world = some (answer, after) at acted
      let log := state.world.log ++
        [(process, { stamp := stamp state.world.world, exchange := some ⟨op, answer⟩ })]
      have moved : (system.recorded stamp permits).step (.perform process choice) state =
          some
            { world := { world := after, log := log }
              processes := Function.update state.processes process (some (resume answer)) } := by
        simp only [step, found, recorded, always, if_true, acted, Option.map_some, log]
      exact ⟨_, reached.step _ moved, rfl⟩
    · change state.processes process = some program at found
      have moved : (system.recorded stamp permits).step (.crash process) state =
          some
            { world := (system.recorded stamp permits).crash process state.world
              processes := Function.update state.processes process none } := by
        simp only [step, found]
      exact ⟨_, reached.step _ moved, rfl⟩
  · exact ⟨_, ⟨[], rfl⟩, rfl⟩

end System

/-! ## Operations under other names -/

namespace Program

variable {Op Op' : Type} {Answer : Op → Type} {α β : Type}

/-- The same program with less detailed operations. -/
def relabel (erase : Op' → Op) :
    Program Op' (fun op => Answer (erase op)) α → Program Op Answer α
  | .done value => .done value
  | .perform op resume => .perform (erase op) fun answer => (resume answer).relabel erase

theorem relabel_bind (Answer : Op → Type) (erase : Op' → Op)
    (program : Program Op' (fun op => Answer (erase op)) α)
    (next : α → Program Op' (fun op => Answer (erase op)) β) :
    (program.bind next).relabel erase =
      (program.relabel erase).bind fun value => (next value).relabel erase := by
  induction program with
  | done value => rfl
  | perform op resume inductionHypothesis =>
      exact congrArg (Program.perform (erase op)) (funext inductionHypothesis)

/-- Under less detailed names the program says as much. -/
theorem Confined.relabel {Answer : Op → Type} {erase : Op' → Op} {allowed : Op → Prop}
    {program : Program Op' (fun op => Answer (erase op)) α}
    (confined : program.Confined fun op => allowed (erase op)) :
    (program.relabel erase).Confined allowed := by
  induction program with
  | done value => trivial
  | perform op resume inductionHypothesis =>
      exact ⟨confined.1, fun answer => inductionHypothesis answer (confined.2 answer)⟩

end Program

namespace Computation

variable {Op Op' : Type} {Reply : Op → Type} {erase : Op' → Op} {ε σ α β : Type}

/-- The same computation with less detailed operations. -/
def relabel (erase : Op' → Op) (body : Computation Op' (fun op => Reply (erase op)) ε σ α) :
    Computation Op Reply ε σ α :=
  fun state => (body state).relabel erase

theorem relabel_bind (first : Computation Op' (fun op => Reply (erase op)) ε σ α)
    (next : α → Computation Op' (fun op => Reply (erase op)) ε σ β) :
    relabel erase (first >>= next) =
      relabel erase first >>= fun value => relabel erase (next value) := by
  funext state
  refine (Program.relabel_bind (fun op => Except ε (Reply op)) erase (first state)
    _).trans ?_
  refine congrArg (Program.bind _) (funext ?_)
  rintro ⟨outcome | outcome, after⟩ <;> rfl

theorem relabel_tryExcept (body : Computation Op' (fun op => Reply (erase op)) ε σ α)
    (handler : ε → Computation Op' (fun op => Reply (erase op)) ε σ α) :
    relabel erase (tryExcept body handler) =
      tryExcept (relabel erase body) fun error => relabel erase (handler error) := by
  funext state
  refine (Program.relabel_bind (fun op => Except ε (Reply op)) erase (body state)
    _).trans ?_
  refine congrArg (Program.bind _) (funext ?_)
  rintro ⟨outcome | outcome, after⟩ <;> rfl

theorem relabel_onExit (body : Computation Op' (fun op => Reply (erase op)) ε σ α)
    (cleanup : Computation Op' (fun op => Reply (erase op)) ε σ Unit) :
    relabel erase (onExit body cleanup) =
      onExit (relabel erase body) (relabel erase cleanup) := by
  funext state
  refine (Program.relabel_bind (fun op => Except ε (Reply op)) erase (body state)
    _).trans ?_
  refine congrArg (Program.bind _) (funext ?_)
  intro outcome
  refine (Program.relabel_bind (fun op => Except ε (Reply op)) erase
    (cleanup outcome.2) _).trans ?_
  refine congrArg (Program.bind _) (funext ?_)
  rintro ⟨cleaned | cleaned, after⟩ <;> rfl

end Computation

/-! ## Laws that a program keeps -/

section Transcripts

variable {Op : Type} {Answer : Op → Type} {α : Type}

/-- A program before its own transcript: the environment answers as it is permitted to, and
what is said has to be lawful after what has been said before. -/
noncomputable def transcripts
    (permitted law : List (Exchange Op Answer) → Exchange Op Answer → Prop) :
    Contract Op Answer (List (Exchange Op Answer)) (Exchange Op Answer) where
  act op exchange spoken :=
    open Classical in
    if same : exchange.1 = op then
      if permitted spoken exchange then some (same ▸ exchange.2, spoken ++ [exchange]) else none
    else none
  invariant _ := True
  rely := Eq
  guarantee spoken next := ∀ exchange, next = spoken ++ [exchange] → law spoken exchange

variable {permitted law : List (Exchange Op Answer) → Exchange Op Answer → Prop}
  {spoken : List (Exchange Op Answer)}

/-- The rule for one operation. -/
theorem transcripts_perform_iff {op : Op} {resume : Answer op → Program Op Answer α}
    {post : α → List (Exchange Op Answer) → Prop} :
    (transcripts permitted law).wp (.perform op resume) post spoken ↔
      ∀ answer, permitted spoken ⟨op, answer⟩ →
        law spoken ⟨op, answer⟩ ∧
          (transcripts permitted law).wp (resume answer) post (spoken ++ [⟨op, answer⟩]) := by
  constructor
  · intro verified answer possible
    have answered : (transcripts permitted law).act op ⟨op, answer⟩ spoken =
        some (answer, spoken ++ [⟨op, answer⟩]) := by
      simp only [transcripts, dif_pos, if_pos possible]
    obtain ⟨-, lawful, rest⟩ := verified spoken rfl trivial ⟨op, answer⟩ answer _ answered
    exact ⟨lawful _ rfl, rest⟩
  · intro verified moved same _ exchange answer after acted
    cases same
    simp only [transcripts] at acted
    split at acted
    · rename_i equality
      obtain ⟨asked, given⟩ := exchange
      cases equality
      split at acted
      · rename_i possible
        cases acted
        obtain ⟨lawful, rest⟩ := verified given possible
        refine ⟨trivial, ?_, rest⟩
        intro exchange equality
        cases List.append_cancel_left equality
        exact lawful
      · cases acted
    · cases acted

end Transcripts

section Computations

variable {Op : Type} {Reply : Op → Type} {ε σ : Type}
  {permitted law : List (Exchange Op fun op => Except ε (Reply op)) →
    (Exchange Op fun op => Except ε (Reply op)) → Prop}
  {spoken : List (Exchange Op fun op => Except ε (Reply op))} {state : σ}

/-- The rule for one operation of a computation. -/
theorem transcripts_call {op : Op}
    {post : Contract.Post ε σ (List (Exchange Op fun op => Except ε (Reply op))) (Reply op)}
    (verified : ∀ answer, permitted spoken ⟨op, answer⟩ →
      law spoken ⟨op, answer⟩ ∧ post answer state (spoken ++ [⟨op, answer⟩])) :
    (transcripts permitted law).holds (Computation.call op) post state spoken :=
  transcripts_perform_iff.mpr verified

end Computations

/-! ## Operations that do not occur -/

/-- A computation that performs only operations of one kind, as long as its private state is
as it should be, and leaves it so. -/
def Computation.Within {Op : Type} {Reply : Op → Type} {ε σ α : Type} (allowed : Op → Prop)
    (kept : σ → Prop) (body : Computation Op Reply ε σ α) : Prop :=
  ∀ state spoken, kept state →
    (transcripts (fun _ _ => True) fun _ said => allowed said.1).holds body
      (fun _ last _ => kept last) state spoken

namespace Computation.Within

variable {Op : Type} {Reply : Op → Type} {ε σ α β : Type} {allowed : Op → Prop}
  {kept : σ → Prop}

theorem pure {value : α} : Within allowed kept (pure value : Computation Op Reply ε σ α) :=
  fun _ _ good => good

theorem raise {error : ε} : Within allowed kept (raise error : Computation Op Reply ε σ α) :=
  fun _ _ good => good

theorem ofExcept {result : Except ε α} :
    Within allowed kept (ofExcept result : Computation Op Reply ε σ α) :=
  fun _ _ good => good

theorem modify {update : σ → σ} (keeps : ∀ state, kept state → kept (update state)) :
    Within allowed kept (modify update : Computation Op Reply ε σ Unit) :=
  fun state _ good => keeps state good

theorem call {op : Op} (permitted : allowed op) :
    Within allowed kept (call op : Computation Op Reply ε σ (Reply op)) := by
  intro state spoken good
  apply transcripts_call
  intro answer _
  exact ⟨permitted, good⟩

theorem bind {first : Computation Op Reply ε σ α} {next : α → Computation Op Reply ε σ β}
    (one : Within allowed kept first) (two : ∀ value, Within allowed kept (next value)) :
    Within allowed kept (first >>= next) := by
  intro state spoken good
  apply Contract.holds_bind
  refine Contract.holds_mono (one state spoken good) ?_
  intro outcome last said held
  cases outcome with
  | error error => exact held
  | ok value => exact two value last said held

/-- What is read from a private state that is as it should be is so. -/
theorem read_bind {next : σ → Computation Op Reply ε σ β}
    (rest : ∀ state, kept state → Within allowed kept (next state)) :
    Within allowed kept (read >>= next) := by
  intro state spoken good
  apply Contract.holds_bind
  exact Contract.holds_read (rest state good state spoken good)

theorem tryExcept {body : Computation Op Reply ε σ α}
    {handler : ε → Computation Op Reply ε σ α} (one : Within allowed kept body)
    (two : ∀ error, Within allowed kept (handler error)) :
    Within allowed kept (tryExcept body handler) := by
  intro state spoken good
  apply Contract.holds_tryExcept
  refine Contract.holds_mono (one state spoken good) ?_
  intro outcome last said held
  cases outcome with
  | error error => exact two error last said held
  | ok value => exact held

theorem onExit {body : Computation Op Reply ε σ α} {cleanup : Computation Op Reply ε σ Unit}
    (one : Within allowed kept body) (two : Within allowed kept cleanup) :
    Within allowed kept (onExit body cleanup) := by
  intro state spoken good
  apply Contract.holds_onExit
  refine Contract.holds_mono (one state spoken good) ?_
  intro outcome last said held
  refine Contract.holds_mono (two last said held) ?_
  intro cleaned final heard ended
  cases cleaned with
  | error error => exact ended
  | ok done => exact ended

theorem forEach {ι : Type} {body : ι → Computation Op Reply ε σ Unit} {items : List ι}
    (each : ∀ item ∈ items, Within allowed kept (body item)) :
    Within allowed kept (forEach body items) := by
  induction items with
  | nil => exact Within.pure
  | cons item items inductionHypothesis =>
      refine (each item List.mem_cons_self).bind ?_
      intro _
      exact inductionHypothesis fun other member => each other (List.mem_cons_of_mem _ member)

theorem ite {condition : Prop} [Decidable condition] {one two : Computation Op Reply ε σ α}
    (first : Within allowed kept one) (second : Within allowed kept two) :
    Within allowed kept (if condition then one else two) := by
  by_cases holds : condition
  · rwa [if_pos holds]
  · rwa [if_neg holds]

end Computation.Within

/-- Under other names the operations are lawful, if those of their kind are. -/
theorem transcripts_relabel {Op Op' : Type} {Answer : Op → Type} {erase : Op' → Op} {α : Type}
    {permitted law : List (Exchange Op Answer) → Exchange Op Answer → Prop}
    {allowed : Op' → Prop} {program : Program Op' (fun op => Answer (erase op)) α}
    {post : α → List (Exchange Op' fun op => Answer (erase op)) → Prop}
    (lawful : ∀ spoken op answer, allowed op → law spoken ⟨erase op, answer⟩) :
    ∀ {small spoken},
      (transcripts (fun _ _ => True) fun _ said => allowed said.1).wp program post small →
        (transcripts permitted law).wp (program.relabel erase) (fun _ _ => True) spoken := by
  induction program with
  | done value => exact fun _ => trivial
  | perform op resume inductionHypothesis =>
      intro small spoken verified
      refine transcripts_perform_iff.mpr ?_
      intro answer _
      obtain ⟨permitted, rest⟩ := transcripts_perform_iff.mp verified answer trivial
      exact ⟨lawful spoken op answer permitted, inductionHypothesis answer rest⟩

/-! ## Lawful records -/

/-- What every process says is lawful, and a process that has been killed says nothing. -/
def Journal.Lawful {Stamp Op : Type} {Answer : Op → Type}
    (law : ProcessId → List (Exchange Op Answer) → Exchange Op Answer → Prop)
    (log : Journal (Entry Stamp Op Answer)) : Prop :=
  log.Each fun earlier process entry =>
    (∀ former ∈ earlier.entriesOf process, former.exchange ≠ none) ∧
      ∀ exchange, entry.exchange = some exchange →
        law process (earlier.exchangesOf process) exchange

namespace System

variable {Op : Type} {Answer : Op → Type} {World Choice Stamp α : Type}
  {system : System Op Answer World Choice α} {stamp : World → Stamp}
  {permits : List (Exchange Op Answer) → Op → Choice → Bool}

/-- Run lemma: what the code of each process keeps, given what the environment may answer,
is kept in every record. -/
theorem recorded_lawful
    (permitted : ProcessId → List (Exchange Op Answer) → Exchange Op Answer → Prop)
    {law : ProcessId → List (Exchange Op Answer) → Exchange Op Answer → Prop}
    {post : ProcessId → α → List (Exchange Op Answer) → Prop}
    (acts : ∀ process spoken op choice world answer after,
      permits spoken op choice = true →
        system.act process op choice world = some (answer, after) →
          permitted process spoken ⟨op, answer⟩)
    (programs : ∀ process, (transcripts (permitted process) (law process)).wp
      (system.program process) (post process) [])
    {world : World} {state : State Op Answer (Recorded World Stamp Op Answer) α}
    (reached : (system.recorded stamp permits).Reachable { world := world } state) :
    Journal.Lawful law state.world.log ∧
      ∀ process program, state.processes process = some program →
        (∀ former ∈ state.world.log.entriesOf process, former.exchange ≠ none) ∧
          (transcripts (permitted process) (law process)).wp program (post process)
            (state.world.log.exchangesOf process) := by
  obtain ⟨actions, ran⟩ := reached
  refine (system.recorded stamp permits).run_induction
    (motive := fun state => Journal.Lawful law state.world.log ∧
      ∀ process program, state.processes process = some program →
        (∀ former ∈ state.world.log.entriesOf process, former.exchange ≠ none) ∧
          (transcripts (permitted process) (law process)).wp program (post process)
            (state.world.log.exchangesOf process)) ?_ ?_ ran
  · intro action state next held stepped
    obtain ⟨lawful, verified⟩ := held
    rcases (system.recorded stamp permits).step_cases stepped with
      ⟨process, choice, op, resume, answer, after, rfl, found, acted, rfl⟩ |
        ⟨process, program, rfl, found, rfl⟩
    · obtain ⟨possible, acts', logged⟩ := recorded_act acted
      obtain ⟨alive, rest⟩ := verified process _ found
      obtain ⟨own, continues⟩ := transcripts_perform_iff.mp rest answer
        (acts process _ op choice _ answer _ possible acts')
      constructor
      · rw [logged]
        refine Journal.Each.snoc lawful ⟨alive, ?_⟩
        intro exchange said
        cases said
        exact own
      · intro other program equality
        by_cases same : other = process
        · subst same
          simp only [Function.update_self, Option.some.injEq] at equality
          subst equality
          rw [logged]
          constructor
          · intro former member
            rw [Journal.entriesOf_snoc_self] at member
            rcases List.mem_append.mp member with before | last
            · exact alive former before
            · cases List.mem_singleton.mp last
              exact Option.some_ne_none _
          · rw [Journal.exchangesOf_snoc_self]
            exact continues
        · simp only [Function.update_of_ne same] at equality
          rw [logged, Journal.entriesOf_snoc_of_ne same, Journal.exchangesOf_snoc_of_ne same]
          exact verified other program equality
    · obtain ⟨alive, -⟩ := verified process _ found
      constructor
      · exact Journal.Each.snoc lawful ⟨alive, fun exchange said => nomatch said⟩
      · intro other rest equality
        by_cases same : other = process
        · subst same
          simp at equality
        · simp only [Function.update_of_ne same] at equality
          simp only [recorded, Journal.entriesOf_snoc_of_ne same,
            Journal.exchangesOf_snoc_of_ne same]
          exact verified other rest equality
  · refine ⟨Journal.Each.nil, ?_⟩
    intro process program equality
    cases equality
    constructor
    · intro former member
      cases Journal.mem_entriesOf.mp member
    · exact programs process

end System

/-! ## Less detailed runs -/

namespace System

variable {Op Op' : Type} {Answer : Op → Type} {World Choice α : Type}

/-- A run with more detailed operations is a run. -/
theorem reachable_of_relabel (erase : Op' → Op) (system : System Op Answer World Choice α)
    {detailed : System Op' (fun op => Answer (erase op)) World Choice α}
    (programs : ∀ process, (detailed.program process).relabel erase = system.program process)
    (acts : ∀ process op choice world answer after,
      detailed.act process op choice world = some (answer, after) →
        system.act process (erase op) choice world = some (answer, after))
    (crashes : ∀ process world, detailed.crash process world = system.crash process world)
    {world : World} {state : State Op' (fun op => Answer (erase op)) World α}
    (reached : detailed.Reachable world state) :
    system.Reachable world
      { world := state.world
        processes := fun process => (state.processes process).map (Program.relabel erase) } := by
  obtain ⟨actions, ran⟩ := reached
  refine detailed.run_induction
    (motive := fun state => system.Reachable world
      { world := state.world
        processes := fun process => (state.processes process).map (Program.relabel erase) })
    ?_ ?_ ran
  · intro action state next reached stepped
    have taken : system.run [action]
        { world := state.world
          processes := fun process => (state.processes process).map (Program.relabel erase) } =
        some
          { world := next.world
            processes :=
              fun process => (next.processes process).map (Program.relabel erase) } := by
      rcases detailed.step_cases stepped with
        ⟨process, choice, op, resume, answer, after, rfl, found, acted, rfl⟩ |
          ⟨process, program, rfl, found, rfl⟩
      · simp only [run, step, found, Option.map_some, Program.relabel,
          acts _ _ _ _ _ _ acted, Option.some.injEq, State.mk.injEq, true_and]
        funext other
        by_cases same : other = process
        · subst same
          simp
        · simp [Function.update_of_ne same]
      · simp only [run, step, found, Option.map_some, crashes, Option.some.injEq,
          State.mk.injEq, true_and]
        funext other
        by_cases same : other = process
        · subst same
          simp
        · simp [Function.update_of_ne same]
    exact Reachable.run system reached taken
  · refine ⟨[], ?_⟩
    simp only [run, initial, Option.map_some, programs]

end System

end Interaction
