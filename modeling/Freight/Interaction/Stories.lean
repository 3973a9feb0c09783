/-
Module: Freight.Interaction.Stories
Purpose: What the conversations of a program show of it, the finitely many courses that this
  may take, and what the processes of a system show together.
Trusted boundary: none
Main exports:
  story, Begins, Telling, transcripts_tell, transcripts_quiet, Journal.total_induction,
  Journal.told, Journal.tally, Journal.tally_induction, Journal.Lawful.begins
-/
import Freight.Interaction.Recording
import Mathlib.Algebra.BigOperators.Group.Finset.Basic
import Mathlib.Algebra.BigOperators.Group.Finset.Piecewise
import Mathlib.Algebra.Group.Nat.Defs
import Mathlib.Algebra.Group.Pi.Basic

namespace Interaction

/-! ## Courses -/

section Courses

variable {Event : Type} {courses : List (List Event)} {told : List Event}

/-- Events with which some course begins. -/
def Begins (courses : List (List Event)) (told : List Event) : Prop :=
  ∃ course ∈ courses, told <+: course

instance [DecidableEq Event] (courses : List (List Event)) (told : List Event) :
    Decidable (Begins courses told) :=
  inferInstanceAs (Decidable (∃ course ∈ courses, told <+: course))

theorem Begins.of_mem (member : told ∈ courses) : Begins courses told :=
  ⟨told, member, List.prefix_rfl⟩

theorem Begins.of_append {more : List Event} (begins : Begins courses (told ++ more)) :
    Begins courses told := by
  obtain ⟨course, member, before⟩ := begins
  exact ⟨course, member, (List.prefix_append told more).trans before⟩

/-- What holds of every beginning of every course holds of events with which one begins. -/
theorem Begins.all {property : List Event → Prop} (begins : Begins courses told)
    (each : ∀ course ∈ courses, ∀ early ∈ course.inits, property early) : property told := by
  obtain ⟨course, member, before⟩ := begins
  exact each course member told ((List.mem_inits told course).mpr before)

end Courses

/-! ## What is shown -/

section Shown

variable {Op : Type} {Answer : Op → Type} {Event α : Type}

/-- What a conversation shows. -/
def story (shows : Exchange Op Answer → Option Event) (spoken : List (Exchange Op Answer)) :
    List Event := spoken.filterMap shows

variable {shows : Exchange Op Answer → Option Event} {spoken : List (Exchange Op Answer)}
  {permitted : List (Exchange Op Answer) → Exchange Op Answer → Prop}
  {courses : List (List Event)} {told : List Event}

theorem story_snoc (said : Exchange Op Answer) :
    story shows (spoken ++ [said]) = story shows spoken ++ (shows said).toList := by
  rw [story, story, List.filterMap_append]
  cases shown : shows said <;> simp [shown]

/-- The law that every exchange leaves events with which a course begins. -/
def Telling (shows : Exchange Op Answer → Option Event) (courses : List (List Event))
    (spoken : List (Exchange Op Answer)) (said : Exchange Op Answer) : Prop :=
  Begins courses (story shows (spoken ++ [said]))

/-- The rule for one operation. -/
theorem transcripts_tell {op : Op} {resume : Answer op → Program Op Answer α}
    {post : α → List (Exchange Op Answer) → Prop} (so : story shows spoken = told)
    (verified : ∀ answer, permitted spoken ⟨op, answer⟩ →
      Begins courses (told ++ (shows ⟨op, answer⟩).toList) ∧
        ∀ next, story shows next = told ++ (shows ⟨op, answer⟩).toList →
          (transcripts permitted (Telling shows courses)).wp (resume answer) post next) :
    (transcripts permitted (Telling shows courses)).wp (.perform op resume) post spoken := by
  apply transcripts_perform_iff.mpr
  intro answer possible
  obtain ⟨begins, rest⟩ := verified answer possible
  have shown : story shows (spoken ++ [⟨op, answer⟩]) =
      told ++ (shows ⟨op, answer⟩).toList := by rw [story_snoc, so]
  constructor
  · rw [Telling, shown]
    exact begins
  · exact rest _ shown

/-- The rule for code that shows nothing. -/
theorem transcripts_quiet {allowed : Op → Prop} {program : Program Op Answer α}
    (confined : program.Confined allowed)
    (quiet : ∀ op answer, allowed op → shows ⟨op, answer⟩ = none)
    (begins : Begins courses told) :
    ∀ {spoken}, story shows spoken = told →
      (transcripts permitted (Telling shows courses)).wp program
        (fun _ next => story shows next = told) spoken := by
  induction program with
  | done value => exact fun so => so
  | perform op resume inductionHypothesis =>
      intro spoken so
      apply transcripts_tell so
      intro answer _
      rw [quiet op answer confined.1, Option.toList_none, List.append_nil]
      exact ⟨begins, fun next same => inductionHypothesis answer (confined.2 answer) same⟩

end Shown

section Computations

variable {Op : Type} {Reply : Op → Type} {Event ε σ α : Type}
  {shows : (Exchange Op fun op => Except ε (Reply op)) → Option Event}
  {spoken : List (Exchange Op fun op => Except ε (Reply op))} {state : σ}
  {permitted : List (Exchange Op fun op => Except ε (Reply op)) →
    (Exchange Op fun op => Except ε (Reply op)) → Prop}
  {courses : List (List Event)} {told : List Event}

/-- The rule for one operation of a computation. -/
theorem holds_tell {op : Op}
    {post : Contract.Post ε σ (List (Exchange Op fun op => Except ε (Reply op))) (Reply op)}
    (so : story shows spoken = told)
    (verified : ∀ answer, permitted spoken ⟨op, answer⟩ →
      Begins courses (told ++ (shows ⟨op, answer⟩).toList) ∧
        ∀ next, story shows next = told ++ (shows ⟨op, answer⟩).toList →
          post answer state next) :
    (transcripts permitted (Telling shows courses)).holds (Computation.call op) post state
      spoken := transcripts_tell so verified

/-- The rule for code that shows nothing. -/
theorem holds_quiet {allowed : Op → Prop} {body : Computation Op Reply ε σ α}
    (confined : body.Confined allowed)
    (quiet : ∀ op answer, allowed op → shows ⟨op, answer⟩ = none)
    (begins : Begins courses told) (so : story shows spoken = told) :
    (transcripts permitted (Telling shows courses)).holds body
      (fun _ _ next => story shows next = told) state spoken :=
  transcripts_quiet (confined state) quiet begins so

end Computations

/-! ## Together -/

namespace Journal

variable {α M : Type} [AddCommMonoid M]

/-- What all entries come to. -/
def total (gain : ProcessId → α → M) (journal : Journal α) : M :=
  (journal.map fun entry => gain entry.1 entry.2).sum

variable {gain : ProcessId → α → M} {journal : Journal α}

/-- The entries come to what those of each process come to. -/
theorem total_eq_sum (processes : Finset ProcessId)
    (owners : ∀ entry ∈ journal, entry.1 ∈ processes) :
    journal.total gain =
      ∑ process ∈ processes, ((journal.entriesOf process).map (gain process)).sum := by
  induction journal with
  | nil => simp [total]
  | cons entry journal inductionHypothesis =>
      obtain ⟨own, others⟩ := List.forall_mem_cons.mp owners
      have each : ∀ process,
          ((entriesOf (entry :: journal) process).map (gain process)).sum =
            (if entry.1 = process then gain process entry.2 else 0) +
              ((entriesOf journal process).map (gain process)).sum := by
        intro process
        by_cases mine : entry.1 = process
        · simp [entriesOf, mine]
        · simp [entriesOf, mine]
      have rest := inductionHypothesis others
      rw [total] at rest ⊢
      simp only [each, Finset.sum_add_distrib, Finset.sum_ite_eq, own, if_true, List.map_cons,
        List.sum_cons, rest]

/-- What holds of every process, and of two of them together if it holds of each, holds of all
together. -/
theorem total_induction {property : M → Prop} (nothing : property 0)
    (together : ∀ one two, property one → property two → property (one + two))
    (each : ∀ process, property ((journal.entriesOf process).map (gain process)).sum) :
    property (journal.total gain) := by
  rw [total_eq_sum (journal.map Prod.fst).toFinset
    fun entry member => List.mem_toFinset.mpr (List.mem_map_of_mem member)]
  exact Finset.sum_induction _ property together nothing fun process _ => each process

/-! ### Events of all processes -/

variable {Stamp Op Event : Type} {Answer : Op → Type}

/-- Everything that is shown, in its order. -/
def told (shows : ProcessId → Exchange Op Answer → Option Event)
    (log : Journal (Entry Stamp Op Answer)) : List Event :=
  log.filterMap fun entry => entry.2.exchange.bind (shows entry.1)

variable {shows : ProcessId → Exchange Op Answer → Option Event}
  {log : Journal (Entry Stamp Op Answer)} {process : ProcessId} {entry : Entry Stamp Op Answer}

theorem told_snoc :
    told shows (log ++ [(process, entry)]) =
      log.told shows ++ (entry.exchange.bind (shows process)).toList := by
  rw [told, told, List.filterMap_append]
  cases shown : entry.exchange.bind (shows process) <;> simp [shown]

/-- What a process has shown. -/
theorem story_exchangesOf :
    story (shows process) (log.exchangesOf process) =
      (log.entriesOf process).filterMap fun entry => entry.exchange.bind (shows process) := by
  rw [story, exchangesOf, List.filterMap_filterMap]

/-- How often each event occurs. -/
def tally [DecidableEq Event] (events : List Event) : Event → Nat := fun event =>
  events.count event

/-- A property of the numbers of events that holds of each process holds of all together, if it
holds of sums. -/
theorem tally_induction [DecidableEq Event] {property : (Event → Nat) → Prop}
    (nothing : property fun _ => 0)
    (together : ∀ one two, property one → property two →
      property fun event => one event + two event)
    (each : ∀ process, property (tally (story (shows process) (log.exchangesOf process)))) :
    property (tally (log.told shows)) := by
  let gain : ProcessId → Entry Stamp Op Answer → Event → Nat := fun process entry =>
    tally (entry.exchange.bind (shows process)).toList
  have counted : ∀ (process : ProcessId) (entries : List (Entry Stamp Op Answer)),
      (entries.map (gain process)).sum =
        tally (entries.filterMap fun entry => entry.exchange.bind (shows process)) := by
    intro process entries
    induction entries with
    | nil => rfl
    | cons entry entries inductionHypothesis =>
        rw [List.map_cons, List.sum_cons, inductionHypothesis]
        funext event
        cases shown : entry.exchange.bind (shows process) with
        | none => simp [gain, tally, shown]
        | some one => simp [gain, tally, shown, List.count_cons, Nat.add_comm]
  have whole : ∀ log : Journal (Entry Stamp Op Answer),
      total gain log = tally (told shows log) := by
    intro log
    induction log with
    | nil => rfl
    | cons entry log inductionHypothesis =>
        rw [total, List.map_cons, List.sum_cons, ← total, inductionHypothesis]
        funext event
        cases shown : entry.2.exchange.bind (shows entry.1) with
        | none => simp [gain, told, tally, shown]
        | some one => simp [gain, told, tally, shown, List.count_cons, Nat.add_comm]
  rw [← whole log]
  apply total_induction nothing together
  intro process
  rw [counted, ← story_exchangesOf]
  exact each process

/-- Where everything that a process says is within its courses, so is what it has shown. -/
theorem Lawful.begins {courses : ProcessId → List (List Event)}
    (lawful : Lawful (fun process => Telling (shows process) (courses process)) log)
    (start : Begins (courses process) []) :
    Begins (courses process) (story (shows process) (log.exchangesOf process)) := by
  rcases List.eq_nil_or_concat (log.exchangesOf process) with empty | ⟨earlier, last, split⟩
  · rw [empty]
    exact start
  · rw [List.concat_eq_append] at split
    obtain ⟨before, entry, after, rfl, said, rfl⟩ := exists_of_exchangesOf split
    rw [split]
    exact lawful.at_entry.2 last said

end Journal

end Interaction
