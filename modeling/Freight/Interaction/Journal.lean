/-
Module: Freight.Interaction.Journal
Purpose: A list that all processes add to, the entries of one of them, and laws
  that say what a process may add after what it has added before.
Trusted boundary: none
Main exports:
  Journal, Journal.entriesOf, Journal.Each, Journal.Orderly, Journal.Orderly.snoc,
  Journal.Orderly.eq_of_exclusive
-/
import Freight.Interaction.Concurrency
import Mathlib.Data.List.Infix
import Mathlib.Data.List.Nodup

namespace Interaction

/-- Entries, each with the process that it belongs to. -/
abbrev Journal (α : Type) : Type := List (ProcessId × α)

namespace Journal

variable {α : Type} {journal : Journal α} {process other : ProcessId} {entry : α}

/-- The entries of one process. -/
def entriesOf (journal : Journal α) (process : ProcessId) : List α :=
  journal.filterMap fun entry => if entry.1 = process then some entry.2 else none

@[simp] theorem entriesOf_nil : entriesOf ([] : Journal α) process = [] := rfl

@[simp] theorem mem_entriesOf :
    entry ∈ journal.entriesOf process ↔ (process, entry) ∈ journal := by
  simp only [entriesOf, List.mem_filterMap]
  constructor
  · intro found
    obtain ⟨⟨owner, own⟩, member, same⟩ := found
    split at same
    · rename_i equality
      cases same
      exact equality ▸ member
    · cases same
  · intro member
    exact ⟨(process, entry), member, by simp⟩

theorem entriesOf_append (first second : Journal α) :
    entriesOf (first ++ second) process =
      first.entriesOf process ++ second.entriesOf process :=
  List.filterMap_append

@[simp] theorem entriesOf_snoc_self :
    entriesOf (journal ++ [(process, entry)]) process =
      journal.entriesOf process ++ [entry] := by
  rw [entriesOf_append]
  simp [entriesOf]

theorem entriesOf_snoc_of_ne (different : other ≠ process) :
    entriesOf (journal ++ [(process, entry)]) other = journal.entriesOf other := by
  rw [entriesOf_append]
  simp [entriesOf, Ne.symm different]

/-- Further entries of one process. -/
theorem entriesOf_append_self (entries : List α) :
    entriesOf (journal ++ entries.map (Prod.mk process)) process =
      journal.entriesOf process ++ entries := by
  rw [entriesOf_append]
  have own : entriesOf (entries.map (Prod.mk process)) process = entries := by
    simp [entriesOf, List.filterMap_map]
  rw [own]

theorem entriesOf_append_of_ne (different : other ≠ process) (entries : List α) :
    entriesOf (journal ++ entries.map (Prod.mk process)) other = journal.entriesOf other := by
  have foreign : entriesOf (entries.map (Prod.mk process)) other = [] := by
    simp [entriesOf, List.filterMap_map, Ne.symm different]
  rw [entriesOf_append, foreign, List.append_nil]

/-- An entry among those of its process is an entry of the journal. -/
theorem exists_of_entriesOf {earlier later : List α}
    (split : journal.entriesOf process = earlier ++ entry :: later) :
    ∃ before after : Journal α, journal = before ++ (process, entry) :: after ∧
      before.entriesOf process = earlier := by
  obtain ⟨before, rest, rfl, rfl, behind⟩ := List.filterMap_eq_append_iff.mp split
  obtain ⟨others, ⟨owner, own⟩, after, rfl, foreign, same, -⟩ :=
    List.filterMap_eq_cons_iff.mp behind
  have mine : owner = process ∧ own = entry := by
    by_cases equality : owner = process
    · simpa [equality] using same
    · simp [equality] at same
  obtain ⟨rfl, rfl⟩ := mine
  refine ⟨before ++ others, after, by simp, ?_⟩
  have none : entriesOf others owner = [] := List.filterMap_eq_nil_iff.mpr foreign
  rw [entriesOf_append, none, List.append_nil]
  rfl

/-- Of two entries one comes first, unless they are the same. -/
theorem prefix_cases {first second : Journal α} {one two : ProcessId × α}
    (before : first ++ [one] <+: journal) (after : second ++ [two] <+: journal) :
    first ++ [one] <+: second ∨ (first = second ∧ one = two) ∨ second ++ [two] <+: first := by
  rcases List.prefix_or_prefix_of_prefix before after with inside | inside
  · rcases List.prefix_concat_iff.mp inside with same | earlier
    · exact .inr (.inl (List.append_inj' same rfl |>.imp id fun same => by simpa using same))
    · exact .inl earlier
  · rcases List.prefix_concat_iff.mp inside with same | earlier
    · exact .inr (.inl (List.append_inj' same.symm rfl |>.imp id fun same => by
        simpa using same))
    · exact .inr (.inr earlier)

/-- Removing entries of one process leaves those of the others. -/
theorem entriesOf_filter_of_ne {keep : ProcessId × α → Bool}
    (kept : ∀ entry : ProcessId × α, entry.1 = other → keep entry = true) :
    entriesOf (journal.filter keep) other = journal.entriesOf other := by
  simp only [entriesOf, List.filterMap_filter]
  refine List.filterMap_congr ?_
  intro entry _
  by_cases own : entry.1 = other
  · simp [own, kept entry own]
  · simp [own]

/-! ## What holds of every entry -/

/-- A property of every entry, given the entries before it. -/
def Each (property : Journal α → ProcessId → α → Prop) (journal : Journal α) : Prop :=
  ∀ earlier process entry, earlier ++ [(process, entry)] <+: journal →
    property earlier process entry

namespace Each

variable {property : Journal α → ProcessId → α → Prop}

theorem nil : Each property [] := by
  intro earlier process entry before
  have empty := List.prefix_nil.mp before
  simp at empty

theorem snoc (each : Each property journal) (last : property journal process entry) :
    Each property (journal ++ [(process, entry)]) := by
  intro earlier owner own before
  rcases List.prefix_concat_iff.mp before with whole | inside
  · obtain ⟨rfl, same⟩ := List.append_inj' whole rfl
    cases same
    exact last
  · exact each earlier owner own inside

theorem mono {weaker : Journal α → ProcessId → α → Prop} (each : Each property journal)
    (implies : ∀ earlier process entry, earlier ++ [(process, entry)] <+: journal →
      property earlier process entry → weaker earlier process entry) :
    Each weaker journal :=
  fun earlier process entry before =>
    implies earlier process entry before (each earlier process entry before)

/-- It holds in every earlier part. -/
theorem of_append {more : Journal α} (each : Each property (journal ++ more)) :
    Each property journal :=
  fun earlier process entry before =>
    each earlier process entry (before.trans (List.prefix_append _ _))

/-- It holds of an entry of the journal. -/
theorem at_entry {before after : Journal α}
    (each : Each property (before ++ (process, entry) :: after)) :
    property before process entry :=
  each before process entry ⟨after, by simp⟩

theorem of_mem {own : ProcessId → α → Prop} (each : Each (fun _ => own) journal)
    (member : (process, entry) ∈ journal) : own process entry := by
  obtain ⟨before, after, rfl⟩ := List.append_of_mem member
  exact each.at_entry

end Each

/-! ## Laws -/

/-- Every entry obeys a law, given what its process had entered before. -/
def Orderly (law : List α → α → Prop) (journal : Journal α) : Prop :=
  ∀ earlier process entry, earlier ++ [(process, entry)] <+: journal →
    law (entriesOf earlier process) entry

namespace Orderly

variable {law : List α → α → Prop} {first second : α}

theorem nil : Orderly law [] := by
  intro earlier process entry before
  have empty := List.prefix_nil.mp before
  simp at empty

theorem snoc (orderly : Orderly law journal)
    (lawful : law (journal.entriesOf process) entry) :
    Orderly law (journal ++ [(process, entry)]) := by
  intro earlier owner own before
  rcases List.prefix_concat_iff.mp before with whole | inside
  · obtain ⟨rfl, same⟩ := List.append_inj' whole rfl
    cases same
    exact lawful
  · exact orderly earlier owner own inside

/-- The law, for an entry among those of its process. -/
theorem lawful (orderly : Orderly law journal) {earlier later : List α}
    (split : journal.entriesOf process = earlier ++ entry :: later) : law earlier entry := by
  obtain ⟨before, after, rfl, rfl⟩ := exists_of_entriesOf split
  exact orderly before process entry ⟨after, by simp⟩

/-- Two entries of one process that the law keeps apart are one. -/
theorem eq_of_exclusive (orderly : Orderly law journal)
    (firstMember : (process, first) ∈ journal) (secondMember : (process, second) ∈ journal)
    (excludesSecond : ∀ entries, law entries first → second ∉ entries)
    (excludesFirst : ∀ entries, law entries second → first ∉ entries) : first = second := by
  obtain ⟨before, after, rfl⟩ := List.append_of_mem firstMember
  have lawful : law (entriesOf before process) first :=
    orderly before process first ⟨after, by simp⟩
  rcases List.mem_append.mp secondMember with earlier | later
  · exact absurd (mem_entriesOf.mpr earlier) (excludesSecond _ lawful)
  · rcases List.mem_cons.mp later with same | further
    · cases same
      rfl
    · obtain ⟨middle, rest, rfl⟩ := List.append_of_mem further
      have lawfulSecond := orderly (before ++ (process, first) :: middle) process second
        ⟨rest, by simp⟩
      exact absurd (mem_entriesOf.mpr (by simp)) (excludesFirst _ lawfulSecond)

end Orderly

end Journal

end Interaction
