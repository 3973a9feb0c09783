/-
Module: Freight.Relational.Table
Purpose: Tables as lists of rows with a key: lookup, keyed update, and how the
  two interact with insertion.
Trusted boundary: none
Main exports:
  Table.lookup, Table.modify, Table.lookup_append, Table.lookup_modify,
  Table.keys_modify, Table.lookup_of_mem, Table.sum_modify
-/
import Mathlib.Algebra.GroupWithZero.Nat
import Mathlib.Data.List.Basic
import Mathlib.Data.List.Nodup

namespace Table

variable {Row Key : Type} [DecidableEq Key] (key : Row → Key)

/-- The first row with a key. -/
def lookup (rows : List Row) (k : Key) : Option Row :=
  rows.find? fun row => key row = k

/-- Rewrite the rows with a key. -/
def modify (rows : List Row) (k : Key) (change : Row → Row) : List Row :=
  rows.map fun row => if key row = k then change row else row

variable {key} {rows : List Row} {k : Key} {row : Row}

theorem key_of_lookup (found : lookup key rows k = some row) : key row = k := by
  simpa using List.find?_some found

theorem mem_of_lookup (found : lookup key rows k = some row) : row ∈ rows :=
  List.mem_of_find?_eq_some found

theorem lookup_eq_none_iff : lookup key rows k = none ↔ k ∉ rows.map key := by
  simp only [lookup, List.find?_eq_none, decide_eq_true_eq, List.mem_map, not_exists,
    not_and]

theorem exists_lookup_iff : (∃ row, lookup key rows k = some row) ↔ k ∈ rows.map key := by
  rw [← Option.ne_none_iff_exists', ne_eq, lookup_eq_none_iff, not_not]

theorem lookup_append (rows more : List Row) (k : Key) :
    lookup key (rows ++ more) k = (lookup key rows k).or (lookup key more k) := by
  simp [lookup, List.find?_append]

theorem lookup_cons (row : Row) (rows : List Row) (k : Key) :
    lookup key (row :: rows) k = if key row = k then some row else lookup key rows k := by
  by_cases same : key row = k <;> simp [lookup, same]

theorem lookup_singleton (row : Row) (k : Key) :
    lookup key [row] k = if key row = k then some row else none := by
  by_cases same : key row = k <;> simp [lookup, same]

/-- In a table without duplicate keys a row is found under its own key. -/
theorem lookup_of_mem (distinct : (rows.map key).Nodup) (member : row ∈ rows) :
    lookup key rows (key row) = some row := by
  induction rows with
  | nil => cases member
  | cons head tail inductionHypothesis =>
      rw [List.map_cons, List.nodup_cons] at distinct
      rcases List.mem_cons.mp member with rfl | later
      · simp [lookup]
      · have different : key head ≠ key row := by
          intro equality
          exact distinct.1 (equality ▸ List.mem_map_of_mem later)
        simpa [lookup, different] using inductionHypothesis distinct.2 later

theorem eq_of_mem_of_key_eq {other : Row} (distinct : (rows.map key).Nodup)
    (member : row ∈ rows) (otherMember : other ∈ rows) (same : key row = key other) :
    row = other := by
  have one := lookup_of_mem distinct member
  rw [same, lookup_of_mem distinct otherMember] at one
  exact (Option.some.inj one).symm

/-- Without the rows that have a key, it finds nothing, and every other key the same. -/
theorem lookup_filter_ne (k other : Key) :
    lookup key (rows.filter fun row => key row ≠ k) other =
      if other = k then none else lookup key rows other := by
  induction rows with
  | nil => simp [lookup]
  | cons head tail inductionHypothesis =>
      rw [List.filter_cons]
      by_cases hit : key head = k
      · rw [if_neg (by simpa using hit), inductionHypothesis, lookup_cons]
        by_cases wanted : other = k
        · rw [if_pos wanted, if_pos wanted]
        · rw [if_neg wanted, if_neg wanted, if_neg (fun same => wanted (same.symm.trans hit))]
      · rw [if_pos (by simpa using hit), lookup_cons, inductionHypothesis, lookup_cons]
        by_cases wanted : other = k
        · subst wanted
          rw [if_neg hit, if_pos rfl, if_pos rfl]
        · rw [if_neg wanted, if_neg wanted]

/-! ## Keyed update -/

variable {change : Row → Row}

theorem keys_modify (keeps : ∀ row, key (change row) = key row) :
    (modify key rows k change).map key = rows.map key := by
  unfold modify
  rw [List.map_map]
  apply List.map_congr_left
  intro row _
  by_cases same : key row = k <;> simp [same, keeps]

theorem lookup_modify (keeps : ∀ row, key (change row) = key row) (k other : Key) :
    lookup key (modify key rows k change) other =
      if other = k then (lookup key rows other).map change else lookup key rows other := by
  induction rows with
  | nil => simp [lookup, modify]
  | cons head tail inductionHypothesis =>
      simp only [modify, List.map_cons, lookup, List.find?_cons]
      simp only [lookup, modify] at inductionHypothesis
      by_cases hit : key head = k
      · by_cases wanted : k = other
        · subst wanted
          simp [keeps, hit]
        · simp [hit, keeps, wanted, inductionHypothesis]
      · by_cases wanted : key head = other
        · have unchanged : other ≠ k := fun equality => hit (wanted.trans equality)
          simp [wanted, unchanged]
        · simp [hit, wanted, inductionHypothesis]

theorem mem_modify_iff {row : Row} :
    row ∈ modify key rows k change ↔
      ∃ before ∈ rows, row = if key before = k then change before else before := by
  simp only [modify, List.mem_map]
  constructor
  · rintro ⟨before, member, rfl⟩
    exact ⟨before, member, rfl⟩
  · rintro ⟨before, member, rfl⟩
    exact ⟨before, member, rfl⟩

theorem modify_of_notMem (absent : k ∉ rows.map key) : modify key rows k change = rows := by
  unfold modify
  refine (List.map_congr_left ?_).trans (List.map_id rows)
  intro row member
  rw [if_neg]
  · rfl
  · intro same
    exact absent (same ▸ List.mem_map_of_mem member)

/-- Once the row with a key is no longer selected, the others are. -/
theorem filter_modify {selected : Row → Bool}
    (dropped : ∀ row ∈ rows, key row = k → selected (change row) = false) :
    (modify key rows k change).filter selected =
      (rows.filter selected).filter fun row => key row ≠ k := by
  induction rows with
  | nil => rfl
  | cons head tail inductionHypothesis =>
      have rest := inductionHypothesis fun row member =>
        dropped row (List.mem_cons_of_mem _ member)
      have whole : modify key (head :: tail) k change =
          (if key head = k then change head else head) :: modify key tail k change := rfl
      rw [whole, List.filter_cons, List.filter_cons, rest]
      by_cases hit : key head = k
      · have gone := dropped head List.mem_cons_self hit
        by_cases taken : selected head = true <;> simp [hit, gone, taken]
      · by_cases taken : selected head = true <;> simp [hit, taken]

/-- Rewriting the row with a key shifts a sum over the rows by what that row contributes. -/
theorem sum_modify {weight : Row → Nat} (distinct : (rows.map key).Nodup)
    (found : lookup key rows k = some row) :
    ((modify key rows k change).map weight).sum + weight row =
      (rows.map weight).sum + weight (change row) := by
  induction rows with
  | nil => cases found
  | cons head tail inductionHypothesis =>
      rw [List.map_cons, List.nodup_cons] at distinct
      by_cases hit : key head = k
      · have own : head = row := by simpa [lookup, hit] using found
        subst own hit
        have others : modify key tail (key head) change = tail := modify_of_notMem distinct.1
        have whole : modify key (head :: tail) (key head) change = change head :: tail := by
          rw [modify, List.map_cons, if_pos rfl]
          exact congrArg _ others
        rw [whole, List.map_cons, List.sum_cons, List.map_cons, List.sum_cons]
        omega
      · have later : lookup key tail k = some row := by simpa [lookup, hit] using found
        have rest := inductionHypothesis distinct.2 later
        have whole : modify key (head :: tail) k change = head :: modify key tail k change := by
          simp [modify, hit]
        rw [whole, List.map_cons, List.sum_cons, List.map_cons, List.sum_cons]
        omega

end Table
