/-
Module: Freight.Relational.OrderBy
Purpose: What a query may return under an `ORDER BY` of one key: the rows in any order
  in which the key ascends.  Rows with equal keys stand as they like, which decides how
  much of the order of the table a listing still tells.
Trusted boundary: none
Main exports:
  Table.OrderedBy, Table.OrderedBy.eq_of_strict, Table.OrderedBy.cons_of_least,
  Table.OrderedBy.last_unique,
  Table.exists_tie, Table.orderedBy_swap, Table.exists_orderedBy_last,
  Table.exists_orderedBy_filter
-/
import Mathlib.Data.List.Basic
import Mathlib.Data.List.Pairwise
import Mathlib.Data.List.Sort
import Mathlib.Order.Defs.LinearOrder

namespace Table

variable {Row Key : Type} [LinearOrder Key]

/-- A listing of rows in which a key ascends. -/
structure OrderedBy (key : Row → Key) (rows listed : List Row) : Prop where
  perm : listed.Perm rows
  ascending : listed.Pairwise fun first second => key first ≤ key second

instance [DecidableEq Row] (key : Row → Key) (rows listed : List Row) :
    Decidable (OrderedBy key rows listed) :=
  decidable_of_iff (listed.Perm rows ∧
      listed.Pairwise fun first second => key first ≤ key second)
    ⟨fun both => ⟨both.1, both.2⟩, fun ordered => ⟨ordered.perm, ordered.ascending⟩⟩

section Listings

variable {key : Row → Key} {rows listed : List Row}

/-- What is selected from a listing is a listing of what is selected from the rows. -/
theorem OrderedBy.filter (ordered : OrderedBy key rows listed) (selected : Row → Bool) :
    OrderedBy key (rows.filter selected) (listed.filter selected) where
  perm := ordered.perm.filter selected
  ascending := ordered.ascending.filter selected

/-- Rows whose keys ascend strictly have no other listing. -/
theorem OrderedBy.eq_of_strict (ordered : OrderedBy key rows listed)
    (strict : rows.Pairwise fun first second => key first < key second) : listed = rows := by
  refine List.Perm.eq_of_pairwise ?_ ordered.ascending (strict.imp le_of_lt) ordered.perm
  intro first second listedFirst member below above
  by_contra different
  have present : first ∈ rows := ordered.perm.subset listedFirst
  have apart : rows.Pairwise fun first second => key first ≠ key second :=
    strict.imp ne_of_lt
  have symmetric : Std.Symm fun first second : Row => key first ≠ key second :=
    ⟨fun _ _ unequal => unequal.symm⟩
  exact apart.forall present member different (le_antisymm below above)

/-- A listing begins with the row whose key is the least, and goes on as a listing of the
others. -/
theorem OrderedBy.cons_of_least {row : Row} (others : Row → Bool)
    (ordered : OrderedBy key rows listed) (distinct : rows.Nodup) (member : row ∈ rows)
    (least : ∀ other ∈ rows, other ≠ row → key row < key other)
    (selects : ∀ other ∈ rows, others other = true ↔ other ≠ row) :
    ∃ rest, listed = row :: rest ∧ OrderedBy key (rows.filter others) rest := by
  have listedOnce : listed.Nodup := ordered.perm.nodup_iff.mpr distinct
  cases listed with
  | nil =>
      have present : row ∈ [] := ordered.perm.symm.subset member
      cases present
  | cons head rest =>
      have headIn : head ∈ rows := ordered.perm.subset List.mem_cons_self
      have same : head = row := by
        by_contra different
        have present : row ∈ head :: rest := ordered.perm.symm.subset member
        rcases List.mem_cons.mp present with equal | later
        · exact different equal.symm
        · have below := (List.pairwise_cons.mp ordered.ascending).1 row later
          exact absurd (least head headIn different) (not_lt_of_ge below)
      subst same
      refine ⟨rest, rfl, ?_⟩
      have left := ordered.filter others
      have dropped : others head = false := by
        by_contra kept
        exact (selects head headIn).mp (by simpa using kept) rfl
      have all : rest.filter others = rest := by
        apply List.filter_eq_self.mpr
        intro other later
        refine (selects other (ordered.perm.subset (List.mem_cons_of_mem _ later))).mpr ?_
        intro equal
        exact (List.nodup_cons.mp listedOnce).1 (equal ▸ later)
      rwa [List.filter_cons, dropped, if_neg Bool.false_ne_true, all] at left

/-- Nothing in a listing has a key above that of its last row. -/
theorem OrderedBy.le_last {last row : Row} (ordered : OrderedBy key rows listed)
    (ends : listed.getLast? = some last) (member : row ∈ rows) : key row ≤ key last := by
  obtain ⟨before, rfl⟩ := List.getLast?_eq_some_iff.mp ends
  rcases List.mem_append.mp (ordered.perm.symm.subset member) with earlier | same
  · exact (List.pairwise_append.mp ordered.ascending).2.2 row earlier last
      (List.mem_singleton_self last)
  · rw [List.mem_singleton.mp same]

/-- All listings end at the same key. -/
theorem OrderedBy.last_unique {other : List Row} {last otherLast : Row}
    (ordered : OrderedBy key rows listed) (ends : listed.getLast? = some last)
    (otherOrdered : OrderedBy key rows other) (otherEnds : other.getLast? = some otherLast) :
    key last = key otherLast := by
  have member : last ∈ rows := ordered.perm.subset (List.mem_of_getLast? ends)
  have otherMember : otherLast ∈ rows :=
    otherOrdered.perm.subset (List.mem_of_getLast? otherEnds)
  exact le_antisymm (otherOrdered.le_last otherEnds member) (ordered.le_last ends otherMember)

end Listings

/-! ## Ties -/

section Ties

variable {key : Row → Key} {rows : List Row}

/-- Rows whose keys ascend, but not strictly, have two neighbours with equal keys. -/
theorem exists_tie (ascending : rows.Pairwise fun first second => key first ≤ key second)
    (lax : ¬ rows.Pairwise fun first second => key first < key second) :
    ∃ before first second after,
      rows = before ++ first :: second :: after ∧ key first = key second := by
  induction rows with
  | nil => exact absurd List.Pairwise.nil lax
  | cons head tail inductionHypothesis =>
      obtain ⟨least, rest⟩ := List.pairwise_cons.mp ascending
      by_cases strict : tail.Pairwise fun first second => key first < key second
      · cases tail with
        | nil => exact absurd (List.pairwise_singleton _ head) lax
        | cons next tail =>
            refine ⟨[], head, next, tail, rfl, ?_⟩
            refine le_antisymm (least next List.mem_cons_self) (not_lt.mp fun below => lax ?_)
            refine List.pairwise_cons.mpr ⟨?_, strict⟩
            intro row member
            rcases List.mem_cons.mp member with rfl | later
            · exact below
            · exact below.trans ((List.pairwise_cons.mp strict).1 row later)
      · obtain ⟨before, first, second, after, rfl, tied⟩ := inductionHypothesis rest strict
        exact ⟨head :: before, first, second, after, rfl, tied⟩

/-- Neighbours with equal keys may change places. -/
theorem orderedBy_swap {before after : List Row} {first second : Row}
    (ascending : (before ++ first :: second :: after).Pairwise fun first second =>
      key first ≤ key second)
    (tied : key first = key second) :
    OrderedBy key (before ++ first :: second :: after) (before ++ second :: first :: after) where
  perm := (List.Perm.swap first second after).append_left before
  ascending := by
    obtain ⟨earlier, later, across⟩ := List.pairwise_append.mp ascending
    obtain ⟨firstLeast, rest⟩ := List.pairwise_cons.mp later
    obtain ⟨secondLeast, tail⟩ := List.pairwise_cons.mp rest
    refine List.pairwise_append.mpr ⟨earlier, ?_, ?_⟩
    · refine List.pairwise_cons.mpr ⟨?_, List.pairwise_cons.mpr ⟨?_, tail⟩⟩
      · intro row member
        rcases List.mem_cons.mp member with rfl | behind
        · exact tied.ge
        · exact secondLeast row behind
      · intro row behind
        exact firstLeast row (List.mem_cons_of_mem second behind)
    · intro row member other listed
      refine across row member other ?_
      exact (List.Perm.swap first second after).subset listed

end Ties

/-! ## Listings that exist -/

section Sorting

variable (key : Row → Key)

/-- The comparison that sorts rows by their keys. -/
def ascends (first second : Row) : Bool := decide (key first ≤ key second)

theorem ascends_trans (first second third : Row) (below : ascends key first second)
    (above : ascends key second third) : ascends key first third :=
  decide_eq_true ((of_decide_eq_true below).trans (of_decide_eq_true above))

theorem ascends_total (first second : Row) :
    (ascends key first second || ascends key second first) = true := by
  simpa [ascends] using le_total (key first) (key second)

theorem orderedBy_mergeSort (rows : List Row) :
    OrderedBy key rows (rows.mergeSort (ascends key)) where
  perm := List.mergeSort_perm rows _
  ascending := (List.pairwise_mergeSort (ascends_trans key) (ascends_total key) rows).imp
    of_decide_eq_true

variable {key} {rows : List Row}

/-- A listing may end with any of the rows whose key is the greatest. -/
theorem exists_orderedBy_last {row : Row} (member : row ∈ rows)
    (greatest : ∀ other ∈ rows, key other ≤ key row) :
    ∃ listed, OrderedBy key rows listed ∧ listed.getLast? = some row := by
  obtain ⟨before, after, rfl⟩ := List.append_of_mem member
  obtain ⟨perm, ascending⟩ := orderedBy_mergeSort key (before ++ after)
  refine ⟨(before ++ after).mergeSort (ascends key) ++ [row], ⟨?_, ?_⟩,
    List.getLast?_concat⟩
  · calc ((before ++ after).mergeSort (ascends key) ++ [row]).Perm ((before ++ after) ++ [row]) :=
          perm.append_right [row]
      _ |>.Perm (row :: (before ++ after)) := List.perm_append_singleton row _
      _ |>.Perm (before ++ row :: after) := List.perm_middle.symm
  · refine List.pairwise_append.mpr ⟨ascending, List.pairwise_singleton _ row, ?_⟩
    intro other listed last single
    rw [List.mem_singleton.mp single]
    refine greatest other ?_
    rcases List.mem_append.mp (perm.subset listed) with earlier | later
    · exact List.mem_append_left _ earlier
    · exact List.mem_append_right _ (List.mem_cons_of_mem row later)

/-- Every listing of selected rows is what some listing of all rows selects. -/
theorem exists_orderedBy_filter {selected : Row → Bool} {chosen : List Row}
    (ordered : OrderedBy key (rows.filter selected) chosen) :
    ∃ listed, OrderedBy key rows listed ∧ listed.filter selected = chosen := by
  -- a stable sort keeps the selected rows, which are sorted already, in their order
  let arranged := chosen ++ rows.filter fun row => !selected row
  have chosenSelected : ∀ row ∈ chosen, selected row = true := by
    intro row member
    exact (List.mem_filter.mp (ordered.perm.subset member)).2
  have selects : arranged.filter selected = chosen := by
    simp [arranged, List.filter_append, List.filter_eq_self.mpr chosenSelected,
      List.filter_filter]
  obtain ⟨perm, ascending⟩ := orderedBy_mergeSort key arranged
  refine ⟨arranged.mergeSort (ascends key), ⟨?_, ascending⟩, ?_⟩
  · refine perm.trans ((ordered.perm.append_right _).trans ?_)
    exact List.filter_append_perm selected rows
  · have stands : chosen.Sublist (arranged.mergeSort (ascends key)) :=
      List.sublist_mergeSort (ascends_trans key) (ascends_total key)
        (ordered.ascending.imp decide_eq_true) (List.sublist_append_left chosen _)
    have selection : chosen.Sublist ((arranged.mergeSort (ascends key)).filter selected) := by
      have kept := stands.filter selected
      rwa [List.filter_eq_self.mpr chosenSelected] at kept
    have amount : ((arranged.mergeSort (ascends key)).filter selected).length =
        chosen.length := by
      rw [(perm.filter selected).length_eq, selects]
    exact (selection.eq_of_length amount.symm).symm

end Sorting

end Table
