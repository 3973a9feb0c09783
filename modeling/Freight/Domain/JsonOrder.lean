/-
Module: Freight.Domain.JsonOrder
Purpose: The order of the keys of JSON objects: values that differ in nothing else, and the
  one among them whose keys are sorted.
Trusted boundary: none
Main exports:
  byKey, Json.sortKeys, Json.Reordered, Json.WellFormed, Json.reordered_sortKeys,
  Json.sortKeys_eq_of_reordered, lookup_of_perm, Json.get_sortKeys
-/
import Freight.Domain.Json
import Mathlib.Data.List.Nodup
import Mathlib.Data.List.Sort
import Mathlib.Data.String.Basic

namespace Freight

/-! ## Members in order -/

section Members

variable {α : Type}

/-- Members of an object compare by their keys. -/
def byKey (one other : String × α) : Prop := one.1 ≤ other.1

instance : DecidableRel (byKey (α := α)) := fun one other =>
  inferInstanceAs (Decidable (one.1 ≤ other.1))

instance : Std.Total (byKey (α := α)) where
  total one other := le_total one.1 other.1

instance : IsTrans (String × α) byKey where
  trans _ _ _ first second := le_trans (α := String) first second

/-- Members with different keys are put in the same order, however they came. -/
theorem sorted_eq_of_perm {lefts rights : List (String × α)}
    (keyed : (lefts.map Prod.fst).Nodup) (permuted : lefts.Perm rights) :
    lefts.insertionSort byKey = rights.insertionSort byKey := by
  refine List.Perm.eq_of_pairwise ?_ (List.pairwise_insertionSort byKey lefts)
    (List.pairwise_insertionSort byKey rights)
    ((List.perm_insertionSort byKey lefts).trans
      (permuted.trans (List.perm_insertionSort byKey rights).symm))
  intro left right leftMember rightMember before after
  have leftIn := (List.mem_insertionSort byKey).mp leftMember
  have rightIn := permuted.mem_iff.mpr ((List.mem_insertionSort byKey).mp rightMember)
  exact List.inj_on_of_nodup_map keyed leftIn rightIn (le_antisymm before after)

/-- A key stands for the same wherever it stands. -/
theorem lookup_of_perm {lefts rights : List (String × α)}
    (keyed : (lefts.map Prod.fst).Nodup) (permuted : lefts.Perm rights) (key : String) :
    lefts.lookup key = rights.lookup key := by
  induction permuted with
  | nil => rfl
  | cons member _ inductionHypothesis =>
      rw [List.lookup_cons, List.lookup_cons, inductionHypothesis (List.nodup_cons.mp keyed).2]
  | swap first second rest =>
      obtain ⟨firstKey, firstValue⟩ := first
      obtain ⟨secondKey, secondValue⟩ := second
      have apart : firstKey ≠ secondKey := by
        rintro rfl
        simp at keyed
      by_cases found : key = firstKey
      · subst found
        simp [List.lookup_cons, beq_false_of_ne apart]
      · simp [List.lookup_cons, beq_false_of_ne found]
  | trans first _ firstHypothesis secondHypothesis =>
      exact (firstHypothesis keyed).trans
        (secondHypothesis ((first.map Prod.fst).nodup_iff.mp keyed))

end Members

namespace Json

/-! ## Sorted keys -/

mutual

/-- The value with the keys of every object in order. -/
def sortKeys : Json → Json
  | .arr items => .arr (sortItems items)
  | .obj fields => .obj ((sortFields fields).insertionSort byKey)
  | value => value

def sortItems : List Json → List Json
  | [] => []
  | item :: items => sortKeys item :: sortItems items

def sortFields : List (String × Json) → List (String × Json)
  | [] => []
  | (key, value) :: fields => (key, sortKeys value) :: sortFields fields

end

/-- Two values that are the same but for the order of keys, somewhere inside. -/
inductive Reordered : Json → Json → Prop where
  | refl (value : Json) : Reordered value value
  | permute {before after : List (String × Json)} (permuted : before.Perm after) :
      Reordered (.obj before) (.obj after)
  | field (before after : List (String × Json)) (key : String) {left right : Json}
      (reordered : Reordered left right) :
      Reordered (.obj (before ++ (key, left) :: after)) (.obj (before ++ (key, right) :: after))
  | item (before after : List Json) {left right : Json} (reordered : Reordered left right) :
      Reordered (.arr (before ++ left :: after)) (.arr (before ++ right :: after))
  | trans {left middle right : Json} (first : Reordered left middle)
      (second : Reordered middle right) : Reordered left right

mutual

/-- Every object has every key once, as a Python dictionary has, and every float is allowed. -/
def WellFormed (allowed : Double → Prop) : Json → Prop
  | .float value => allowed value
  | .arr items => WellFormedItems allowed items
  | .obj fields => (fields.map Prod.fst).Nodup ∧ WellFormedFields allowed fields
  | _ => True

def WellFormedItems (allowed : Double → Prop) : List Json → Prop
  | [] => True
  | item :: items => WellFormed allowed item ∧ WellFormedItems allowed items

def WellFormedFields (allowed : Double → Prop) : List (String × Json) → Prop
  | [] => True
  | (_, value) :: fields => WellFormed allowed value ∧ WellFormedFields allowed fields

end

variable {allowed : Double → Prop}

section Lists

theorem sortItems_append (before after : List Json) :
    sortItems (before ++ after) = sortItems before ++ sortItems after := by
  induction before with
  | nil => rfl
  | cons item before inductionHypothesis => simp [sortItems, inductionHypothesis]

theorem sortFields_eq_map (fields : List (String × Json)) :
    sortFields fields = fields.map fun field => (field.1, field.2.sortKeys) := by
  induction fields with
  | nil => rfl
  | cons field fields inductionHypothesis => simp [sortFields, inductionHypothesis]

theorem wellFormedItems_iff {items : List Json} :
    WellFormedItems allowed items ↔ ∀ item ∈ items, item.WellFormed allowed := by
  induction items with
  | nil => simp [WellFormedItems]
  | cons item items inductionHypothesis => simp [WellFormedItems, inductionHypothesis]

theorem wellFormedFields_iff {fields : List (String × Json)} :
    WellFormedFields allowed fields ↔ ∀ field ∈ fields, field.2.WellFormed allowed := by
  induction fields with
  | nil => simp [WellFormedFields]
  | cons field fields inductionHypothesis => simp [WellFormedFields, inductionHypothesis]

@[simp] theorem sortFields_keys (fields : List (String × Json)) :
    (sortFields fields).map Prod.fst = fields.map Prod.fst := by
  rw [sortFields_eq_map, List.map_map]
  rfl

end Lists

/-! ## Reordering -/

/-- Reordered values have the same sorted form, and are well formed alike. -/
theorem Reordered.sorted {left right : Json} (reordered : Reordered left right)
    (wellFormed : left.WellFormed allowed) :
    right.WellFormed allowed ∧ left.sortKeys = right.sortKeys := by
  induction reordered with
  | refl value => exact ⟨wellFormed, rfl⟩
  | permute permuted =>
      obtain ⟨unique, inside⟩ := wellFormed
      have keys := permuted.map Prod.fst
      refine ⟨⟨keys.nodup_iff.mp unique, ?_⟩, ?_⟩
      · exact wellFormedFields_iff.mpr fun field member =>
          wellFormedFields_iff.mp inside field (permuted.mem_iff.mpr member)
      · refine congrArg Json.obj (sorted_eq_of_perm ?_ ?_)
        · rwa [sortFields_keys]
        · rw [sortFields_eq_map, sortFields_eq_map]
          exact permuted.map _
  | field before after key reordered inductionHypothesis =>
      obtain ⟨unique, inside⟩ := wellFormed
      have members := wellFormedFields_iff.mp inside
      obtain ⟨kept, same⟩ := inductionHypothesis
        (members _ (List.mem_append_right before List.mem_cons_self))
      refine ⟨⟨by simpa using unique, wellFormedFields_iff.mpr ?_⟩, ?_⟩
      · intro field member
        simp only [List.mem_append, List.mem_cons] at member
        rcases member with early | rfl | late
        · exact members field (by simp [early])
        · exact kept
        · exact members field (by simp [late])
      · simp only [sortKeys, sortFields_eq_map, List.map_append, List.map_cons, same]
  | item before after reordered inductionHypothesis =>
      have members := wellFormedItems_iff.mp wellFormed
      obtain ⟨kept, same⟩ := inductionHypothesis
        (members _ (List.mem_append_right before List.mem_cons_self))
      refine ⟨wellFormedItems_iff.mpr ?_, ?_⟩
      · intro item member
        simp only [List.mem_append, List.mem_cons] at member
        rcases member with early | rfl | late
        · exact members item (by simp [early])
        · exact kept
        · exact members item (by simp [late])
      · simp only [sortKeys, sortItems_append, sortItems, same]
  | trans first second firstHypothesis secondHypothesis =>
      obtain ⟨middleFormed, firstSame⟩ := firstHypothesis wellFormed
      obtain ⟨rightFormed, secondSame⟩ := secondHypothesis middleFormed
      exact ⟨rightFormed, firstSame.trans secondSame⟩

mutual

/-- Sorting the keys only reorders. -/
theorem reordered_sortKeys : ∀ value : Json, Reordered value value.sortKeys
  | .null | .bool _ | .int _ | .float _ | .str _ => .refl _
  | .arr items => reordered_sortItems [] items
  | .obj fields =>
      (reordered_sortFields [] fields).trans
        (.permute (List.perm_insertionSort byKey _).symm)

theorem reordered_sortItems : ∀ before items : List Json,
    Reordered (.arr (before ++ items)) (.arr (before ++ sortItems items))
  | before, [] => .refl _
  | before, item :: items => by
      have head := Reordered.item before items (reordered_sortKeys item)
      have tail := reordered_sortItems (before ++ [item.sortKeys]) items
      rw [List.append_assoc, List.append_assoc] at tail
      exact head.trans tail

theorem reordered_sortFields : ∀ before fields : List (String × Json),
    Reordered (.obj (before ++ fields)) (.obj (before ++ sortFields fields))
  | before, [] => .refl _
  | before, (key, value) :: fields => by
      have head := Reordered.field before fields key (reordered_sortKeys value)
      have tail := reordered_sortFields (before ++ [(key, value.sortKeys)]) fields
      rw [List.append_assoc, List.append_assoc] at tail
      exact head.trans tail

end

/-- Reordered values have the same sorted form. -/
theorem sortKeys_eq_of_reordered {left right : Json} (wellFormed : left.WellFormed allowed)
    (reordered : Reordered left right) : left.sortKeys = right.sortKeys :=
  (reordered.sorted wellFormed).2

theorem wellFormed_sortKeys {value : Json} (wellFormed : value.WellFormed allowed) :
    value.sortKeys.WellFormed allowed :=
  ((reordered_sortKeys value).sorted wellFormed).1

theorem sortKeys_sortKeys {value : Json} (wellFormed : value.WellFormed allowed) :
    value.sortKeys.sortKeys = value.sortKeys :=
  (sortKeys_eq_of_reordered wellFormed (reordered_sortKeys value)).symm

@[simp] theorem isDict_sortKeys (value : Json) : value.sortKeys.isDict = value.isDict := by
  cases value <;> simp [sortKeys, isDict]

/-- A member is sorted like the members around it. -/
theorem lookup_sortFields (fields : List (String × Json)) (key : String) :
    (sortFields fields).lookup key = (fields.lookup key).map sortKeys := by
  induction fields with
  | nil => rfl
  | cons field fields inductionHypothesis =>
      obtain ⟨own, value⟩ := field
      rw [sortFields, List.lookup_cons, List.lookup_cons, inductionHypothesis]
      cases key == own <;> rfl

/-- The value under a key is sorted like the whole. -/
theorem get_sortKeys {value : Json} (wellFormed : value.WellFormed allowed) (key : String) :
    value.sortKeys.get key = (value.get key).map sortKeys := by
  cases value with
  | obj fields =>
      have keyed : ((sortFields fields).map Prod.fst).Nodup := by
        rw [sortFields_keys]
        exact wellFormed.1
      rw [sortKeys, get_obj, get_obj, ← lookup_sortFields]
      exact (lookup_of_perm keyed (List.perm_insertionSort byKey _).symm key).symm
  | _ => simp only [sortKeys]; rfl

end Json

end Freight
