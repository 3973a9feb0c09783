/-
Module: Freight.Text.JsonLimits
Purpose: Which values the JSON encoder and decoder take: integers and nesting within limits.
Trusted boundary: none
Main exports:
  Json.Within, Json.within_sortKeys, JsonText.refusal_eq_none_iff, Interpreter.Takes,
  JsonText.dumps_ok_of_within, JsonText.dumps_error_of_not_within, JsonText.loads_of_within
-/
import Freight.Text.JsonRoundTrip

namespace Freight

/-! ## Values within limits -/

namespace Json

mutual

/-- Containers are at most so many inside one another, and every integer is allowed. -/
def Within (allowed : Int → Prop) : Nat → Json → Prop
  | _, .int value => allowed value
  | 0, .arr _ => False
  | depth + 1, .arr items => WithinItems allowed depth items
  | 0, .obj _ => False
  | depth + 1, .obj fields => WithinFields allowed depth fields
  | _, _ => True

def WithinItems (allowed : Int → Prop) : Nat → List Json → Prop
  | _, [] => True
  | depth, item :: items => Within allowed depth item ∧ WithinItems allowed depth items

def WithinFields (allowed : Int → Prop) : Nat → List (String × Json) → Prop
  | _, [] => True
  | depth, (_, value) :: fields => Within allowed depth value ∧ WithinFields allowed depth fields

end

variable {allowed : Int → Prop} {depth : Nat}

theorem withinFields_iff {fields : List (String × Json)} :
    WithinFields allowed depth fields ↔ ∀ field ∈ fields, field.2.Within allowed depth := by
  induction fields with
  | nil => simp [WithinFields]
  | cons field fields inductionHypothesis => simp [WithinFields, inductionHypothesis]

mutual

/-- The order of keys makes no difference. -/
theorem within_sortKeys : ∀ (depth : Nat) (value : Json),
    value.sortKeys.Within allowed depth ↔ value.Within allowed depth
  | _, .null | _, .bool _ | _, .int _ | _, .float _ | _, .str _ => by simp only [sortKeys]
  | 0, .arr _ | 0, .obj _ => by simp only [sortKeys, Within]
  | depth + 1, .arr items => withinItems_sortItems depth items
  | depth + 1, .obj fields => by
      rw [sortKeys, Within, Within, ← withinFields_sortFields depth fields, withinFields_iff,
        withinFields_iff]
      simp only [List.mem_insertionSort]

theorem withinItems_sortItems : ∀ (depth : Nat) (items : List Json),
    WithinItems allowed depth (sortItems items) ↔ WithinItems allowed depth items
  | _, [] => Iff.rfl
  | depth, item :: items =>
      and_congr (within_sortKeys depth item) (withinItems_sortItems depth items)

theorem withinFields_sortFields : ∀ (depth : Nat) (fields : List (String × Json)),
    WithinFields allowed depth (sortFields fields) ↔ WithinFields allowed depth fields
  | _, [] => Iff.rfl
  | depth, (_, value) :: fields =>
      and_congr (within_sortKeys depth value) (withinFields_sortFields depth fields)

end

end Json

/-! ## Limits and refusals -/

namespace JsonText

/-- The integers that a codec takes. -/
def Limits.Takes (limits : Limits) (value : Int) : Prop := limits.int value = none

mutual

/-- A codec takes the values that are within its limits. -/
theorem refusal_eq_none_iff (limits : Limits) : ∀ (depth : Nat) (value : Json),
    refusal limits depth value = none ↔ value.Within limits.Takes depth
  | depth, .int value => by cases depth <;> exact Iff.rfl
  | depth, .null | depth, .bool _ | depth, .float _ | depth, .str _ => by
      cases depth <;> simp [refusal, Json.Within]
  | 0, .arr _ | 0, .obj _ => by simp [refusal, Json.Within]
  | depth + 1, .arr items => refusalItems_eq_none_iff limits depth items
  | depth + 1, .obj fields => refusalFields_eq_none_iff limits depth fields

theorem refusalItems_eq_none_iff (limits : Limits) : ∀ (depth : Nat) (items : List Json),
    refusalItems limits depth items = none ↔ Json.WithinItems limits.Takes depth items
  | _, [] => by simp [refusalItems, Json.WithinItems]
  | depth, item :: items => by
      rw [refusalItems, Json.WithinItems, ← refusal_eq_none_iff limits depth item,
        ← refusalItems_eq_none_iff limits depth items]
      cases refusal limits depth item <;> simp

theorem refusalFields_eq_none_iff (limits : Limits) : ∀ (depth : Nat)
    (fields : List (String × Json)),
    refusalFields limits depth fields = none ↔ Json.WithinFields limits.Takes depth fields
  | _, [] => by simp [refusalFields, Json.WithinFields]
  | depth, (_, value) :: fields => by
      rw [refusalFields, Json.WithinFields, ← refusal_eq_none_iff limits depth value,
        ← refusalFields_eq_none_iff limits depth fields]
      cases refusal limits depth value <;> simp

end

end JsonText

/-! ## An interpreter -/

namespace Interpreter

variable {interpreter : Interpreter}

/-- An integer that may be written and read in decimal. -/
def Takes (interpreter : Interpreter) (value : Int) : Prop :=
  interpreter.allows (Nat.toDigits 10 value.natAbs).length = true

theorem encoding_takes : interpreter.encoding.Takes = interpreter.Takes := by
  funext value
  simp [JsonText.Limits.Takes, encoding, Takes]

theorem decoding_takes : interpreter.decoding.Takes = interpreter.Takes := by
  funext value
  refine propext ?_
  unfold JsonText.Limits.Takes decoding readInt Takes
  dsimp only
  cases interpreter.allows (Nat.toDigits 10 value.natAbs).length <;> simp

end Interpreter

namespace JsonText

variable {interpreter : Interpreter} {value : Json}

/-- When a value is written. -/
theorem dumps_ok_of_within (within : value.Within interpreter.Takes interpreter.encodeDepth) :
    dumps interpreter value = .ok (String.ofList (write value.sortKeys)) := by
  refine dumps_ok_iff.mpr ⟨?_, rfl⟩
  rw [refusal_eq_none_iff, Interpreter.encoding_takes]
  exact (Json.within_sortKeys _ value).mpr within

/-- When it is not. -/
theorem dumps_error_of_not_within
    (beyond : ¬ value.Within interpreter.Takes interpreter.encodeDepth) (text : String) :
    dumps interpreter value ≠ .ok text := by
  intro written
  have taken := (dumps_ok_iff.mp written).1
  rw [refusal_eq_none_iff, Interpreter.encoding_takes] at taken
  exact beyond ((Json.within_sortKeys _ value).mp taken)

/-- When its text is read. -/
theorem loads_of_within {text : String} (wire : value.Wire)
    (written : dumps interpreter value = .ok text)
    (within : value.Within interpreter.Takes interpreter.decodeDepth) :
    loads interpreter text = .ok value.sortKeys := by
  have taken : refusal interpreter.decoding interpreter.decodeDepth value.sortKeys = none := by
    rw [refusal_eq_none_iff, Interpreter.decoding_takes]
    exact (Json.within_sortKeys _ value).mpr within
  rw [loads_dumps wire written, taken]

end JsonText

end Freight
