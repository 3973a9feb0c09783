/-
Module: Freight.Domain.Json
Purpose: JSON values as Python's decoder produces them, with structural and
  Python equality and object lookup.
Trusted boundary: none
Main exports: Double, Json, Json.isDict, Json.get, Json.eq, Json.Same
-/
import Mathlib.Algebra.Group.Nat.Defs
import Mathlib.Data.List.Basic

namespace Freight

/-- A binary64 number: `± mantissa · 2 ^ exponent`, or one of the special values
that Python's decoder also accepts. -/
inductive Double where
  | nan
  | infinity (negative : Bool)
  | finite (negative : Bool) (mantissa : Nat) (exponent : Int)
deriving DecidableEq, Repr

/-- Python's `==` between numbers: exact, whatever the representation; zero has
no sign and NaN equals nothing. -/
def Double.eq : Double → Double → Bool
  | .infinity left, .infinity right => left == right
  | .finite leftNegative left leftExponent, .finite rightNegative right rightExponent =>
      let scale := min leftExponent rightExponent
      let left := left * 2 ^ (leftExponent - scale).toNat
      let right := right * 2 ^ (rightExponent - scale).toNat
      left == right && (left == 0 || leftNegative == rightNegative)
  | _, _ => false

/-- A JSON value.  Integers stay exact and are distinct from floats, as in
Python; an object keeps its keys in the order in which it was built.  Strings have no
surrogate code points, which those of Python may have. -/
inductive Json where
  | null
  | bool (value : Bool)
  | int (value : Int)
  | float (value : Double)
  | str (value : String)
  | arr (items : List Json)
  | obj (fields : List (String × Json))
deriving Repr

namespace Json

mutual

/-- Structural equality test. -/
def beq : Json → Json → Bool
  | .null, .null => true
  | .bool left, .bool right => left == right
  | .int left, .int right => left == right
  | .float left, .float right => decide (left = right)
  | .str left, .str right => left == right
  | .arr left, .arr right => beqItems left right
  | .obj left, .obj right => beqFields left right
  | _, _ => false

def beqItems : List Json → List Json → Bool
  | [], [] => true
  | left :: lefts, right :: rights => beq left right && beqItems lefts rights
  | _, _ => false

def beqFields : List (String × Json) → List (String × Json) → Bool
  | [], [] => true
  | (leftKey, left) :: lefts, (rightKey, right) :: rights =>
      leftKey == rightKey && beq left right && beqFields lefts rights
  | _, _ => false

end

mutual

theorem beq_iff : ∀ left right : Json, beq left right = true ↔ left = right
  | .null, right => by cases right <;> simp [beq]
  | .bool _, right => by cases right <;> simp [beq]
  | .int _, right => by cases right <;> simp [beq]
  | .float _, right => by cases right <;> simp [beq]
  | .str _, right => by cases right <;> simp [beq]
  | .arr lefts, right => by
      cases right with
      | arr rights => simp [beq, beqItems_iff lefts rights]
      | _ => simp [beq]
  | .obj lefts, right => by
      cases right with
      | obj rights => simp [beq, beqFields_iff lefts rights]
      | _ => simp [beq]

theorem beqItems_iff : ∀ lefts rights : List Json,
    beqItems lefts rights = true ↔ lefts = rights
  | [], rights => by cases rights <;> simp [beqItems]
  | left :: lefts, rights => by
      cases rights with
      | nil => simp [beqItems]
      | cons right rights =>
          simp [beqItems, beq_iff left right, beqItems_iff lefts rights]

theorem beqFields_iff : ∀ lefts rights : List (String × Json),
    beqFields lefts rights = true ↔ lefts = rights
  | [], rights => by cases rights <;> simp [beqFields]
  | (leftKey, left) :: lefts, rights => by
      cases rights with
      | nil => simp [beqFields]
      | cons entry rights =>
          obtain ⟨rightKey, right⟩ := entry
          simp [beqFields, beq_iff left right, beqFields_iff lefts rights]

end

instance : DecidableEq Json := fun left right =>
  decidable_of_iff (beq left right = true) (beq_iff left right)

/-- `isinstance(value, dict)`. -/
def isDict : Json → Bool
  | .obj _ => true
  | _ => false

/-- `value.get(key)` on an object; anything else has no keys. -/
def get (value : Json) (key : String) : Option Json :=
  match value with
  | .obj fields => fields.lookup key
  | _ => none

/-- The number that `bool`, `int` and `float` values stand for in comparisons. -/
def number : Json → Option Double
  | .bool value => some (.finite false value.toNat 0)
  | .int value => some (.finite (value < 0) value.natAbs 0)
  | .float value => some value
  | _ => none

/-- Python's `==` on the values a scalar column can hold: numbers compare as
numbers, anything else as it is. -/
def eq (left right : Json) : Bool :=
  match left.number, right.number with
  | some left, some right => left.eq right
  | none, none => decide (left = right)
  | _, _ => false

/-- Two values that no Python program tells apart by comparing them: identical,
or equal under `==`.  They may still differ in the sign of a zero or in the type
of a number. -/
def Same (left right : Json) : Prop := left = right ∨ left.eq right = true

@[simp] theorem Same.refl (value : Json) : Same value value := .inl rfl

@[simp] theorem get_obj (fields : List (String × Json)) (key : String) :
    (Json.obj fields).get key = fields.lookup key := rfl

end Json

end Freight
