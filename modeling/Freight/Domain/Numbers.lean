/-
Module: Freight.Domain.Numbers
Purpose: Python's `==` between numbers compares what the numbers stand for: a rational or
  an infinity, whatever the representation.  Values that no comparison tells apart are
  therefore alike in the sense of an equivalence.
Trusted boundary: none
Main exports:
  Double.value, Double.eq_iff, Json.eq_iff, Json.Same.symm, Json.Same.trans
-/
import Freight.Domain.Json
import Mathlib.Algebra.Order.Field.Basic
import Mathlib.Algebra.Order.Ring.Rat
import Mathlib.Tactic.Ring

namespace Freight

namespace Double

/-- A mantissa with its sign. -/
def signed (negative : Bool) (mantissa : Nat) : Int :=
  if negative then -mantissa else mantissa

/-- What a binary64 value stands for: an infinity by its sign, or a rational.  NaN stands
for nothing. -/
def value : Double → Option (Bool ⊕ ℚ)
  | .nan => none
  | .infinity negative => some (.inl negative)
  | .finite negative mantissa exponent =>
      some (.inr (signed negative mantissa * 2 ^ exponent))

/-- Signed mantissas agree when the mantissas do, and the signs unless they are zero. -/
theorem signed_eq_iff {leftNegative rightNegative : Bool} {left right : Nat} :
    signed leftNegative left = signed rightNegative right ↔
      left = right ∧ (left = 0 ∨ leftNegative = rightNegative) := by
  cases leftNegative <;> cases rightNegative <;> simp [signed] <;> omega

/-- A mantissa can be written for any smaller exponent. -/
theorem signed_scaled (negative : Bool) (mantissa : Nat) {scale exponent : Int}
    (below : scale ≤ exponent) :
    (signed negative mantissa : ℚ) * 2 ^ exponent =
      signed negative (mantissa * 2 ^ (exponent - scale).toNat) * 2 ^ scale := by
  have distance : exponent = ((exponent - scale).toNat : Int) + scale := by omega
  have power : (2 : ℚ) ^ exponent = 2 ^ (exponent - scale).toNat * 2 ^ scale := by
    conv_lhs => rw [distance]
    rw [zpow_add₀ two_ne_zero, zpow_natCast]
  rw [power]
  cases negative
  · simp only [signed, Bool.false_eq_true, if_false]
    push_cast
    ring
  · simp only [signed, if_true]
    push_cast
    ring

/-- Two values are equal when they stand for the same. -/
theorem eq_iff {left right : Double} :
    left.eq right = true ↔ ∃ number, left.value = some number ∧ right.value = some number := by
  cases left with
  | nan => simp [eq, value]
  | infinity leftNegative =>
      cases right with
      | infinity rightNegative =>
          simp only [eq, beq_iff_eq, value, Option.some.injEq, exists_eq_left', Sum.inl.injEq]
          exact eq_comm
      | _ => simp [eq, value]
  | finite leftNegative left leftExponent =>
      cases right with
      | nan => simp [eq, value]
      | infinity rightNegative => simp [eq, value]
      | finite rightNegative right rightExponent =>
          have nonzero : (2 : ℚ) ^ min leftExponent rightExponent ≠ 0 :=
            zpow_ne_zero _ two_ne_zero
          have leftScaled := signed_scaled leftNegative left
            (min_le_left leftExponent rightExponent)
          have rightScaled := signed_scaled rightNegative right
            (min_le_right leftExponent rightExponent)
          have stands : (∃ number, value (.finite leftNegative left leftExponent) = some number ∧
                value (.finite rightNegative right rightExponent) = some number) ↔
              (signed leftNegative left : ℚ) * 2 ^ leftExponent =
                signed rightNegative right * 2 ^ rightExponent := by
            simp [value, eq_comm]
          rw [stands, leftScaled, rightScaled, mul_left_inj' nonzero, Int.cast_inj,
            signed_eq_iff]
          simp [eq]

end Double

namespace Json

/-- Two scalars are equal under `==` when both are numbers that stand for the same, or
neither is a number and they are identical. -/
theorem eq_iff {left right : Json} :
    left.eq right = true ↔
      (left.number = none ∧ left = right) ∨
        ∃ number, left.number.bind Double.value = some number ∧
          right.number.bind Double.value = some number := by
  cases leftNumber : left.number with
  | none =>
      cases rightNumber : right.number with
      | none => simp [eq, leftNumber, rightNumber]
      | some number =>
          have apart : left ≠ right := by
            intro same
            rw [same, rightNumber] at leftNumber
            cases leftNumber
          simp [eq, leftNumber, rightNumber, apart]
  | some leftValue =>
      cases rightNumber : right.number with
      | none => simp [eq, leftNumber, rightNumber]
      | some rightValue => simp [eq, leftNumber, rightNumber, Double.eq_iff]

variable {left middle right : Json}

theorem eq_symm (equal : left.eq right = true) : right.eq left = true := by
  rcases eq_iff.mp equal with ⟨text, rfl⟩ | ⟨number, leftValue, rightValue⟩
  · exact equal
  · exact eq_iff.mpr (.inr ⟨number, rightValue, leftValue⟩)

theorem eq_trans (first : left.eq middle = true) (second : middle.eq right = true) :
    left.eq right = true := by
  rcases eq_iff.mp first with ⟨text, rfl⟩ | ⟨number, leftValue, middleValue⟩
  · exact second
  · rcases eq_iff.mp second with ⟨text, rfl⟩ | ⟨other, middleOther, rightValue⟩
    · exact first
    · rw [middleValue] at middleOther
      cases middleOther
      exact eq_iff.mpr (.inr ⟨number, leftValue, rightValue⟩)

theorem Same.symm (same : Same left right) : Same right left := by
  rcases same with identical | equal
  · exact .inl identical.symm
  · exact .inr (eq_symm equal)

theorem Same.trans (first : Same left middle) (second : Same middle right) :
    Same left right := by
  rcases first with rfl | first
  · exact second
  · rcases second with rfl | second
    · exact .inr first
    · exact .inr (eq_trans first second)

end Json

end Freight
