/-
Module: Freight.Text.Binary64
Purpose: Decimal numbers and binary64: the nearest binary64 number to a decimal one, and the
  shortest decimal one from which a binary64 number can be had back.
Trusted boundary: none
Main exports:
  Double.Finite, Double.ofRat, Double.ofRat_finite, Double.ofDecimal, Double.shortest,
  Double.ofDecimal_shortest
-/
import Freight.Domain.Json
import Mathlib.Algebra.Order.Ring.Rat
import Mathlib.Data.Int.Log
import Mathlib.Data.Rat.Floor
import Mathlib.Tactic.Linarith
import Mathlib.Tactic.NormNum

namespace Freight.Double

/-! ## The nearest number -/

/-- The finite binary64 numbers: 53 bits, unless the exponent is the smallest one. -/
def Finite : Double → Prop
  | .finite _ mantissa exponent =>
      (mantissa < 2 ^ 52 ∧ exponent = -1074) ∨
        (2 ^ 52 ≤ mantissa ∧ mantissa < 2 ^ 53 ∧ -1074 ≤ exponent ∧ exponent ≤ 971)
  | _ => False

/-- The nearest natural number, the even one of two. -/
def roundHalfEven (value : ℚ) : Nat :=
  let below := ⌊value⌋₊
  if value - below < 1 / 2 then below
  else if 1 / 2 < value - below then below + 1
  else if below % 2 = 0 then below
  else below + 1

/-- The nearest binary64 number to a positive rational, with a sign. -/
def ofRat (negative : Bool) (value : ℚ) : Double :=
  if value = 0 then .finite negative 0 (-1074)
  else
    let exponent := max (-1074) (Int.log 2 value - 52)
    let mantissa := roundHalfEven (value / 2 ^ exponent)
    let (mantissa, exponent) :=
      if mantissa = 2 ^ 53 then (2 ^ 52, exponent + 1) else (mantissa, exponent)
    if 971 < exponent then .infinity negative else .finite negative mantissa exponent

/-- `float` of a decimal number. -/
def ofDecimal (negative : Bool) (digits : Nat) (exponent : Int) : Double :=
  ofRat negative (digits * 10 ^ exponent)

theorem roundHalfEven_natCast (value : Nat) : roundHalfEven (value : ℚ) = value := by
  simp [roundHalfEven]

section Rounding

variable {mantissa : Nat} {exponent : Int}

/-- The exponent that is chosen for a binary64 number is its own. -/
theorem exponent_eq (positive : 0 < mantissa) {negative : Bool}
    (finite : Finite (.finite negative mantissa exponent)) :
    max (-1074) (Int.log 2 ((mantissa : ℚ) * 2 ^ exponent) - 52) = exponent := by
  have two : (1 : Nat) < 2 := by decide
  have scale : (0 : ℚ) < 2 ^ exponent := zpow_pos two_pos exponent
  have value : (0 : ℚ) < (mantissa : ℚ) * 2 ^ exponent :=
    mul_pos (Nat.cast_pos.mpr positive) scale
  have below : ∀ bits : Nat, mantissa < 2 ^ bits →
      Int.log 2 ((mantissa : ℚ) * 2 ^ exponent) < bits + exponent := by
    intro bits small
    refine (Int.lt_zpow_iff_log_lt two value).mp ?_
    rw [Nat.cast_ofNat, zpow_add₀ two_ne_zero, zpow_natCast]
    refine (mul_lt_mul_iff_left₀ scale).mpr ?_
    exact_mod_cast small
  have above : ∀ bits : Nat, 2 ^ bits ≤ mantissa →
      bits + exponent ≤ Int.log 2 ((mantissa : ℚ) * 2 ^ exponent) := by
    intro bits large
    refine (Int.zpow_le_iff_le_log two value).mp ?_
    rw [Nat.cast_ofNat, zpow_add₀ two_ne_zero, zpow_natCast]
    refine (mul_le_mul_iff_left₀ scale).mpr ?_
    exact_mod_cast large
  rcases finite with ⟨small, rfl⟩ | ⟨large, small, least, -⟩
  · have upper := below 52 small
    omega
  · have lower := above 52 large
    have upper := below 53 small
    omega

/-- A binary64 number is the nearest one to itself. -/
theorem ofRat_finite {negative : Bool}
    (finite : Finite (.finite negative mantissa exponent)) :
    ofRat negative (mantissa * 2 ^ exponent) = .finite negative mantissa exponent := by
  rcases Nat.eq_zero_or_pos mantissa with rfl | positive
  · have least : exponent = -1074 := by
      rcases finite with ⟨-, least⟩ | ⟨large, -⟩
      · exact least
      · omega
    simp [ofRat, least]
  · have scale : (2 : ℚ) ^ exponent ≠ 0 := zpow_ne_zero exponent two_ne_zero
    have nonzero : (mantissa : ℚ) * 2 ^ exponent ≠ 0 :=
      mul_ne_zero (Nat.cast_ne_zero.mpr (Nat.ne_of_gt positive)) scale
    have bounds : mantissa ≠ 2 ^ 53 ∧ exponent ≤ 971 := by
      rcases finite with ⟨small, rfl⟩ | ⟨-, small, -, most⟩
      · exact ⟨by omega, by omega⟩
      · exact ⟨by omega, most⟩
    rw [ofRat, if_neg nonzero]
    simp only [exponent_eq positive finite, mul_div_cancel_right₀ _ scale,
      roundHalfEven_natCast, if_neg bounds.1, if_neg (Int.not_lt.mpr bounds.2)]

end Rounding

/-! ## The shortest decimal number -/

/-- The decimal numbers with so many digits on both sides of a value, the nearer one first,
with their exponent. -/
def candidates (value : ℚ) (count : Nat) : List (Nat × Int) :=
  let exponent := Int.log 10 value + 1 - count
  let below := ⌊value / 10 ^ exponent⌋₊
  let near := roundHalfEven (value / 10 ^ exponent)
  [(near, exponent), (if near = below then below + 1 else below, exponent)]

/-- One from which the number can be had back. -/
def shortestAt (negative : Bool) (mantissa : Nat) (exponent : Int) (count : Nat) :
    Option (Nat × Int) :=
  (candidates (mantissa * 2 ^ exponent) count).find? fun candidate =>
    ofDecimal negative candidate.1 candidate.2 = .finite negative mantissa exponent

/-- The one with the fewest digits.  Seventeen are always enough, but the search goes on to
where the decimal expansion is exact. -/
def shortest (negative : Bool) (mantissa : Nat) (exponent : Int) : Nat × Int :=
  ((List.range 1400).findSome? fun count =>
    shortestAt negative mantissa exponent (count + 1)).getD (0, 0)

section Shortest

variable {negative : Bool} {mantissa : Nat} {exponent : Int}

/-- A binary64 number has a finite decimal expansion. -/
theorem exists_decimal (mantissa : Nat) (exponent : Int) :
    ∃ digits : Nat, (mantissa : ℚ) * 2 ^ exponent = digits * 10 ^ min exponent 0 := by
  rcases Int.le_total 0 exponent with whole | fraction
  · refine ⟨mantissa * 2 ^ exponent.toNat, ?_⟩
    rw [min_eq_right whole, zpow_zero, mul_one]
    push_cast
    rw [← zpow_natCast, Int.toNat_of_nonneg whole]
  · refine ⟨mantissa * 5 ^ (-exponent).toNat, ?_⟩
    have ten : (10 : ℚ) = 5 * 2 := by norm_num
    have five : (5 : ℚ) ^ (-exponent).toNat * 5 ^ exponent = 1 := by
      rw [← zpow_natCast, Int.toNat_of_nonneg (by omega), ← zpow_add₀ (by norm_num)]
      simp
    rw [min_eq_left fraction, ten, mul_zpow]
    push_cast
    rw [mul_assoc, ← mul_assoc (5 ^ (-exponent).toNat : ℚ), five, one_mul]

/-- The first digit of a binary64 number comes before the last one of its expansion. -/
theorem log_bounds (positive : 0 < mantissa)
    (finite : Finite (.finite negative mantissa exponent)) :
    min exponent 0 ≤ Int.log 10 ((mantissa : ℚ) * 2 ^ exponent) ∧
      Int.log 10 ((mantissa : ℚ) * 2 ^ exponent) < 309 ∧ -1074 ≤ exponent := by
  have ten : (1 : Nat) < 10 := by decide
  have scale : (0 : ℚ) < 2 ^ exponent := zpow_pos two_pos exponent
  have least : (1 : ℚ) ≤ mantissa := by exact_mod_cast positive
  have value : (0 : ℚ) < (mantissa : ℚ) * 2 ^ exponent :=
    mul_pos (by exact_mod_cast positive) scale
  have range : mantissa < 2 ^ 53 ∧ -1074 ≤ exponent ∧ exponent ≤ 971 := by
    rcases finite with ⟨small, rfl⟩ | ⟨-, small, lower, upper⟩
    · exact ⟨by omega, by omega, by omega⟩
    · exact ⟨small, lower, upper⟩
  obtain ⟨small, lower, upper⟩ := range
  refine ⟨(Int.zpow_le_iff_le_log ten value).mp ?_,
    (Int.lt_zpow_iff_log_lt ten value).mp ?_, lower⟩
  · rw [Nat.cast_ofNat]
    have power : (10 : ℚ) ^ min exponent 0 ≤ 2 ^ exponent := by
      rcases Int.le_total 0 exponent with whole | fraction
      · rw [min_eq_right whole, zpow_zero]
        exact one_le_zpow₀ one_le_two whole
      · obtain ⟨places, rfl⟩ := Int.exists_eq_neg_ofNat fraction
        rw [min_eq_left fraction, zpow_neg, zpow_neg, zpow_natCast, zpow_natCast]
        exact inv_anti₀ (pow_pos two_pos places)
          (pow_le_pow_left₀ two_pos.le (by norm_num) places)
    calc (10 : ℚ) ^ min exponent 0 ≤ 2 ^ exponent := power
      _ = 1 * 2 ^ exponent := (one_mul _).symm
      _ ≤ mantissa * 2 ^ exponent := (mul_le_mul_iff_left₀ scale).mpr least
  · rw [Nat.cast_ofNat]
    have bits : (mantissa : ℚ) < 2 ^ 53 := by exact_mod_cast small
    calc (mantissa : ℚ) * 2 ^ exponent < 2 ^ 53 * 2 ^ exponent :=
          (mul_lt_mul_iff_left₀ scale).mpr bits
      _ ≤ 2 ^ 53 * 2 ^ (971 : Int) :=
          mul_le_mul_of_nonneg_left (zpow_le_zpow_right₀ one_le_two upper) (by positivity)
      _ = 2 ^ 1024 := by
          rw [← zpow_natCast, ← zpow_add₀ two_ne_zero]
          rfl
      _ ≤ 10 ^ (309 : Int) := by
          have whole : (2 ^ 1024 : Nat) ≤ 10 ^ 309 := by decide +kernel
          exact_mod_cast whole

/-- With enough digits one of the candidates is the number itself. -/
theorem exists_shortestAt (positive : 0 < mantissa)
    (finite : Finite (.finite negative mantissa exponent)) :
    ∃ count < 1400, (shortestAt negative mantissa exponent (count + 1)).isSome := by
  obtain ⟨digits, expansion⟩ := exists_decimal mantissa exponent
  obtain ⟨least, most, smallest⟩ := log_bounds positive finite
  have scale : (10 : ℚ) ^ min exponent 0 ≠ 0 := zpow_ne_zero _ (by norm_num)
  generalize value : (mantissa : ℚ) * 2 ^ exponent = number at expansion least most
  refine ⟨(Int.log 10 number - min exponent 0).toNat, by omega, ?_⟩
  have last : Int.log 10 number + 1 -
      (((Int.log 10 number - min exponent 0).toNat + 1 : Nat) : Int) = min exponent 0 := by
    omega
  have near : roundHalfEven (number / 10 ^ min exponent 0) = digits := by
    rw [expansion, mul_div_cancel_right₀ _ scale, roundHalfEven_natCast]
  have exact : ofDecimal negative digits (min exponent 0) =
      .finite negative mantissa exponent := by
    rw [ofDecimal, ← expansion, ← value, ofRat_finite finite]
  rw [shortestAt, value, candidates]
  simp only [last, near]
  rw [List.find?_cons_of_pos (by simpa using exact)]
  rfl

/-- The number can be had back from its shortest decimal one. -/
theorem ofDecimal_shortest (positive : 0 < mantissa)
    (finite : Finite (.finite negative mantissa exponent)) :
    ofDecimal negative (shortest negative mantissa exponent).1
      (shortest negative mantissa exponent).2 = .finite negative mantissa exponent := by
  obtain ⟨count, bounded, found⟩ := exists_shortestAt positive finite
  have some : ((List.range 1400).findSome? fun count =>
      shortestAt negative mantissa exponent (count + 1)).isSome := by
    rw [List.findSome?_isSome_iff]
    exact ⟨count, List.mem_range.mpr bounded, found⟩
  obtain ⟨candidate, chosen⟩ := Option.isSome_iff_exists.mp some
  obtain ⟨other, -, reads⟩ := List.exists_of_findSome?_eq_some chosen
  rw [shortest, chosen]
  have back := List.find?_some reads
  simpa using back

end Shortest

end Freight.Double
