/-
Module: Freight.Domain.Calendar
Purpose: The calendar of the `datetime` module: the date of a day number, and the day number
  of a date.
Trusted boundary: none
Main exports:
  DateTime.Representable, DateTime.ymd2ord, DateTime.ymd2ord_ord2ymd
-/
import Freight.Domain.Values

namespace Freight

/-- The day after `datetime.max`, on the wall clock. -/
def DateTime.ending : Int := 3652059 * 86400000000

namespace DateTime

/-- What a `datetime` can be: from year 1 to year 9999, and less than a day from UTC. -/
structure Representable (value : DateTime) : Prop where
  first : 0 ≤ value.wall
  last : value.wall < ending
  offset : ∀ offset ∈ value.utcoffset, offset.natAbs < 86400000000

/-! ## Days and dates -/

/-- `_is_leap`. -/
def isLeap (year : Nat) : Bool := year % 4 = 0 ∧ (year % 100 ≠ 0 ∨ year % 400 = 0)

/-- `_days_before_year`. -/
def daysBeforeYear (year : Nat) : Nat :=
  let y := year - 1
  y * 365 + y / 4 - y / 100 + y / 400

/-- `_days_before_month`. -/
def daysBeforeMonth (leapyear : Bool) (month : Nat) : Nat :=
  [0, 0, 31, 59, 90, 120, 151, 181, 212, 243, 273, 304, 334].getD month 0 +
    (if 2 < month ∧ leapyear then 1 else 0)

/-- `_days_in_month`. -/
def daysInMonth (leapyear : Bool) (month : Nat) : Nat :=
  if month = 2 ∧ leapyear then 29
  else [0, 31, 28, 31, 30, 31, 30, 31, 31, 30, 31, 30, 31].getD month 0

/-- `_ymd2ord`, with the checks of `date`. -/
def ymd2ord (year month dayOfMonth : Nat) : Option Nat :=
  if 1 ≤ year ∧ year ≤ 9999 ∧ 1 ≤ month ∧ month ≤ 12 ∧ 1 ≤ dayOfMonth ∧
      dayOfMonth ≤ daysInMonth (isLeap year) month then
    some (daysBeforeYear year + daysBeforeMonth (isLeap year) month + dayOfMonth)
  else none

/-- The month of a day of the year, and the day of the month, as `_ord2ymd` finds them. -/
def monthOf (leapyear : Bool) (n : Nat) : Nat × Nat :=
  let month := (n + 50) / 32
  let month := if n < daysBeforeMonth leapyear month then month - 1 else month
  (month, n - daysBeforeMonth leapyear month + 1)

/-- Every day of a year, common or leap, falls into the month that is found for it. -/
theorem monthOf_spec : ∀ leapyear : Bool, ∀ n < 366, n < 365 + leapyear.toNat →
    1 ≤ (monthOf leapyear n).1 ∧ (monthOf leapyear n).1 ≤ 12 ∧ 1 ≤ (monthOf leapyear n).2 ∧
      (monthOf leapyear n).2 ≤ daysInMonth leapyear (monthOf leapyear n).1 ∧
      daysBeforeMonth leapyear (monthOf leapyear n).1 + (monthOf leapyear n).2 = n + 1 := by
  decide +kernel

/-! ## There and back

A day number is split into cycles of 400, 100, 4 and 1 years and a day of the year. -/

theorem isLeap_cycles (n400 : Nat) {n100 n4 n1 : Nat} (centuries : n100 ≤ 3) (fours : n4 ≤ 24)
    (years : n1 ≤ 3) :
    isLeap (n400 * 400 + 1 + n100 * 100 + n4 * 4 + n1) =
      decide (n1 = 3 ∧ (n4 ≠ 24 ∨ n100 = 3)) := by
  unfold isLeap
  rw [decide_eq_decide]
  omega

theorem daysBeforeYear_cycles (n400 : Nat) {n100 n4 n1 : Nat} (centuries : n100 ≤ 3)
    (fours : n4 ≤ 24) (years : n1 ≤ 3) :
    daysBeforeYear (n400 * 400 + 1 + n100 * 100 + n4 * 4 + n1) =
      n400 * 146097 + n100 * 36524 + n4 * 1461 + n1 * 365 := by
  unfold daysBeforeYear
  dsimp only
  have four : (n400 * 400 + 1 + n100 * 100 + n4 * 4 + n1 - 1) / 4 =
      n400 * 100 + n100 * 25 + n4 := by
    omega
  have hundred : (n400 * 400 + 1 + n100 * 100 + n4 * 4 + n1 - 1) / 100 = n400 * 4 + n100 := by
    omega
  have whole : (n400 * 400 + 1 + n100 * 100 + n4 * 4 + n1 - 1) / 400 = n400 := by
    omega
  omega

/-- `_ord2ymd`, with the month and the day split off. -/
theorem ord2ymd_eq (ordinal : Nat) :
    ord2ymd ordinal =
      let n := ordinal - 1
      let n400 := n / 146097
      let n100 := n % 146097 / 36524
      let n4 := n % 146097 % 36524 / 1461
      let n1 := n % 146097 % 36524 % 1461 / 365
      let year := n400 * 400 + 1 + n100 * 100 + n4 * 4 + n1
      if n1 = 4 ∨ n100 = 4 then (year - 1, 12, 31)
      else (year, monthOf (decide (n1 = 3 ∧ (n4 ≠ 24 ∨ n100 = 3)))
        (n % 146097 % 36524 % 1461 % 365)) := rfl

/-- The last day of a leap year is the last one of its cycle of four years. -/
theorem ymd2ord_last (n400 n100 n4 : Nat) (centuries : n100 ≤ 3) (fours : n4 ≤ 24)
    (leapyear : n4 ≠ 24 ∨ n100 = 3) (below : n400 * 400 + n100 * 100 + n4 * 4 ≤ 9995) :
    ymd2ord (n400 * 400 + 1 + n100 * 100 + n4 * 4 + 3) 12 31 =
      some (n400 * 146097 + n100 * 36524 + n4 * 1461 + 1461) := by
  have leap := isLeap_cycles n400 centuries fours (Nat.le_refl 3)
  have before := daysBeforeYear_cycles n400 centuries fours (Nat.le_refl 3)
  rw [decide_eq_true ⟨rfl, leapyear⟩] at leap
  have month : daysBeforeMonth true 12 = 335 ∧ daysInMonth true 12 = 31 := by decide
  rw [ymd2ord, leap, before, month.1, month.2, if_pos (by omega)]

/-- Every day has the date that stands for it. -/
theorem ymd2ord_ord2ymd {ordinal : Nat} (positive : 1 ≤ ordinal) (below : ordinal ≤ 3652059) :
    ymd2ord (ord2ymd ordinal).1 (ord2ymd ordinal).2.1 (ord2ymd ordinal).2.2 = some ordinal := by
  obtain ⟨n, rfl⟩ : ∃ n, ordinal = n + 1 := ⟨ordinal - 1, by omega⟩
  rw [ord2ymd_eq, Nat.add_sub_cancel]
  dsimp only
  generalize cycles : n / 146097 = n400
  generalize centuries : n % 146097 / 36524 = n100
  generalize fours : n % 146097 % 36524 / 1461 = n4
  generalize years : n % 146097 % 36524 % 1461 / 365 = n1
  generalize days : n % 146097 % 36524 % 1461 % 365 = n0
  have whole : n = n400 * 146097 + n100 * 36524 + n4 * 1461 + n1 * 365 + n0 := by omega
  have inner : n100 * 36524 + n4 * 1461 + n1 * 365 + n0 < 146097 ∧
      n4 * 1461 + n1 * 365 + n0 < 36524 ∧ n1 * 365 + n0 < 1461 ∧ n0 < 365 := by omega
  clear cycles centuries fours years days
  -- the last day of a cycle of four or of four hundred years counts as one year too many
  by_cases last : n1 = 4 ∨ n100 = 4
  · rw [if_pos last]
    by_cases cycle : n100 = 4
    · have final := ymd2ord_last n400 3 24 (by decide) (by decide)
        (.inr rfl) (by omega)
      have year : n400 * 400 + 1 + n100 * 100 + n4 * 4 + n1 - 1 =
          n400 * 400 + 1 + 3 * 100 + 24 * 4 + 3 := by omega
      dsimp only
      rw [year, final]
      refine congrArg some ?_
      omega
    · have final := ymd2ord_last n400 n100 n4 (by omega) (by omega)
        (.inl (by omega)) (by omega)
      have year : n400 * 400 + 1 + n100 * 100 + n4 * 4 + n1 - 1 =
          n400 * 400 + 1 + n100 * 100 + n4 * 4 + 3 := by omega
      dsimp only
      rw [year, final]
      refine congrArg some ?_
      omega
  · rw [if_neg last]
    dsimp only
    have small : n100 ≤ 3 ∧ n4 ≤ 24 ∧ n1 ≤ 3 := by omega
    have leap := isLeap_cycles n400 small.1 small.2.1 small.2.2
    have before := daysBeforeYear_cycles n400 small.1 small.2.1 small.2.2
    obtain ⟨first, month, day, within, position⟩ :=
      monthOf_spec (decide (n1 = 3 ∧ (n4 ≠ 24 ∨ n100 = 3))) n0 (by omega) (by omega)
    rw [ymd2ord, leap, before, if_pos ⟨by omega, by omega, first, month, day, within⟩]
    refine congrArg some ?_
    omega

/-- The digits that a date needs. -/
theorem ymd2ord_fits {year month dayOfMonth ordinal : Nat}
    (date : ymd2ord year month dayOfMonth = some ordinal) :
    year < 10 ^ 4 ∧ month < 10 ^ 2 ∧ dayOfMonth < 10 ^ 2 := by
  have longest : ∀ leapyear : Bool, ∀ month ≤ 12, daysInMonth leapyear month ≤ 31 := by decide
  unfold ymd2ord at date
  split at date
  · rename_i valid
    obtain ⟨-, years, -, months, -, days⟩ := valid
    have short := longest (isLeap year) month months
    exact ⟨by omega, by omega, by omega⟩
  · cases date

end DateTime

end Freight
