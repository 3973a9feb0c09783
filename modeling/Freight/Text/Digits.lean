/-
Module: Freight.Text.Digits
Purpose: Decimal numerals in a text: the run of digits at its front, what a numeral stands
  for, and numerals of a fixed width.
Trusted boundary: none
Main exports:
  Text.Stops, Text.takeWhile_run, Text.dropWhile_run, Text.numeral, Text.numeral_append,
  Text.toDigits_head_ne_zero, Text.padded, Text.scanDigits, Text.scanDigits_padded
-/
import Mathlib.Data.List.Basic
import Mathlib.Tactic.Ring

namespace Text

/-! ## Runs -/

/-- A text that does not begin with a digit. -/
def Stops (rest : List Char) : Prop := ∀ character ∈ rest.head?, character.isDigit = false

theorem stops_cons {character : Char} {rest : List Char} (other : character.isDigit = false) :
    Stops (character :: rest) := by
  intro head member
  cases member
  exact other

section Runs

variable {run rest : List Char}

theorem takeWhile_rest (stops : Stops rest) : rest.takeWhile Char.isDigit = [] := by
  cases rest with
  | nil => rfl
  | cons head tail => simp [stops head rfl]

theorem dropWhile_rest (stops : Stops rest) : rest.dropWhile Char.isDigit = rest := by
  cases rest with
  | nil => rfl
  | cons head tail => simp [stops head rfl]

/-- The run of digits at the front of a text. -/
theorem takeWhile_run (digits : ∀ digit ∈ run, digit.isDigit = true) (stops : Stops rest) :
    (run ++ rest).takeWhile Char.isDigit = run := by
  rw [List.takeWhile_append_of_pos digits, takeWhile_rest stops, List.append_nil]

theorem dropWhile_run (digits : ∀ digit ∈ run, digit.isDigit = true) (stops : Stops rest) :
    (run ++ rest).dropWhile Char.isDigit = rest := by
  rw [List.dropWhile_append_of_pos digits, dropWhile_rest stops]

end Runs

/-! ## Numerals -/

/-- What a numeral stands for. -/
def numeral (digits : List Char) : Nat := Nat.ofDigitChars 10 digits 0

@[simp] theorem numeral_nil : numeral [] = 0 := Nat.ofDigitChars_nil

theorem numeral_append (first second : List Char) :
    numeral (first ++ second) = numeral first * 10 ^ second.length + numeral second := by
  rw [numeral, Nat.ofDigitChars_append, Nat.ofDigitChars_eq_ofDigitChars_zero, Nat.mul_comm]
  rfl

@[simp] theorem numeral_toDigits (value : Nat) : numeral (Nat.toDigits 10 value) = value :=
  Nat.ofDigitChars_ten_toDigits

@[simp] theorem numeral_zeros (count : Nat) : numeral (List.replicate count '0') = 0 := by
  rw [numeral, Nat.ofDigitChars_replicate_zero, Nat.mul_zero]

theorem isDigit_toDigits {value : Nat} :
    ∀ digit ∈ Nat.toDigits 10 value, digit.isDigit = true :=
  fun _ member => Nat.isDigit_of_mem_toDigits (by decide) (by decide) member

theorem isDigit_zeros {count : Nat} :
    ∀ digit ∈ List.replicate count '0', digit.isDigit = true := by
  intro digit member
  rw [List.eq_of_mem_replicate member]
  rfl

theorem isDigit_append {first second : List Char}
    (digits : ∀ digit ∈ first, digit.isDigit = true)
    (more : ∀ digit ∈ second, digit.isDigit = true) :
    ∀ digit ∈ first ++ second, digit.isDigit = true := by
  intro digit member
  rcases List.mem_append.mp member with early | late
  · exact digits digit early
  · exact more digit late

/-- The numeral of a positive number does not begin with a zero. -/
theorem toDigits_head_ne_zero {value : Nat} (positive : 0 < value) :
    ∃ first rest, Nat.toDigits 10 value = first :: rest ∧ first ≠ '0' ∧
      first.isDigit = true := by
  induction value using Nat.strongRecOn with
  | ind value inductionHypothesis =>
      by_cases small : value < 10
      · have single : ∀ digit < 10, 0 < digit →
            digit.digitChar ≠ '0' ∧ digit.digitChar.isDigit = true := by decide
        refine ⟨value.digitChar, [], Nat.toDigits_of_lt_base small, single value small positive⟩
      · obtain ⟨first, rest, whole, nonzero, digit⟩ :=
          inductionHypothesis (value / 10) (by omega) (by omega)
        refine ⟨first, rest ++ [(value % 10).digitChar], ?_, nonzero, digit⟩
        rw [Nat.toDigits_of_base_le (by decide) (by omega), whole]
        rfl

/-! ## Fixed width -/

/-- The numeral of a number, filled up with zeros. -/
def padded (width value : Nat) : List Char :=
  List.replicate (width - (Nat.toDigits 10 value).length) '0' ++ Nat.toDigits 10 value

@[simp] theorem numeral_padded (width value : Nat) : numeral (padded width value) = value := by
  rw [padded, numeral_append, numeral_zeros, numeral_toDigits]
  omega

theorem isDigit_padded {width value : Nat} :
    ∀ digit ∈ padded width value, digit.isDigit = true :=
  isDigit_append isDigit_zeros isDigit_toDigits

theorem length_padded {width value : Nat} (positive : 0 < width)
    (fits : value < 10 ^ width) : (padded width value).length = width := by
  have short := (Nat.length_toDigits_le_iff (by decide) positive).mpr fits
  rw [padded, List.length_append, List.length_replicate]
  omega

/-- A number of so many digits at the front of a text. -/
def scanDigits (width : Nat) (text : List Char) : Option (Nat × List Char) :=
  if (text.take width).length = width ∧ (text.take width).all Char.isDigit then
    some (numeral (text.take width), text.drop width)
  else none

theorem scanDigits_padded (width : Nat) {value : Nat} (positive : 0 < width)
    (fits : value < 10 ^ width) (rest : List Char) :
    scanDigits width (padded width value ++ rest) = some (value, rest) := by
  have length := length_padded positive fits
  have front : (padded width value ++ rest).take width = padded width value :=
    List.take_left' length
  have back : (padded width value ++ rest).drop width = rest := List.drop_left' length
  have digits : (padded width value).all Char.isDigit = true :=
    List.all_eq_true.mpr isDigit_padded
  rw [scanDigits, front, back, if_pos ⟨length, digits⟩, numeral_padded]

end Text
