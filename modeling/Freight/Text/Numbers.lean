/-
Module: Freight.Text.Numbers
Purpose: Numbers in a text: the scanner of a number, and the text of an integer and of a
  float, which the scanner reads back.
Trusted boundary: none
Main exports:
  Text.Number, Text.matchNumber, Text.Delimited, Text.Whole, Text.matchNumber_withSign,
  Text.intText, Text.matchNumber_intText, Text.floatText, Text.reads_floatText, Double.repr,
  Double.ofNumber, Double.matchNumber_repr
-/
import Freight.Text.Binary64
import Freight.Text.Digits
import Mathlib.Data.List.DropRight

namespace Text

/-! ## The scanner -/

/-- A number as it stands in a text. -/
structure Number where
  negative : Bool
  whole : List Char
  fraction : List Char := []
  exponent : Option Int := none
deriving DecidableEq, Repr

namespace Number

/-- A number without a fraction and an exponent is an integer. -/
def isInt (number : Number) : Bool := number.fraction.isEmpty && number.exponent.isNone

/-- What the number stands for, without the sign. -/
def magnitude (number : Number) : Nat × Int :=
  (numeral (number.whole ++ number.fraction),
    number.exponent.getD 0 - number.fraction.length)

end Number

/-- A minus sign, where there is one. -/
def matchSign : List Char → Bool × List Char
  | '-' :: rest => (true, rest)
  | rest => (false, rest)

/-- The whole part: a zero alone, or digits. -/
def matchWhole : List Char → List Char × List Char
  | '0' :: rest => (['0'], rest)
  | rest => (rest.takeWhile Char.isDigit, rest.dropWhile Char.isDigit)

/-- A point counts only before a digit. -/
def matchFraction : List Char → List Char × List Char
  | '.' :: rest =>
      if (rest.takeWhile Char.isDigit).isEmpty then ([], '.' :: rest)
      else (rest.takeWhile Char.isDigit, rest.dropWhile Char.isDigit)
  | rest => ([], rest)

/-- The digits of an exponent, behind its sign. -/
def matchExponentDigits (negative : Bool) (text : List Char) : Option (Int × List Char) :=
  let digits := text.takeWhile Char.isDigit
  if digits.isEmpty then none
  else some (if negative then -(numeral digits : Int) else numeral digits,
    text.dropWhile Char.isDigit)

/-- An exponent counts only with a digit. -/
def matchExponent : List Char → Option Int × List Char
  | head :: rest =>
      if head = 'e' ∨ head = 'E' then
        let matched :=
          match rest with
          | '-' :: rest => matchExponentDigits true rest
          | '+' :: rest => matchExponentDigits false rest
          | rest => matchExponentDigits false rest
        match matched with
        | some (exponent, rest) => (some exponent, rest)
        | none => (none, head :: rest)
      else (none, head :: rest)
  | [] => (none, [])

/-- `_match_number`: the number at the front of a text. -/
def matchNumber (text : List Char) : Option (Number × List Char) :=
  let (negative, text) := matchSign text
  let (whole, text) := matchWhole text
  if whole.isEmpty then none
  else
    let (fraction, text) := matchFraction text
    let (exponent, text) := matchExponent text
    some ({ negative, whole, fraction, exponent }, text)

/-- What follows a value in a JSON text without white space. -/
def Delimited (rest : List Char) : Prop :=
  ∀ character ∈ rest.head?, character = ',' ∨ character = ']' ∨ character = '}'

theorem delimited_nil : Delimited [] := fun _ member => nomatch member

theorem delimited_cons {character : Char} {rest : List Char}
    (delimiter : character = ',' ∨ character = ']' ∨ character = '}') :
    Delimited (character :: rest) := by
  intro head member
  cases member
  exact delimiter

section Scanning

variable {rest : List Char}

theorem Delimited.stops (delimited : Delimited rest) : Stops rest := by
  intro character member
  rcases delimited character member with rfl | rfl | rfl <;> rfl

theorem matchFraction_rest (delimited : Delimited rest) : matchFraction rest = ([], rest) := by
  cases rest with
  | nil => rfl
  | cons head tail => rcases delimited head rfl with rfl | rfl | rfl <;> rfl

theorem matchExponent_rest (delimited : Delimited rest) :
    matchExponent rest = (none, rest) := by
  cases rest with
  | nil => rfl
  | cons head tail => rcases delimited head rfl with rfl | rfl | rfl <;> rfl

/-- Digits behind a point are the fraction. -/
theorem matchFraction_run {digits : List Char} (nonempty : digits ≠ [])
    (numeric : ∀ digit ∈ digits, digit.isDigit = true) (stops : Stops rest) :
    matchFraction ('.' :: (digits ++ rest)) = (digits, rest) := by
  rw [matchFraction, takeWhile_run numeric stops, dropWhile_run numeric stops, if_neg]
  rwa [List.isEmpty_iff]

theorem matchExponentDigits_run {negative : Bool} {digits : List Char}
    (nonempty : digits ≠ []) (numeric : ∀ digit ∈ digits, digit.isDigit = true)
    (stops : Stops rest) :
    matchExponentDigits negative (digits ++ rest) =
      some (if negative then -(numeral digits : Int) else numeral digits, rest) := by
  simp only [matchExponentDigits, takeWhile_run numeric stops, dropWhile_run numeric stops]
  rw [if_neg]
  rwa [List.isEmpty_iff]

end Scanning

/-! ## Texts of numbers -/

/-- A sign in front of a number. -/
def withSign (negative : Bool) (text : List Char) : List Char :=
  if negative then '-' :: text else text

theorem withSign_append (negative : Bool) (text rest : List Char) :
    withSign negative text ++ rest = withSign negative (text ++ rest) := by
  cases negative <;> rfl

/-- The numerals that can stand before a point: a zero, or what begins with none. -/
def Whole (digits : List Char) : Prop :=
  digits = ['0'] ∨ digits.head?.any (· ≠ '0') ∧ ∀ digit ∈ digits, digit.isDigit = true

theorem isDigit_zero : ∀ digit ∈ ['0'], digit.isDigit = true := by
  intro digit member
  rw [List.mem_singleton.mp member]
  rfl

theorem Whole.isDigit {digits : List Char} (whole : Whole digits) :
    ∀ digit ∈ digits, digit.isDigit = true := by
  rcases whole with rfl | ⟨-, numeric⟩
  · exact isDigit_zero
  · exact numeric

theorem Whole.exists_cons {digits : List Char} (whole : Whole digits) :
    ∃ first more, digits = first :: more := by
  rcases whole with rfl | ⟨nonzero, -⟩
  · exact ⟨'0', [], rfl⟩
  · cases digits with
    | nil => cases nonzero
    | cons first more => exact ⟨first, more, rfl⟩

theorem whole_toDigits (value : Nat) : Whole (Nat.toDigits 10 value) := by
  rcases Nat.eq_zero_or_pos value with rfl | positive
  · exact .inl rfl
  · obtain ⟨first, more, digits, nonzero, -⟩ := toDigits_head_ne_zero positive
    refine .inr ⟨?_, isDigit_toDigits⟩
    rw [digits]
    simpa using nonzero

section Numbers

variable {negative : Bool} {digits rest : List Char}

theorem matchSign_withSign (whole : Whole digits) :
    matchSign (withSign negative (digits ++ rest)) = (negative, digits ++ rest) := by
  obtain ⟨first, more, rfl⟩ := whole.exists_cons
  have digit := whole.isDigit first List.mem_cons_self
  cases negative with
  | true => rfl
  | false =>
      simp only [withSign, Bool.false_eq_true, if_false, List.cons_append]
      unfold matchSign
      split
      · rename_i equality
        cases equality
        cases digit
      · rfl

theorem matchWhole_whole (whole : Whole digits) (stops : Stops rest) :
    matchWhole (digits ++ rest) = (digits, rest) := by
  rcases whole with rfl | ⟨nonzero, numeric⟩
  · rfl
  · unfold matchWhole
    split
    · rename_i equality
      cases digits with
      | nil => cases nonzero
      | cons first more =>
          cases equality
          cases nonzero
    · rw [takeWhile_run numeric stops, dropWhile_run numeric stops]

/-- A number is read part by part. -/
theorem matchNumber_withSign (negative : Bool) {fraction middle after : List Char}
    {exponent : Option Int}
    (whole : Whole digits) (stops : Stops rest)
    (fractional : matchFraction rest = (fraction, middle))
    (exponential : matchExponent middle = (exponent, after)) :
    matchNumber (withSign negative (digits ++ rest)) =
      some ({ negative, whole := digits, fraction, exponent }, after) := by
  have nonempty : digits.isEmpty = false := by
    obtain ⟨first, more, rfl⟩ := whole.exists_cons
    rfl
  simp only [matchNumber, matchSign_withSign whole, matchWhole_whole whole stops, nonempty,
    fractional, exponential]
  rfl

end Numbers

theorem withSign_matchSign (text : List Char) :
    text = withSign (matchSign text).1 (matchSign text).2 := by
  unfold matchSign
  split <;> rfl

theorem matchWhole_front {text : List Char} (found : (matchWhole text).1 ≠ []) :
    ∃ first more, text = first :: more ∧ first.isDigit = true := by
  unfold matchWhole at found
  split at found
  · rename_i rest
    exact ⟨'0', rest, rfl, rfl⟩
  · cases text with
    | nil => exact absurd rfl found
    | cons first more =>
        refine ⟨first, more, rfl, ?_⟩
        by_contra other
        exact found (List.takeWhile_cons_of_neg other)

/-- A number begins with a digit behind its sign. -/
theorem matchNumber_front {text : List Char} {found : Number × List Char}
    (matched : matchNumber text = some found) :
    ∃ negative first more, text = withSign negative (first :: more) ∧ first.isDigit = true := by
  have nonempty : (matchWhole (matchSign text).2).1 ≠ [] := by
    intro empty
    simp only [matchNumber, empty] at matched
    cases matched
  obtain ⟨first, more, front, digit⟩ := matchWhole_front nonempty
  refine ⟨(matchSign text).1, first, more, ?_, digit⟩
  rw [← front]
  exact withSign_matchSign text

/-- `int.__repr__`. -/
def intText (value : Int) : List Char :=
  withSign (value < 0) (Nat.toDigits 10 value.natAbs)

/-- The text of an integer is read back. -/
theorem matchNumber_intText (value : Int) {rest : List Char} (delimited : Delimited rest) :
    matchNumber (intText value ++ rest) =
      some ({ negative := value < 0, whole := Nat.toDigits 10 value.natAbs }, rest) := by
  rw [intText, withSign_append]
  exact matchNumber_withSign _ (whole_toDigits _) delimited.stops (matchFraction_rest delimited)
    (matchExponent_rest delimited)

/-- The text of the decimal number `0.digits · 10 ^ point`: with an exponent when it is very
small or very large, else with a point. -/
def floatText (digits : List Char) (point : Int) : List Char :=
  if point ≤ -4 ∨ 16 < point then
    digits.take 1 ++ (if digits.length = 1 then [] else '.' :: digits.drop 1) ++
      'e' :: (if point - 1 < 0 then '-' else '+') :: padded 2 (point - 1).natAbs
  else if point ≤ 0 then '0' :: '.' :: (List.replicate (-point).toNat '0' ++ digits)
  else if point < digits.length then digits.take point.toNat ++ '.' :: digits.drop point.toNat
  else digits ++ List.replicate (point.toNat - digits.length) '0' ++ ['.', '0']

/-- Digits and an exponent behind a sign: what a float is read from. -/
def Reads (negative : Bool) (text : List Char) (value : ℚ) : Prop :=
  ∀ rest, Delimited rest → ∃ number : Number,
    matchNumber (withSign negative text ++ rest) = some (number, rest) ∧
      number.negative = negative ∧ number.isInt = false ∧
      (number.magnitude.1 : ℚ) * 10 ^ number.magnitude.2 = value

section Floats

variable {negative : Bool} {digits : List Char} {point : Int}

theorem matchExponent_run (exponent : Int) {rest : List Char} (stops : Stops rest) :
    matchExponent ('e' :: (if exponent < 0 then '-' else '+') ::
      (padded 2 exponent.natAbs ++ rest)) = (some exponent, rest) := by
  have nonempty : padded 2 exponent.natAbs ≠ [] := by
    intro empty
    have digits := (List.append_eq_nil_iff.mp empty).2
    exact Nat.toDigits_ne_nil digits
  have run : ∀ negative, matchExponentDigits negative (padded 2 exponent.natAbs ++ rest) =
      some (if negative then -(exponent.natAbs : Int) else exponent.natAbs, rest) := by
    intro negative
    rw [matchExponentDigits_run nonempty isDigit_padded stops, numeral_padded]
  by_cases below : exponent < 0
  · have value : -(exponent.natAbs : Int) = exponent := by omega
    simp only [matchExponent, true_or, if_true, below, run, value]
  · have value : (exponent.natAbs : Int) = exponent := by omega
    simp only [matchExponent, true_or, if_true, below, run, value, if_false,
      Bool.false_eq_true]

theorem whole_of_head (nonzero : digits.head?.any (· ≠ '0') = true)
    (numeric : ∀ digit ∈ digits, digit.isDigit = true) {count : Nat} (positive : 0 < count) :
    Whole (digits.take count) := by
  refine .inr ⟨?_, fun digit member => numeric digit (List.mem_of_mem_take member)⟩
  rwa [List.head?_take, if_neg (by omega)]

/-- One digit in front of the point, and an exponent. -/
theorem reads_exponential (nonzero : digits.head?.any (· ≠ '0') = true)
    (numeric : ∀ digit ∈ digits, digit.isDigit = true) :
    Reads negative
      (digits.take 1 ++ (if digits.length = 1 then [] else '.' :: digits.drop 1) ++
        'e' :: (if point - 1 < 0 then '-' else '+') :: padded 2 (point - 1).natAbs)
      (numeral digits * 10 ^ (point - digits.length)) := by
  intro rest delimited
  have whole := whole_of_head nonzero numeric Nat.one_pos
  have exponential := matchExponent_run (point - 1) delimited.stops
  rw [withSign_append, List.append_assoc, List.append_assoc]
  cases digits with
  | nil => cases nonzero
  | cons first more =>
      cases more with
      | nil =>
          refine ⟨_, matchNumber_withSign negative whole (stops_cons rfl) rfl exponential, rfl,
            rfl, ?_⟩
          simp [Number.magnitude]
      | cons second more =>
          have fraction : ∀ digit ∈ second :: more, digit.isDigit = true :=
            fun digit member => numeric digit (List.mem_cons_of_mem first member)
          refine ⟨_, matchNumber_withSign negative whole (stops_cons rfl)
            (matchFraction_run (List.cons_ne_nil second more) fraction (stops_cons rfl))
            exponential, rfl, rfl, ?_⟩
          have places : point - 1 - (((first :: second :: more).drop 1).length : Int) =
              point - ((first :: second :: more).length : Int) := by
            simp only [List.drop_one, List.tail_cons, List.length_cons]
            omega
          simp only [Number.magnitude, Option.getD_some, places, List.take_append_drop]

/-- Zeros behind the point. -/
theorem reads_small (nonempty : digits ≠ [])
    (numeric : ∀ digit ∈ digits, digit.isDigit = true) (small : point ≤ 0) :
    Reads negative ('0' :: '.' :: (List.replicate (-point).toNat '0' ++ digits))
      (numeral digits * 10 ^ (point - digits.length)) := by
  intro rest delimited
  rw [withSign_append]
  have fractional := matchFraction_run
    (List.append_ne_nil_of_right_ne_nil (List.replicate (-point).toNat '0') nonempty)
    (isDigit_append isDigit_zeros numeric) delimited.stops
  have zero : Whole ['0'] := .inl rfl
  have matched := matchNumber_withSign negative zero (stops_cons rfl) fractional
    (matchExponent_rest delimited)
  refine ⟨_, matched, rfl, ?_, ?_⟩
  · simp [Number.isInt, nonempty]
  · have value : numeral (['0'] ++ (List.replicate (-point).toNat '0' ++ digits)) =
        numeral digits := by
      rw [← List.append_assoc, ← List.replicate_one, List.replicate_append_replicate,
        numeral_append, numeral_zeros, Nat.zero_mul, Nat.zero_add]
    have places : 0 - (((List.replicate (-point).toNat '0' ++ digits).length : Nat) : Int) =
        point - digits.length := by
      simp only [List.length_append, List.length_replicate]
      omega
    simp only [Number.magnitude, Option.getD_none, value, places]

/-- A point among the digits. -/
theorem reads_split (nonzero : digits.head?.any (· ≠ '0') = true)
    (numeric : ∀ digit ∈ digits, digit.isDigit = true) (positive : 0 < point)
    (inside : point < digits.length) :
    Reads negative (digits.take point.toNat ++ '.' :: digits.drop point.toNat)
      (numeral digits * 10 ^ (point - digits.length)) := by
  intro rest delimited
  have length : (digits.drop point.toNat).length = digits.length - point.toNat :=
    List.length_drop
  have nonempty : digits.drop point.toNat ≠ [] := by
    intro empty
    rw [empty, List.length_nil] at length
    omega
  rw [withSign_append, List.append_assoc]
  have fractional := matchFraction_run nonempty
    (fun digit member => numeric digit (List.mem_of_mem_drop member)) delimited.stops
  refine ⟨_, matchNumber_withSign negative (whole_of_head nonzero numeric (by omega))
    (stops_cons rfl)
    fractional (matchExponent_rest delimited), rfl, ?_, ?_⟩
  · simp [Number.isInt, nonempty]
  · have places : 0 - ((digits.drop point.toNat).length : Int) = point - digits.length := by
      rw [length]
      omega
    simp only [Number.magnitude, Option.getD_none, List.take_append_drop, places]

/-- Zeros in front of the point. -/
theorem reads_large (nonzero : digits.head?.any (· ≠ '0') = true)
    (numeric : ∀ digit ∈ digits, digit.isDigit = true) (outside : digits.length ≤ point) :
    Reads negative
      (digits ++ List.replicate (point.toNat - digits.length) '0' ++ ['.', '0'])
      (numeral digits * 10 ^ (point - digits.length)) := by
  intro rest delimited
  rw [withSign_append, List.append_assoc]
  have whole : Whole (digits ++ List.replicate (point.toNat - digits.length) '0') := by
    refine .inr ⟨?_, isDigit_append numeric isDigit_zeros⟩
    cases digits with
    | nil => cases nonzero
    | cons first more => exact nonzero
  have fractional : matchFraction ('.' :: (['0'] ++ rest)) = (['0'], rest) :=
    matchFraction_run (by decide) isDigit_zero delimited.stops
  refine ⟨_, matchNumber_withSign negative whole (stops_cons rfl) fractional
    (matchExponent_rest delimited), rfl, rfl, ?_⟩
  have shift : (point - digits.length : Int) = (point.toNat - digits.length : Nat) := by omega
  have zeros : ['0'] = List.replicate 1 '0' := rfl
  have value : numeral (digits ++ List.replicate (point.toNat - digits.length) '0' ++ ['0']) =
      numeral digits * 10 ^ (point.toNat - digits.length + 1) := by
    rw [zeros, List.append_assoc, List.replicate_append_replicate, numeral_append,
      numeral_zeros, List.length_replicate, Nat.add_zero]
  simp only [Number.magnitude, Option.getD_none, value, shift]
  push_cast
  rw [zpow_natCast, pow_succ, mul_assoc, mul_assoc]
  norm_num

/-- The text of a decimal number is read back. -/
theorem reads_floatText (nonzero : digits.head?.any (· ≠ '0') = true)
    (numeric : ∀ digit ∈ digits, digit.isDigit = true) :
    Reads negative (floatText digits point) (numeral digits * 10 ^ (point - digits.length)) := by
  have nonempty : digits ≠ [] := by
    rintro rfl
    cases nonzero
  unfold floatText
  split
  · exact reads_exponential nonzero numeric
  split
  · rename_i small
    exact reads_small nonempty numeric small
  split
  · rename_i positive inside
    exact reads_split nonzero numeric (by omega) inside
  · exact reads_large nonzero numeric (by omega)

end Floats

end Text

namespace Freight.Double

open Text

/-! ## Floats -/

/-- `float.__repr__` of a finite number. -/
def finiteText (negative : Bool) (mantissa : Nat) (exponent : Int) : List Char :=
  if mantissa = 0 then ['0', '.', '0']
  else
    let (digits, exponent) := shortest negative mantissa exponent
    let digits := Nat.toDigits 10 digits
    floatText (digits.rdropWhile (· = '0')) (digits.length + exponent)

/-- `float.__repr__`, with the names that JSON texts have for what is not finite. -/
def repr : Double → List Char
  | .nan => "NaN".toList
  | .infinity negative => withSign negative "Infinity".toList
  | .finite negative mantissa exponent =>
      withSign negative (finiteText negative mantissa exponent)

/-- `float` of a number in a text. -/
def ofNumber (number : Number) : Double :=
  ofDecimal number.negative number.magnitude.1 number.magnitude.2

/-- Zeros at the end of the digits only move the point. -/
theorem numeral_rdropWhile (digits : List Char) (exponent : Int) :
    (numeral (digits.rdropWhile (· = '0')) : ℚ) *
        10 ^ (digits.length + exponent - (digits.rdropWhile (· = '0')).length) =
      numeral digits * 10 ^ exponent := by
  induction digits using List.reverseRecOn generalizing exponent with
  | nil => simp
  | append_singleton digits last inductionHypothesis =>
      by_cases zero : last = '0'
      · have shorter := inductionHypothesis (exponent + 1)
        have length : ((digits ++ [last]).length + exponent : Int) =
            digits.length + (exponent + 1) := by
          rw [List.length_append, List.length_singleton]
          omega
        rw [List.rdropWhile_concat_pos _ _ _ (by simpa using zero), length, shorter, zero,
          numeral_append, zpow_add_one₀ (by norm_num)]
        have value : numeral ['0'] = 0 := rfl
        rw [value, List.length_singleton]
        push_cast
        ring
      · rw [List.rdropWhile_concat_neg _ _ _ (by simpa using zero), add_sub_cancel_left]

/-- What is left of the digits begins with no zero. -/
theorem rdropWhile_head {value : Nat} (positive : 0 < value) :
    (((Nat.toDigits 10 value).rdropWhile (· = '0')).head?.any (· ≠ '0')) = true := by
  obtain ⟨first, more, digits, nonzero, -⟩ := toDigits_head_ne_zero positive
  rw [digits]
  cases kept : (first :: more).rdropWhile (· = '0') with
  | nil =>
      have zeros := List.rdropWhile_eq_nil_iff.mp kept first List.mem_cons_self
      exact absurd (by simpa using zeros) nonzero
  | cons head tail =>
      have front := List.rdropWhile_prefix (fun digit => decide (digit = '0')) (first :: more)
      rw [kept] at front
      obtain ⟨rfl, -⟩ := List.cons_prefix_cons.mp front
      simpa using nonzero

section

variable {negative : Bool} {mantissa : Nat} {exponent : Int}

/-- The shortest decimal number of a positive number is positive. -/
theorem shortest_positive (positive : 0 < mantissa)
    (finite : Finite (.finite negative mantissa exponent)) :
    0 < (shortest negative mantissa exponent).1 := by
  have back := ofDecimal_shortest positive finite
  rcases Nat.eq_zero_or_pos (shortest negative mantissa exponent).1 with zero | found
  · rw [zero] at back
    simp only [ofDecimal, ofRat, Nat.cast_zero, zero_mul, if_true, Double.finite.injEq] at back
    omega
  · exact found

/-- The text of a finite number is read back. -/
theorem matchNumber_repr (finite : Finite (.finite negative mantissa exponent))
    {rest : List Char} (delimited : Delimited rest) :
    ∃ number, matchNumber (repr (.finite negative mantissa exponent) ++ rest) =
        some (number, rest) ∧ number.isInt = false ∧
      ofNumber number = .finite negative mantissa exponent := by
  rcases Nat.eq_zero_or_pos mantissa with rfl | positive
  · have least : exponent = -1074 := by
      rcases finite with ⟨-, least⟩ | ⟨large, -⟩
      · exact least
      · omega
    have zero : Whole ['0'] := .inl rfl
    have fractional : matchFraction ('.' :: (['0'] ++ rest)) = (['0'], rest) :=
      matchFraction_run (by decide) isDigit_zero delimited.stops
    have matched := matchNumber_withSign negative zero (stops_cons rfl) fractional
      (matchExponent_rest delimited)
    have value : ofDecimal negative (numeral ['0', '0']) (0 - 1) =
        .finite negative 0 (-1074) := by
      have digits : numeral ['0', '0'] = 0 := rfl
      simp [digits, ofDecimal, ofRat]
    rw [least]
    refine ⟨{ negative, whole := ['0'], fraction := ['0'] }, ?_, rfl, value⟩
    rw [repr, finiteText, if_pos rfl, withSign_append]
    exact matched
  · have found := shortest_positive positive finite
    have back := ofDecimal_shortest positive finite
    rcases chosen : shortest negative mantissa exponent with ⟨digits, places⟩
    rw [chosen] at found back
    have reads : Reads negative (finiteText negative mantissa exponent)
        (digits * 10 ^ places) := by
      have value := numeral_rdropWhile (Nat.toDigits 10 digits) places
      rw [numeral_toDigits] at value
      rw [finiteText, if_neg (Nat.ne_of_gt positive), chosen, ← value]
      exact reads_floatText (rdropWhile_head found) fun digit member =>
        isDigit_toDigits digit ((List.rdropWhile_prefix _ _).subset member)
    obtain ⟨number, matched, sign, float, value⟩ := reads rest delimited
    refine ⟨number, matched, float, ?_⟩
    rw [ofNumber, ofDecimal, sign, value]
    exact back

end

end Freight.Double
