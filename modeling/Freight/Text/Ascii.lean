/-
Module: Freight.Text.Ascii
Purpose: The encoder writes nothing but printable ASCII, so that its texts are the same as
  characters and as bytes, and each of them is one line.
Trusted boundary: none
Main exports:
  Text.Ascii, Text.bytes, Text.ofBytes, Text.ofBytes_bytes, Text.Printable,
  JsonText.printable_write, JsonText.ascii_write
-/
import Freight.Text.JsonText

namespace Text

/-- Characters of ASCII, without the null character. -/
def Ascii (text : List Char) : Prop :=
  ∀ character ∈ text, 0 < character.toNat ∧ character.toNat < 128

instance (text : List Char) : Decidable (Ascii text) :=
  List.decidableBAll _ text

/-- A text in ASCII, as bytes. -/
def bytes (text : String) : List UInt8 := text.toList.map fun character => .ofNat character.toNat

/-- Bytes that are a text in ASCII. -/
def ofBytes (body : List UInt8) : Option String :=
  if body.all fun byte => 0 < byte && byte < 128 then
    some (String.ofList (body.map fun byte => Char.ofNat byte.toNat))
  else none

theorem ofBytes_bytes {text : String} (ascii : Ascii text.toList) :
    ofBytes (bytes text) = some text := by
  have unit : ∀ character ∈ text.toList,
      (UInt8.ofNat character.toNat).toNat = character.toNat := by
    intro character member
    have small := ascii character member
    simp only [UInt8.toNat_ofNat']
    omega
  have inside : (bytes text).all (fun byte => 0 < byte && byte < 128) = true := by
    refine List.all_eq_true.mpr ?_
    intro byte member
    obtain ⟨character, present, rfl⟩ := List.mem_map.mp member
    have small := ascii character present
    have value := unit character present
    simp only [Bool.and_eq_true, decide_eq_true_eq, UInt8.lt_iff_toNat_lt, value]
    exact small
  have back : (bytes text).map (fun byte => Char.ofNat byte.toNat) = text.toList := by
    rw [bytes, List.map_map]
    refine (List.map_congr_left ?_).trans (List.map_id _)
    intro character member
    simp only [Function.comp_apply, unit character member, Char.ofNat_toNat, id]
  rw [ofBytes, if_pos inside, back, String.ofList_toList]

/-! ## Printable texts -/

/-- From the space to the tilde. -/
def Printable (text : List Char) : Prop :=
  ∀ character ∈ text, 32 ≤ character.toNat ∧ character.toNat < 127

instance (text : List Char) : Decidable (Printable text) :=
  List.decidableBAll _ text

theorem Printable.ascii {text : List Char} (printable : Printable text) : Ascii text := by
  intro character member
  have range := printable character member
  omega

variable {first second text : List Char} {character : Char}

theorem printable_append (left : Printable first) (right : Printable second) :
    Printable (first ++ second) := by
  intro character member
  rcases List.mem_append.mp member with early | late
  · exact left character early
  · exact right character late

theorem printable_cons (head : 32 ≤ character.toNat ∧ character.toNat < 127)
    (tail : Printable text) : Printable (character :: text) := by
  intro character member
  rcases List.mem_cons.mp member with rfl | inside
  · exact head
  · exact tail character inside

theorem printable_of_isDigit (digits : ∀ digit ∈ text, digit.isDigit = true) : Printable text := by
  intro digit member
  have range := digits digit member
  simp only [Char.isDigit, Bool.and_eq_true, decide_eq_true_eq] at range
  obtain ⟨low, high⟩ := range
  have low : 48 ≤ digit.toNat := UInt32.le_iff_toNat_le.mp low
  have high : digit.toNat ≤ 57 := UInt32.le_iff_toNat_le.mp high
  omega

theorem printable_of_subset (subset : first ⊆ second) (printable : Printable second) :
    Printable first :=
  fun character member => printable character (subset member)

theorem printable_withSign (negative : Bool) (printable : Printable text) :
    Printable (withSign negative text) := by
  cases negative with
  | true => exact printable_cons (by decide) printable
  | false => exact printable

theorem printable_floatText {digits : List Char} (numeric : ∀ digit ∈ digits, digit.isDigit = true)
    (point : Int) : Printable (floatText digits point) := by
  have whole := printable_of_isDigit numeric
  have front : ∀ count, Printable (digits.take count) := fun count =>
    printable_of_subset (List.take_subset count digits) whole
  have back : ∀ count, Printable (digits.drop count) := fun count =>
    printable_of_subset (List.drop_subset count digits) whole
  have zeros : ∀ count, Printable (List.replicate count '0') := fun count =>
    printable_of_isDigit isDigit_zeros
  have places : Printable (padded 2 (point - 1).natAbs) := printable_of_isDigit isDigit_padded
  unfold floatText
  split
  · refine printable_append (printable_append (front 1) ?_)
      (printable_cons (by decide) (printable_cons ?_ places))
    · split
      · exact fun _ member => nomatch member
      · exact printable_cons (by decide) (back 1)
    · split <;> decide
  split
  · exact printable_cons (by decide) (printable_cons (by decide) (printable_append (zeros _) whole))
  split
  · exact printable_append (front _) (printable_cons (by decide) (back _))
  · exact printable_append (printable_append whole (zeros _)) (by decide)

end Text

/-! ## The encoder's texts -/

namespace Freight

open Text (Ascii Printable printable_append printable_cons printable_of_isDigit
  printable_withSign printable_floatText)

/-- The text of zero. -/
theorem printable_zero : Printable ['0', '.', '0'] := by decide

theorem Double.printable_finiteText (negative : Bool) (mantissa : Nat) (exponent : Int) :
    Printable (finiteText negative mantissa exponent) := by
  unfold finiteText
  split
  · exact printable_zero
  · rcases shortest negative mantissa exponent with ⟨digits, places⟩
    dsimp only
    refine printable_floatText ?_ _
    intro digit member
    exact Text.isDigit_toDigits digit ((List.rdropWhile_prefix _ _).subset member)

theorem Double.printable_repr (value : Double) : Printable value.repr := by
  cases value with
  | nan => decide
  | infinity negative => exact printable_withSign negative (by decide)
  | finite negative mantissa exponent =>
      exact printable_withSign negative (printable_finiteText negative mantissa exponent)

theorem printable_hexDigits (width value : Nat) : Printable (hexDigits width value) := by
  have digits : ∀ digit < 16, 32 ≤ (hexDigit digit).toNat ∧ (hexDigit digit).toNat < 127 := by
    decide
  induction width generalizing value with
  | zero => exact fun _ member => nomatch member
  | succ width inductionHypothesis =>
      exact printable_append (inductionHypothesis _)
        (printable_cons (digits _ (Nat.mod_lt _ (by decide))) fun _ member => nomatch member)

namespace JsonText

theorem printable_unitEscape (unit : Nat) : Printable (unitEscape unit) :=
  printable_cons (by decide) (printable_cons (by decide) (printable_hexDigits 4 unit))

theorem printable_escape (character : Char) : Printable (escape character) := by
  unfold escape
  dsimp only
  cases escaped : escapeLetter character with
  | some letter =>
      unfold escapeLetter at escaped
      split at escaped <;> cases escaped <;> decide
  | none =>
      dsimp only
      split
      · rename_i printable
        have low : 32 ≤ character.toNat :=
          UInt32.le_iff_toNat_le.mp (Char.le_def.mp printable.1)
        have high : character.toNat ≤ 126 :=
          UInt32.le_iff_toNat_le.mp (Char.le_def.mp printable.2)
        exact printable_cons (by omega) fun _ member => nomatch member
      split
      · exact printable_unitEscape _
      · exact printable_append (printable_unitEscape _) (printable_unitEscape _)

theorem printable_encodeString (text : String) : Printable (encodeString text) := by
  refine printable_cons (by decide) (printable_append ?_ (by decide))
  intro character member
  obtain ⟨original, -, inside⟩ := List.mem_flatMap.mp member
  exact printable_escape original character inside

mutual

theorem printable_write : ∀ value : Json, Printable (write value)
  | .null => by decide
  | .bool true => by decide
  | .bool false => by decide
  | .int value => printable_withSign _ (printable_of_isDigit Text.isDigit_toDigits)
  | .float value => value.printable_repr
  | .str value => printable_encodeString value
  | .arr items =>
      printable_cons (by decide) (printable_append (printable_writeItems items) (by decide))
  | .obj fields =>
      printable_cons (by decide) (printable_append (printable_writeFields fields) (by decide))

theorem printable_writeItems : ∀ items : List Json, Printable (writeItems items)
  | [] => fun _ member => nomatch member
  | [item] => printable_write item
  | item :: next :: items =>
      printable_append (printable_write item)
        (printable_cons (by decide) (printable_writeItems (next :: items)))

theorem printable_writeFields : ∀ fields : List (String × Json), Printable (writeFields fields)
  | [] => fun _ member => nomatch member
  | [(key, value)] =>
      printable_append (printable_encodeString key)
        (printable_cons (by decide) (printable_write value))
  | (key, value) :: next :: fields =>
      printable_append (printable_encodeString key) (printable_cons (by decide)
        (printable_append (printable_write value)
          (printable_cons (by decide) (printable_writeFields (next :: fields)))))

end

theorem ascii_write (value : Json) : Ascii (write value) := (printable_write value).ascii

end JsonText

end Freight
