/-
Module: Freight.Text.Strings
Purpose: Strings in a JSON text: the encoder's escapes, the scanner of a string, and that
  the scanner reads back what the encoder writes.
Trusted boundary: none
Main exports:
  hexNumeral, hexNumeral_hexDigits, JsonText.escape, JsonText.encodeString,
  JsonText.scanString, JsonText.scanString_flatMap
-/
import Freight.Domain.Values

namespace Freight

/-! ## Hexadecimal numerals -/

/-- The value of a hexadecimal digit, of either case. -/
def hexValue (digit : Char) : Option Nat :=
  if '0' ≤ digit ∧ digit ≤ '9' then some (digit.toNat - 48)
  else if 'a' ≤ digit ∧ digit ≤ 'f' then some (digit.toNat - 87)
  else if 'A' ≤ digit ∧ digit ≤ 'F' then some (digit.toNat - 55)
  else none

/-- What a hexadecimal numeral stands for. -/
def hexNumeral (digits : List Char) : Option Nat :=
  digits.foldlM (fun total digit => (hexValue digit).map (16 * total + ·)) 0

theorem hexValue_hexDigit : ∀ digit < 16, hexValue (hexDigit digit) = some digit := by decide

theorem length_hexDigits (width value : Nat) : (hexDigits width value).length = width := by
  induction width generalizing value with
  | zero => rfl
  | succ width inductionHypothesis => simp [hexDigits, inductionHypothesis]

/-- The low digits of a number stand for its remainder. -/
theorem hexNumeral_hexDigits (width value : Nat) :
    hexNumeral (hexDigits width value) = some (value % 16 ^ width) := by
  induction width generalizing value with
  | zero => simp [hexDigits, hexNumeral, Nat.mod_one]
  | succ width inductionHypothesis =>
      have digit := hexValue_hexDigit (value % 16) (Nat.mod_lt _ (by decide))
      have high := inductionHypothesis (value / 16)
      rw [hexNumeral] at high
      rw [hexDigits, hexNumeral, List.foldlM_append, high, Nat.pow_succ', Nat.mod_mul,
        Nat.add_comm]
      simp [digit]

namespace JsonText

/-- `JSONDecodeError(msg)`.  The position at which its text ends is left out. -/
def decodeError (msg : String) : PyError := .valueError "JSONDecodeError" msg

/-! ## The encoder -/

/-- `\uXXXX`. -/
def unitEscape (unit : Nat) : List Char := '\\' :: 'u' :: hexDigits 4 unit

/-- The letters of `ESCAPE_DCT`, behind a backslash. -/
def escapeLetter : Char → Option Char
  | '"' => some '"'
  | '\\' => some '\\'
  | '\x08' => some 'b'
  | '\x0c' => some 'f'
  | '\n' => some 'n'
  | '\r' => some 'r'
  | '\t' => some 't'
  | _ => none

/-- A character between quotes, in ASCII: beyond the first plane as a pair of surrogates. -/
def escape (character : Char) : List Char :=
  let point := character.toNat
  match escapeLetter character with
  | some letter => ['\\', letter]
  | none =>
      if ' ' ≤ character ∧ character ≤ '~' then [character]
      else if point < 0x10000 then unitEscape point
      else
        unitEscape (0xd800 + (point - 0x10000) / 0x400) ++
          unitEscape (0xdc00 + (point - 0x10000) % 0x400)

/-- `encode_basestring_ascii`. -/
def encodeString (text : String) : List Char :=
  '"' :: (text.toList.flatMap escape ++ ['"'])

/-! ## The scanner -/

/-- The letters behind a backslash. -/
def backslash : Char → Option Char
  | '"' => some '"'
  | '\\' => some '\\'
  | '/' => some '/'
  | 'b' => some '\x08'
  | 'f' => some '\x0c'
  | 'n' => some '\n'
  | 'r' => some '\r'
  | 't' => some '\t'
  | _ => none

/-- Four hexadecimal digits at the front of a text. -/
def scanUnit (text : List Char) : Option (Nat × List Char) :=
  if text.length < 4 then none
  else (hexNumeral (text.take 4)).map fun unit => (unit, text.drop 4)

/-- A surrogate that is no half of a pair: a Python string keeps it, the strings here
cannot.  What `json.loads` makes of it is in `Freight.Text.CodePoints`. -/
def loneSurrogate : PyError := decodeError "Lone surrogate"

/-- What stands behind `\u`. -/
def scanUnicode (text : List Char) : Except PyError (Option Char × List Char) :=
  match scanUnit text with
  | none => .error (decodeError "Invalid \\uXXXX escape")
  | some (unit, rest) =>
      if 0xd800 ≤ unit ∧ unit ≤ 0xdbff then
        match rest with
        | '\\' :: 'u' :: more =>
            match scanUnit more with
            | none => .error (decodeError "Invalid \\uXXXX escape")
            | some (low, rest) =>
                if 0xdc00 ≤ low ∧ low ≤ 0xdfff then
                  .ok (some (Char.ofNat (0x10000 + (unit - 0xd800) * 0x400 + (low - 0xdc00))),
                    rest)
                else .error loneSurrogate
        | _ => .error loneSurrogate
      else if 0xdc00 ≤ unit ∧ unit ≤ 0xdfff then .error loneSurrogate
      else .ok (some (Char.ofNat unit), rest)

/-- The next character of a string, or its end. -/
def scanCharacter : List Char → Except PyError (Option Char × List Char)
  | [] | ['\\'] => .error (decodeError "Unterminated string starting at")
  | '"' :: rest => .ok (none, rest)
  | '\\' :: 'u' :: rest => scanUnicode rest
  | '\\' :: letter :: rest =>
      match backslash letter with
      | some character => .ok (some character, rest)
      | none => .error (decodeError "Invalid \\escape")
  | character :: rest =>
      if character.toNat < 0x20 then .error (decodeError "Invalid control character at")
      else .ok (some character, rest)

/-- `scanstring`, from behind the opening quote.  The fuel bounds the length. -/
def scanString : Nat → List Char → Except PyError (List Char × List Char)
  | 0, _ => .error (decodeError "Unterminated string starting at")
  | fuel + 1, text => do
      let (character, rest) ← scanCharacter text
      match character with
      | none => pure ([], rest)
      | some character => do
          let (characters, rest) ← scanString fuel rest
          pure (character :: characters, rest)

/-! ## There and back -/

theorem scanUnit_hexDigits (unit : Nat) (small : unit < 0x10000) (rest : List Char) :
    scanUnit (hexDigits 4 unit ++ rest) = some (unit, rest) := by
  have length : (hexDigits 4 unit).length = 4 := length_hexDigits 4 unit
  have long : ¬ (hexDigits 4 unit ++ rest).length < 4 := by
    rw [List.length_append]
    omega
  have value : hexNumeral (hexDigits 4 unit) = some unit := by
    have below : unit < 16 ^ 4 := small
    rw [hexNumeral_hexDigits, Nat.mod_eq_of_lt below]
  rw [scanUnit, if_neg long, List.take_left' length, List.drop_left' length, value]
  rfl

/-- No character is a surrogate. -/
theorem toNat_not_surrogate (character : Char) :
    character.toNat < 0xd800 ∨ 0xdfff < character.toNat ∧ character.toNat < 0x110000 :=
  character.valid

theorem scanUnicode_unit {character : Char} (small : character.toNat < 0x10000)
    (rest : List Char) :
    scanUnicode (hexDigits 4 character.toNat ++ rest) = .ok (some character, rest) := by
  have scalar := toNat_not_surrogate character
  rw [scanUnicode, scanUnit_hexDigits _ small]
  dsimp only
  rw [if_neg (by omega), if_neg (by omega), Char.ofNat_toNat]

theorem scanUnicode_pair {character : Char} (large : ¬ character.toNat < 0x10000)
    (rest : List Char) :
    scanUnicode (hexDigits 4 (0xd800 + (character.toNat - 0x10000) / 0x400) ++
      (unitEscape (0xdc00 + (character.toNat - 0x10000) % 0x400) ++ rest)) =
        .ok (some character, rest) := by
  have scalar := toNat_not_surrogate character
  have whole : 0x10000 + (0xd800 + (character.toNat - 0x10000) / 0x400 - 0xd800) * 0x400 +
      (0xdc00 + (character.toNat - 0x10000) % 0x400 - 0xdc00) = character.toNat := by
    omega
  have low := scanUnit_hexDigits (0xdc00 + (character.toNat - 0x10000) % 0x400)
    (by omega) rest
  rw [scanUnicode, scanUnit_hexDigits _ (by omega), unitEscape, List.cons_append,
    List.cons_append]
  dsimp only
  rw [if_pos (by omega)]
  simp only [low]
  rw [if_pos (by omega), whole, Char.ofNat_toNat]

theorem scanCharacter_letter {character letter : Char}
    (escaped : escapeLetter character = some letter) (rest : List Char) :
    scanCharacter ('\\' :: letter :: rest) = .ok (some character, rest) := by
  have back : backslash letter = some character ∧ letter ≠ 'u' := by
    unfold escapeLetter at escaped
    split at escaped <;> cases escaped <;> exact ⟨rfl, by decide⟩
  obtain ⟨found, other⟩ := back
  unfold scanCharacter
  split
  · rename_i equality
    cases equality
  · rename_i equality
    cases equality
  · rename_i equality
    cases equality
  · rename_i equality
    cases equality
    exact absurd rfl other
  · rename_i equality
    cases equality
    rw [found]
  · rename_i unescaped equality
    cases equality
    exact absurd rfl (unescaped letter rest rfl)

theorem scanCharacter_unicode (rest : List Char) :
    scanCharacter ('\\' :: 'u' :: rest) = scanUnicode rest := rfl

theorem scanCharacter_plain {character : Char} (quote : character ≠ '"')
    (reverse : character ≠ '\\') (visible : 0x20 ≤ character.toNat) (rest : List Char) :
    scanCharacter (character :: rest) = .ok (some character, rest) := by
  unfold scanCharacter
  split
  · rename_i equality
    cases equality
  · rename_i equality
    cases equality
    exact absurd rfl reverse
  · rename_i equality
    cases equality
    exact absurd rfl quote
  · rename_i equality
    cases equality
    exact absurd rfl reverse
  · rename_i equality
    cases equality
    exact absurd rfl reverse
  · rename_i equality
    cases equality
    rw [if_neg (Nat.not_lt.mpr visible)]

/-- A character is read back from its escape. -/
theorem scanCharacter_escape (character : Char) (rest : List Char) :
    scanCharacter (escape character ++ rest) = .ok (some character, rest) := by
  unfold escape
  cases escaped : escapeLetter character with
  | some letter => exact scanCharacter_letter escaped rest
  | none =>
      dsimp only
      split
      · rename_i printable
        refine scanCharacter_plain ?_ ?_ ?_ rest
        · rintro rfl
          cases escaped
        · rintro rfl
          cases escaped
        · have least := UInt32.le_iff_toNat_le.mp (Char.le_def.mp printable.1)
          exact least
      split
      · rename_i small
        rw [unitEscape, List.cons_append, List.cons_append, scanCharacter_unicode]
        exact scanUnicode_unit small rest
      · rename_i large
        rw [List.append_assoc, unitEscape, List.cons_append, List.cons_append,
          scanCharacter_unicode]
        exact scanUnicode_pair large rest

/-- A string is read back from between its quotes. -/
theorem scanString_flatMap {fuel : Nat} {characters : List Char} (rest : List Char)
    (enough : characters.length < fuel) :
    scanString fuel (characters.flatMap escape ++ '"' :: rest) = .ok (characters, rest) := by
  induction characters generalizing fuel with
  | nil =>
      cases fuel with
      | zero => cases enough
      | succ fuel => rfl
  | cons character characters inductionHypothesis =>
      cases fuel with
      | zero => cases enough
      | succ fuel =>
          have shorter := inductionHypothesis (Nat.lt_of_succ_lt_succ enough)
          rw [List.flatMap_cons, List.append_assoc, scanString, scanCharacter_escape]
          simp only [bind, Except.bind, shorter]
          rfl

end JsonText

end Freight
