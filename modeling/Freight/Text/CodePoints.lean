/-
Module: Freight.Text.CodePoints
Purpose: JSON over the strings that Python has: sequences of code points, in which a
  surrogate may stand.  Where there is no surrogate the codec is the one of
  `Freight.Text.JsonText`; a pair of surrogates is read back as one code point.
Trusted boundary: none
Main exports:
  CodePoint, PyString, PyJson, PyJson.dumps, PyJson.loads, PyJson.ofJson,
  PyJson.dumps_ofJson, PyJson.loads_ofJson
-/
import Freight.Text.JsonText

namespace Freight

/-! ## Strings and documents -/

/-- A code point, which may be a surrogate. -/
abbrev CodePoint := Fin 0x110000

/-- A `str`; two of them compare code point by code point. -/
abbrev PyString := List CodePoint

namespace PyString

/-- The code point of a character. -/
def point (character : Char) : CodePoint :=
  ⟨character.toNat, by
    rcases JsonText.toNat_not_surrogate character with low | ⟨-, high⟩ <;> omega⟩

/-- A text without surrogates. -/
def ofString (text : String) : PyString := text.toList.map point

theorem point_injective : Function.Injective point := by
  intro one other same
  have values : one.toNat = other.toNat :=
    congrArg (fun point : CodePoint => point.val) same
  rw [← Char.ofNat_toNat one, values, Char.ofNat_toNat]

theorem ofString_injective : Function.Injective ofString := by
  intro one other same
  exact String.toList_injective (List.map_injective_iff.mpr point_injective same)

/-- Texts without surrogates compare as before. -/
theorem ofString_le {one other : String} : ofString one ≤ ofString other ↔ one ≤ other := by
  have monotone : StrictMono (List.map point) := fun _ _ less =>
    List.map_lt (fun _ _ below => below) less
  rw [String.le_iff_toList_le]
  exact monotone.le_iff_le

end PyString

/-- A JSON document, with any strings. -/
inductive PyJson where
  | null
  | bool (value : Bool)
  | int (value : Int)
  | float (value : Double)
  | str (value : PyString)
  | arr (items : List PyJson)
  | obj (fields : List (PyString × PyJson))

namespace PyJson

mutual

/-- A document without surrogates. -/
def ofJson : Json → PyJson
  | .null => .null
  | .bool value => .bool value
  | .int value => .int value
  | .float value => .float value
  | .str value => .str (.ofString value)
  | .arr items => .arr (ofItems items)
  | .obj fields => .obj (ofFields fields)

def ofItems : List Json → List PyJson
  | [] => []
  | item :: items => ofJson item :: ofItems items

def ofFields : List (String × Json) → List (PyString × PyJson)
  | [] => []
  | (key, value) :: fields => (.ofString key, ofJson value) :: ofFields fields

end

/-- `value[key]` on an object. -/
def get (value : PyJson) (key : String) : Option PyJson :=
  match value with
  | .obj fields => fields.lookup (.ofString key)
  | _ => none

/-- An object with another value under a key. -/
def replace (value : PyJson) (key : String) (item : PyJson) : PyJson :=
  match value with
  | .obj fields =>
      .obj (fields.map fun field => if field.1 = .ofString key then (field.1, item) else field)
  | value => value

/-- The keys of an object. -/
def keys : PyJson → List PyString
  | .obj fields => fields.map Prod.fst
  | _ => []

/-- A pair of surrogates, as two code points, for a key with a value. -/
def paired (value : PyJson) : PyString × PyJson := ([0xd83d, 0xde00], value)

/-! ## The encoder -/

mutual

/-- The document with the keys of every object in order. -/
def sortKeys : PyJson → PyJson
  | .arr items => .arr (sortItems items)
  | .obj fields => .obj ((sortFields fields).insertionSort fun one other => one.1 ≤ other.1)
  | value => value

def sortItems : List PyJson → List PyJson
  | [] => []
  | item :: items => sortKeys item :: sortItems items

def sortFields : List (PyString × PyJson) → List (PyString × PyJson)
  | [] => []
  | (key, value) :: fields => (key, sortKeys value) :: sortFields fields

end

/-- A code point between quotes, in ASCII: a surrogate like any other unit. -/
def escape (point : CodePoint) : List Char :=
  if 0xd800 ≤ point.val ∧ point.val ≤ 0xdfff then JsonText.unitEscape point
  else JsonText.escape (Char.ofNat point)

/-- `encode_basestring_ascii`. -/
def encodeString (text : PyString) : List Char := '"' :: (text.flatMap escape ++ ['"'])

mutual

/-- A document in compact form, with its keys as they come. -/
def write : PyJson → List Char
  | .null => "null".toList
  | .bool true => "true".toList
  | .bool false => "false".toList
  | .int value => Text.intText value
  | .float value => value.repr
  | .str value => encodeString value
  | .arr items => '[' :: (writeItems items ++ [']'])
  | .obj fields => '\x7b' :: (writeFields fields ++ ['\x7d'])

def writeItems : List PyJson → List Char
  | [] => []
  | [item] => write item
  | item :: items => write item ++ ',' :: writeItems items

def writeFields : List (PyString × PyJson) → List Char
  | [] => []
  | [(key, value)] => encodeString key ++ ':' :: write value
  | (key, value) :: fields => encodeString key ++ ':' :: (write value ++ ',' :: writeFields fields)

end

/-- `json.dumps(value, sort_keys=True, separators=(",", ":"))`, of a document that keeps
within the limits of the interpreter. -/
def dumps (value : PyJson) : String := String.ofList (write value.sortKeys)

/-! ## The decoder

What it raises is left out: there is a value or none. -/

/-- What stands behind `\u`: two halves of a pair are one code point, and any other
surrogate stays. -/
def scanUnicode (text : List Char) : Option (CodePoint × List Char) :=
  match JsonText.scanUnit text with
  | none => none
  | some (unit, rest) =>
      if 0xd800 ≤ unit ∧ unit ≤ 0xdbff then
        match rest with
        | '\\' :: 'u' :: more =>
            match JsonText.scanUnit more with
            | none => none
            | some (low, after) =>
                if 0xdc00 ≤ low ∧ low ≤ 0xdfff then
                  some (.ofNat _ (0x10000 + (unit - 0xd800) * 0x400 + (low - 0xdc00)), after)
                else some (.ofNat _ unit, rest)
        | _ => some (.ofNat _ unit, rest)
      else some (.ofNat _ unit, rest)

/-- The next code point of a string, or its end. -/
def scanCharacter : List Char → Option (Option CodePoint × List Char)
  | [] | ['\\'] => none
  | '"' :: rest => some (none, rest)
  | '\\' :: 'u' :: rest => (scanUnicode rest).map fun (point, rest) => (some point, rest)
  | '\\' :: letter :: rest =>
      (JsonText.backslash letter).map fun character => (some (PyString.point character), rest)
  | character :: rest =>
      if character.toNat < 0x20 then none else some (some (PyString.point character), rest)

/-- `scanstring`, from behind the opening quote.  The fuel bounds the length. -/
def scanString : Nat → List Char → Option (PyString × List Char)
  | 0, _ => none
  | fuel + 1, text => do
      let (point, rest) ← scanCharacter text
      match point with
      | none => pure ([], rest)
      | some point => do
          let (points, rest) ← scanString fuel rest
          pure (point :: points, rest)

/-- A string, from behind its opening quote. -/
def scanText (text : List Char) : Option (PyString × List Char) :=
  scanString (text.length + 1) text

/-- A number. -/
def scanNumber (text : List Char) : Option (PyJson × List Char) :=
  (Text.matchNumber text).map fun (number, rest) =>
    if number.isInt then
      (.int (if number.negative then -(Text.numeral number.whole : Int)
        else Text.numeral number.whole), rest)
    else (.float (Double.ofNumber number), rest)

mutual

/-- `scan_once`: the value at the front of a text.  The fuel bounds the length. -/
def scanOnce : Nat → List Char → Option (PyJson × List Char)
  | 0, _ => none
  | fuel + 1, text =>
      match text with
      | '"' :: rest => do
          let (points, rest) ← scanText rest
          pure (.str points, rest)
      | '\x7b' :: rest => do
          let rest := JsonText.skip rest
          let (members, rest) ←
            if rest.head? = some '\x7d' then pure ([], rest.tail) else scanMembers fuel rest
          pure (.obj (JsonText.ofMembers members), rest)
      | '[' :: rest => do
          let rest := JsonText.skip rest
          let (items, rest) ←
            if rest.head? = some ']' then pure ([], rest.tail) else scanItems fuel rest
          pure (.arr items, rest)
      | 'n' :: 'u' :: 'l' :: 'l' :: rest => pure (.null, rest)
      | 't' :: 'r' :: 'u' :: 'e' :: rest => pure (.bool true, rest)
      | 'f' :: 'a' :: 'l' :: 's' :: 'e' :: rest => pure (.bool false, rest)
      | 'N' :: 'a' :: 'N' :: rest => pure (.float .nan, rest)
      | 'I' :: 'n' :: 'f' :: 'i' :: 'n' :: 'i' :: 't' :: 'y' :: rest =>
          pure (.float (.infinity false), rest)
      | '-' :: 'I' :: 'n' :: 'f' :: 'i' :: 'n' :: 'i' :: 't' :: 'y' :: rest =>
          pure (.float (.infinity true), rest)
      | text => scanNumber text

/-- The members of an object, up to its closing bracket. -/
def scanMembers : Nat → List Char → Option (List (PyString × PyJson) × List Char)
  | 0, _ => none
  | fuel + 1, text =>
      match text with
      | '"' :: rest => do
          let (key, rest) ← scanText rest
          match JsonText.skip rest with
          | ':' :: rest => do
              let (value, rest) ← scanOnce fuel (JsonText.skip rest)
              match JsonText.skip rest with
              | '\x7d' :: rest => pure ([(key, value)], rest)
              | ',' :: rest => do
                  let (members, rest) ← scanMembers fuel (JsonText.skip rest)
                  pure ((key, value) :: members, rest)
              | _ => none
          | _ => none
      | _ => none

/-- The items of an array, up to its closing bracket. -/
def scanItems : Nat → List Char → Option (List PyJson × List Char)
  | 0, _ => none
  | fuel + 1, text => do
      let (value, rest) ← scanOnce fuel text
      match JsonText.skip rest with
      | ']' :: rest => pure ([value], rest)
      | ',' :: rest => do
          let (items, rest) ← scanItems fuel (JsonText.skip rest)
          pure (value :: items, rest)
      | _ => none

end

/-- The document that a whole text is. -/
def read (text : List Char) : Option PyJson :=
  if text.head? = some '\uFEFF' then none
  else do
    let (value, rest) ← scanOnce (2 * text.length + 2) (JsonText.skip text)
    if (JsonText.skip rest).isEmpty then pure value else none

/-- `json.loads` of a string. -/
def loads (text : String) : Option PyJson := read text.toList

theorem loads_dumps (value : PyJson) : loads (dumps value) = read (write value.sortKeys) := by
  rw [loads, dumps, String.toList_ofList]

/-! ## Where there is no surrogate -/

theorem ofFields_eq_map (fields : List (String × Json)) :
    ofFields fields = fields.map (Prod.map PyString.ofString ofJson) := by
  induction fields with
  | nil => rfl
  | cons field fields inductionHypothesis =>
      rw [ofFields, inductionHypothesis, List.map_cons]
      rfl

/-- A key stands for the same. -/
theorem get_ofJson (value : Json) (key : String) :
    (ofJson value).get key = (value.get key).map ofJson := by
  cases value with
  | obj fields =>
      rw [ofJson, get, Json.get_obj, ofFields_eq_map]
      induction fields with
      | nil => rfl
      | cons field fields inductionHypothesis =>
          rw [List.map_cons, Prod.map, List.lookup_cons, List.lookup_cons, inductionHypothesis]
          by_cases same : key = field.1
          · subst same
            simp
          · have other : PyString.ofString key ≠ PyString.ofString field.1 := fun equal =>
              same (PyString.ofString_injective equal)
            simp [beq_false_of_ne same, beq_false_of_ne other]
  | _ => rfl

/-- Members without surrogates are put in the same order. -/
theorem ofFields_insertionSort (fields : List (String × Json)) :
    (ofFields fields).insertionSort (fun one other => one.1 ≤ other.1) =
      ofFields (fields.insertionSort byKey) := by
  rw [ofFields_eq_map, ofFields_eq_map]
  exact (List.map_insertionSort byKey (fun one other : PyString × PyJson => one.1 ≤ other.1) _
    fields fun _ _ _ _ => PyString.ofString_le.symm).symm

mutual

theorem sortKeys_ofJson : ∀ value : Json, (ofJson value).sortKeys = ofJson value.sortKeys
  | .null | .bool _ | .int _ | .float _ | .str _ => rfl
  | .arr items => by simp only [ofJson, sortKeys, Json.sortKeys, sortItems_ofItems items]
  | .obj fields => by
      simp only [ofJson, sortKeys, Json.sortKeys, sortFields_ofFields fields,
        ofFields_insertionSort]

theorem sortItems_ofItems : ∀ items : List Json,
    sortItems (ofItems items) = ofItems (Json.sortItems items)
  | [] => rfl
  | item :: items => by
      rw [ofItems, sortItems, Json.sortItems, ofItems, sortKeys_ofJson item,
        sortItems_ofItems items]

theorem sortFields_ofFields : ∀ fields : List (String × Json),
    sortFields (ofFields fields) = ofFields (Json.sortFields fields)
  | [] => rfl
  | (key, value) :: fields => by
      rw [ofFields, sortFields, Json.sortFields, ofFields, sortKeys_ofJson value,
        sortFields_ofFields fields]

end

theorem escape_point (character : Char) :
    escape (PyString.point character) = JsonText.escape character := by
  have scalar := JsonText.toNat_not_surrogate character
  have value : (PyString.point character).val = character.toNat := rfl
  rw [escape, value, if_neg (by omega), Char.ofNat_toNat]

theorem encodeString_ofString (text : String) :
    encodeString (.ofString text) = JsonText.encodeString text := by
  rw [encodeString, JsonText.encodeString, PyString.ofString, List.flatMap_map]
  congr 2
  exact congrArg (fun escaping => text.toList.flatMap escaping) (funext escape_point)

mutual

theorem write_ofJson : ∀ value : Json, write (ofJson value) = JsonText.write value
  | .null | .bool true | .bool false | .int _ | .float _ => rfl
  | .str text => encodeString_ofString text
  | .arr items => by rw [ofJson, write, JsonText.write, writeItems_ofItems items]
  | .obj fields => by rw [ofJson, write, JsonText.write, writeFields_ofFields fields]

theorem writeItems_ofItems : ∀ items : List Json,
    writeItems (ofItems items) = JsonText.writeItems items
  | [] => rfl
  | [item] => write_ofJson item
  | item :: next :: items => by
      have rest := writeItems_ofItems (next :: items)
      simp only [ofItems, writeItems, JsonText.writeItems, write_ofJson item] at rest ⊢
      rw [rest]

theorem writeFields_ofFields : ∀ fields : List (String × Json),
    writeFields (ofFields fields) = JsonText.writeFields fields
  | [] => rfl
  | [(key, value)] => by
      simp only [ofFields, writeFields, JsonText.writeFields, encodeString_ofString,
        write_ofJson value]
  | (key, value) :: next :: fields => by
      have rest := writeFields_ofFields (next :: fields)
      simp only [ofFields, writeFields, JsonText.writeFields, encodeString_ofString,
        write_ofJson value] at rest ⊢
      rw [rest]

end

/-- What the encoder writes of a document without surrogates, it writes here. -/
theorem dumps_ofJson {interpreter : Interpreter} {value : Json} {text : String}
    (written : JsonText.dumps interpreter value = .ok text) : dumps (ofJson value) = text := by
  unfold JsonText.dumps at written
  split at written
  · cases written
  · cases written
    rw [dumps, sortKeys_ofJson, write_ofJson]

/-- The units that are scanned fit into sixteen bits. -/
theorem scanUnit_lt {text rest : List Char} {unit : Nat}
    (scanned : JsonText.scanUnit text = some (unit, rest)) : unit < 0x10000 := by
  have digit : ∀ {character : Char} {value : Nat}, hexValue character = some value →
      value < 16 := by
    intro character value valued
    unfold hexValue at valued
    simp only [Char.le_def, UInt32.le_iff_toNat_le] at valued
    split at valued
    · cases valued
      rename_i range
      have upper : character.toNat ≤ 57 := range.2
      omega
    split at valued
    · cases valued
      rename_i range
      have upper : character.toNat ≤ 102 := range.2
      omega
    split at valued
    · cases valued
      rename_i range
      have upper : character.toNat ≤ 70 := range.2
      omega
    · cases valued
  have below : ∀ (digits : List Char) (total value : Nat),
      digits.foldlM (fun total digit => (hexValue digit).map (16 * total + ·)) total =
        some value → value < 16 ^ digits.length * (total + 1) := by
    intro digits
    induction digits with
    | nil =>
        intro total value folded
        cases folded
        simp
    | cons character digits inductionHypothesis =>
        intro total value folded
        rw [List.foldlM_cons, Option.bind_eq_bind, Option.bind_eq_some_iff] at folded
        obtain ⟨next, stepped, folded⟩ := folded
        obtain ⟨found, valued, rfl⟩ := Option.map_eq_some_iff.mp stepped
        have small := digit valued
        have bound := inductionHypothesis _ _ folded
        rw [List.length_cons, Nat.pow_succ, Nat.mul_assoc]
        exact Nat.lt_of_lt_of_le bound (Nat.mul_le_mul_left _ (by omega))
  unfold JsonText.scanUnit at scanned
  split at scanned
  · cases scanned
  · rename_i long
    obtain ⟨value, numeral, same⟩ := Option.map_eq_some_iff.mp scanned
    cases same
    have bound := below _ _ _ numeral
    rwa [List.length_take, Nat.min_eq_left (Nat.le_of_not_lt long)] at bound

/-- A number that is no surrogate is the code point of its character. -/
theorem ofNat_scalar {value : Nat} (scalar : value.isValidChar) :
    (Fin.ofNat 0x110000 value : CodePoint) = PyString.point (Char.ofNat value) := by
  apply Fin.ext
  have below : value < 0x110000 := by
    rcases scalar with low | ⟨-, high⟩ <;> omega
  change value % 0x110000 = (Char.ofNat value).toNat
  rw [Nat.mod_eq_of_lt below, Char.ofNat, dif_pos scalar]
  rfl

/-! ### The two decoders

Where the decoder of texts without surrogates gives a value, this one gives the same. -/

section Decoders

variable {α β γ δ : Type}

/-- Whatever one scanner finds and leaves, the other one does, up to `same`. -/
def Follows (same : α → β) (one : Except PyError (α × List Char))
    (two : Option (β × List Char)) : Prop :=
  ∀ value rest, one = .ok (value, rest) → two = some (same value, rest)

namespace Follows

theorem pure {same : α → β} (value : α) (rest : List Char) :
    Follows same (.ok (value, rest)) (some (same value, rest)) := by
  rintro _ _ ⟨⟩
  rfl

theorem error {same : α → β} (error : PyError) (two : Option (β × List Char)) :
    Follows same (.error error) two := by
  rintro _ _ ⟨⟩

theorem bind {same : α → β} {again : γ → δ} {one : Except PyError (α × List Char)}
    {two : Option (β × List Char)} {next : α × List Char → Except PyError (γ × List Char)}
    {after : β × List Char → Option (δ × List Char)} (first : Follows same one two)
    (rest : ∀ value left, Follows again (next (value, left)) (after (same value, left))) :
    Follows again (one >>= next) (two >>= after) := by
  intro value last found
  cases scanned : one with
  | error error =>
      rw [scanned] at found
      cases found
  | ok given =>
      obtain ⟨head, left⟩ := given
      rw [scanned] at found
      rw [first head left scanned]
      exact rest head left value last found

end Follows

/-- What stands behind `\u`: a scalar is the code point of its character. -/
theorem follows_scanUnicode (text : List Char) :
    Follows (Option.map PyString.point) (JsonText.scanUnicode text)
      ((scanUnicode text).map fun (point, rest) => (some point, rest)) := by
  unfold JsonText.scanUnicode scanUnicode
  cases scanned : JsonText.scanUnit text with
  | none => exact .error _ _
  | some found =>
      obtain ⟨unit, after⟩ := found
      have small := scanUnit_lt scanned
      dsimp only
      by_cases high : 0xd800 ≤ unit ∧ unit ≤ 0xdbff
      · rw [if_pos high, if_pos high]
        split
        · rename_i more
          rcases Option.eq_none_or_eq_some (JsonText.scanUnit more) with
            lowScanned | ⟨⟨low, last⟩, lowScanned⟩
          · simp only [lowScanned]
            exact .error _ _
          · simp only [lowScanned]
            by_cases paired : 0xdc00 ≤ low ∧ low ≤ 0xdfff
            · rw [if_pos paired, if_pos paired, ofNat_scalar (.inr ⟨by omega, by omega⟩)]
              exact .pure _ _
            · rw [if_neg paired]
              exact .error _ _
        · exact .error _ _
      · rw [if_neg high, if_neg high]
        by_cases low : 0xdc00 ≤ unit ∧ unit ≤ 0xdfff
        · rw [if_pos low]
          exact .error _ _
        · have scalar : unit.isValidChar := by
            unfold Nat.isValidChar
            omega
          rw [if_neg low, ofNat_scalar scalar]
          exact .pure _ _

theorem follows_scanCharacter (text : List Char) :
    Follows (Option.map PyString.point) (JsonText.scanCharacter text) (scanCharacter text) := by
  unfold JsonText.scanCharacter
  split
  · exact .error _ _
  · exact .error _ _
  · exact .pure _ _
  · exact follows_scanUnicode _
  · split
    · rename_i valued
      simp only [scanCharacter, valued, Option.map_some]
      exact .pure _ _
    · exact .error _ _
  · split
    · exact .error _ _
    · rename_i printable
      simp only [scanCharacter, if_neg printable]
      exact .pure _ _

theorem follows_scanString (fuel : Nat) (text : List Char) :
    Follows (List.map PyString.point) (JsonText.scanString fuel text) (scanString fuel text) := by
  induction fuel generalizing text with
  | zero => exact .error _ _
  | succ fuel inductionHypothesis =>
      refine .bind (follows_scanCharacter text) ?_
      intro character rest
      cases character with
      | none => exact .pure _ _
      | some character =>
          refine .bind (inductionHypothesis rest) ?_
          exact fun characters rest => .pure (character :: characters) rest

theorem follows_scanText (text : List Char) :
    Follows PyString.ofString (JsonText.scanText text) (scanText text) := by
  intro value rest found
  have scanned := follows_scanString (text.length + 1) text
  unfold JsonText.scanText at found
  split at found
  · rename_i characters left given
    cases found
    rw [scanText, scanned _ _ given, PyString.ofString, String.toList_ofList]
  · cases found

theorem follows_scanNumber (interpreter : Interpreter) (text : List Char) :
    Follows ofJson (JsonText.scanNumber interpreter text) (scanNumber text) := by
  unfold JsonText.scanNumber scanNumber
  cases Text.matchNumber text with
  | none => exact .error _ _
  | some found =>
      obtain ⟨number, rest⟩ := found
      simp only [Option.map_some]
      by_cases integer : number.isInt = true
      · rw [if_pos integer, if_pos integer]
        unfold Interpreter.readInt
        by_cases allowed : interpreter.allows number.whole.length = true
        · rw [if_pos allowed]
          exact .pure _ _
        · rw [if_neg allowed]
          exact .error _ _
      · rw [if_neg integer, if_neg integer]
        exact .pure _ _

/-- A dictionary of the same members, under other keys. -/
theorem ofMembers_map {Key Value Other Item : Type} [DecidableEq Key] [DecidableEq Other]
    {rename : Key → Other} (apart : Function.Injective rename) (change : Value → Item)
    (members : List (Key × Value)) :
    JsonText.ofMembers (members.map (Prod.map rename change)) =
      (JsonText.ofMembers members).map (Prod.map rename change) := by
  rw [JsonText.ofMembers, List.foldl_map, JsonText.ofMembers,
    ← List.map_nil (f := Prod.map rename change)]
  apply List.foldl_hom (List.map (Prod.map rename change))
  intro fields member
  have present : (fields.map (Prod.map rename change)).any
      (fun field => field.1 = (Prod.map rename change member).1) =
        fields.any fun field => field.1 = member.1 := by
    rw [List.any_map]
    congr 1
    funext field
    simp [apart.eq_iff]
  rw [present]
  split
  · rw [List.map_map, List.map_map]
    refine List.map_congr_left fun field _ => ?_
    by_cases same : field.1 = member.1
    · simp [same]
    · have other : rename field.1 ≠ rename member.1 := fun equal => same (apart equal)
      simp [same, other]
  · rw [List.map_append, List.map_singleton, List.map_nil]

theorem ofMembers_ofFields (members : List (String × Json)) :
    JsonText.ofMembers (ofFields members) = ofFields (JsonText.ofMembers members) := by
  rw [ofFields_eq_map, ofFields_eq_map, ofMembers_map PyString.ofString_injective]

theorem head_ne {text : List Char} {mark : Char}
    (others : ∀ rest, text = mark :: rest → False) : text.head? ≠ some mark := by
  intro marked
  obtain ⟨rest, same⟩ := List.head?_eq_some_iff.mp marked
  exact others rest same

/-- The decoder, for values, for the members of an object and for the items of an array. -/
theorem follows_scanOnce (interpreter : Interpreter) (fuel : Nat) :
    (∀ depth text, Follows ofJson (JsonText.scanOnce interpreter fuel depth text)
        (scanOnce fuel text)) ∧
      (∀ depth text, Follows ofFields (JsonText.scanMembers interpreter fuel depth text)
        (scanMembers fuel text)) ∧
      ∀ depth text, Follows ofItems (JsonText.scanItems interpreter fuel depth text)
        (scanItems fuel text) := by
  induction fuel with
  | zero => exact ⟨fun _ _ => .error _ _, fun _ _ => .error _ _, fun _ _ => .error _ _⟩
  | succ fuel inductionHypothesis =>
      obtain ⟨value, members, items⟩ := inductionHypothesis
      refine ⟨?_, ?_, ?_⟩
      · intro depth text
        unfold JsonText.scanOnce
        split
        · rw [scanOnce]
          exact .bind (follows_scanText _) fun text rest => .pure (Json.str text) rest
        · rw [scanOnce]
          split
          · exact .error _ _
          · rename_i left _ depth
            generalize JsonText.skip left = after
            have close : ∀ given rest, Follows ofJson
                (.ok (Json.obj (JsonText.ofMembers given), rest))
                (some (obj (JsonText.ofMembers (ofFields given)), rest)) := by
              intro given rest
              rw [ofMembers_ofFields]
              exact .pure (Json.obj _) rest
            dsimp only
            split
            · rw [List.head?_cons, if_pos rfl]
              exact close [] _
            · rename_i others
              rw [if_neg (head_ne others)]
              exact .bind (members _ _) fun given rest => close given rest
        · rw [scanOnce]
          split
          · exact .error _ _
          · rename_i left _ depth
            generalize JsonText.skip left = after
            dsimp only
            split
            · rw [List.head?_cons, if_pos rfl]
              exact .pure (Json.arr []) _
            · rename_i others
              rw [if_neg (head_ne others)]
              exact .bind (items _ _) fun given rest => .pure (Json.arr given) rest
        · exact .pure Json.null _
        · exact .pure (Json.bool true) _
        · exact .pure (Json.bool false) _
        · exact .pure (Json.float .nan) _
        · exact .pure (Json.float (.infinity false)) _
        · exact .pure (Json.float (.infinity true)) _
        · simp only [scanOnce]
          exact follows_scanNumber interpreter text
      · intro depth text
        unfold JsonText.scanMembers
        split
        · rw [scanMembers]
          refine .bind (follows_scanText _) fun key rest => ?_
          dsimp only
          generalize JsonText.skip rest = after
          split
          · refine .bind (value _ _) fun given rest => ?_
            dsimp only
            generalize JsonText.skip rest = after
            split
            · exact .pure [(key, given)] _
            · exact .bind (members _ _) fun others rest => .pure ((key, given) :: others) rest
            · exact .error _ _
          · exact .error _ _
        · exact .error _ _
      · intro depth text
        refine .bind (value _ _) fun given rest => ?_
        dsimp only
        generalize JsonText.skip rest = after
        split
        · exact .pure [given] _
        · exact .bind (items _ _) fun others rest => .pure (given :: others) rest
        · exact .error _ _

/-- What the decoder reads without meeting a surrogate, it reads here. -/
theorem loads_ofJson {interpreter : Interpreter} {text : String} {value : Json}
    (read : JsonText.loads interpreter text = .ok value) : loads text = some (ofJson value) := by
  unfold JsonText.loads at read
  unfold loads PyJson.read
  generalize text.toList = characters at read ⊢
  split at read
  · cases read
  · rename_i others
    rw [if_neg (head_ne others)]
    cases scanned : JsonText.scanOnce interpreter (2 * characters.length + 2)
        interpreter.decodeDepth (JsonText.skip characters) with
    | error error =>
        rw [scanned] at read
        cases read
    | ok found =>
        obtain ⟨given, rest⟩ := found
        have follows := (follows_scanOnce interpreter _).1 _ _ given rest scanned
        rw [scanned] at read
        rw [follows]
        simp only [bind, Except.bind, Option.bind] at read ⊢
        split at read
        · rename_i ended
          cases read
          rw [if_pos ended]
          rfl
        · cases read

end Decoders

end PyJson

end Freight
