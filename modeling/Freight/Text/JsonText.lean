/-
Module: Freight.Text.JsonText
Purpose: The JSON encoder with sorted keys and without white space, and the JSON decoder.
Trusted boundary: none
Main exports:
  Interpreter, JsonText.write, JsonText.refusal, JsonText.dumps, JsonText.scanOnce,
  JsonText.loads
-/
import Freight.Domain.JsonOrder
import Freight.Text.Numbers
import Freight.Text.Strings

namespace Freight

/-- What the interpreter allows: digits of an integer that is written or read in decimal
(`sys.get_int_max_str_digits()`, where zero means any number), and containers inside one
another before the encoder and the decoder raise a `RecursionError`. -/
structure Interpreter where
  maxStrDigits : Nat := 4300
  encodeDepth : Nat
  decodeDepth : Nat
deriving DecidableEq, Repr

/-- An interpreter with the usual limits. -/
def Interpreter.usual : Interpreter := { encodeDepth := 1000, decodeDepth := 1000 }

namespace JsonText

/-! ## The encoder -/

mutual

/-- A value in compact form, with its keys as they come. -/
def write : Json → List Char
  | .null => "null".toList
  | .bool true => "true".toList
  | .bool false => "false".toList
  | .int value => Text.intText value
  | .float value => value.repr
  | .str value => encodeString value
  | .arr items => '[' :: (writeItems items ++ [']'])
  | .obj fields => '\x7b' :: (writeFields fields ++ ['\x7d'])

def writeItems : List Json → List Char
  | [] => []
  | [item] => write item
  | item :: items => write item ++ ',' :: writeItems items

def writeFields : List (String × Json) → List Char
  | [] => []
  | [(key, value)] => encodeString key ++ ':' :: write value
  | (key, value) :: fields => encodeString key ++ ':' :: (write value ++ ',' :: writeFields fields)

end

/-- What a codec raises for an integer, and for a container that is too deep. -/
structure Limits where
  int : Int → Option PyError
  arr : PyError
  obj : PyError

mutual

/-- What a codec raises first. -/
def refusal (limits : Limits) : Nat → Json → Option PyError
  | _, .int value => limits.int value
  | 0, .arr _ => some limits.arr
  | depth + 1, .arr items => refusalItems limits depth items
  | 0, .obj _ => some limits.obj
  | depth + 1, .obj fields => refusalFields limits depth fields
  | _, _ => none

def refusalItems (limits : Limits) : Nat → List Json → Option PyError
  | _, [] => none
  | depth, item :: items =>
      match refusal limits depth item with
      | some error => some error
      | none => refusalItems limits depth items

def refusalFields (limits : Limits) : Nat → List (String × Json) → Option PyError
  | _, [] => none
  | depth, (_, value) :: fields =>
      match refusal limits depth value with
      | some error => some error
      | none => refusalFields limits depth fields

end

/-- The text of the exception for an integer with too many digits. -/
def exceedsLimit (digits : Nat) (value : String) : PyError :=
  .value ("Exceeds the limit (" ++ toString digits ++
    " digits) for integer string conversion" ++ value ++
    "; use sys.set_int_max_str_digits() to increase the limit")

def recursionError (text : String) : PyError :=
  .exception "RecursionError" ("maximum recursion depth exceeded " ++ text)

end JsonText

namespace Interpreter

open JsonText

variable (interpreter : Interpreter)

/-- Whether a number of decimal digits is allowed. -/
def allows (digits : Nat) : Bool :=
  interpreter.maxStrDigits = 0 || digits ≤ interpreter.maxStrDigits

/-- What `json.dumps` runs into. -/
def encoding : Limits where
  int value :=
    if interpreter.allows (Nat.toDigits 10 value.natAbs).length then none
    else some (exceedsLimit interpreter.maxStrDigits "")
  arr := recursionError "while encoding a JSON object"
  obj := recursionError "while encoding a JSON object"

/-- `int` of a run of digits in a text. -/
def readInt (negative : Bool) (digits : List Char) : Except PyError Int :=
  if interpreter.allows digits.length then
    .ok (if negative then -(Text.numeral digits : Int) else Text.numeral digits)
  else
    .error (exceedsLimit interpreter.maxStrDigits
      (": value has " ++ toString digits.length ++ " digits"))

/-- What `json.loads` runs into. -/
def decoding : Limits where
  int value :=
    match interpreter.readInt (value < 0) (Nat.toDigits 10 value.natAbs) with
    | .ok _ => none
    | .error error => some error
  arr := recursionError "while decoding a JSON array from a unicode string"
  obj := recursionError "while decoding a JSON object from a unicode string"

end Interpreter

namespace JsonText

/-- `json.dumps(value, sort_keys=True, separators=(",", ":"))`. -/
def dumps (interpreter : Interpreter) (value : Json) : Except PyError String :=
  match refusal interpreter.encoding interpreter.encodeDepth value.sortKeys with
  | some error => .error error
  | none => .ok (String.ofList (write value.sortKeys))

/-! ## The decoder -/

/-- White space is passed over. -/
def skip (text : List Char) : List Char :=
  text.dropWhile fun character =>
    character = ' ' || character = '\t' || character = '\n' || character = '\r'

/-- A dictionary of members: a key keeps its first place and its last value. -/
def ofMembers {Key Value : Type} [DecidableEq Key] (members : List (Key × Value)) :
    List (Key × Value) :=
  members.foldl
    (fun fields member =>
      if fields.any (·.1 = member.1) then
        fields.map fun field => if field.1 = member.1 then member else field
      else fields ++ [member])
    []

section Decoder

variable (interpreter : Interpreter)

/-- A number. -/
def scanNumber (text : List Char) : Except PyError (Json × List Char) :=
  match Text.matchNumber text with
  | none => .error (decodeError "Expecting value")
  | some (number, rest) =>
      if number.isInt then
        match interpreter.readInt number.negative number.whole with
        | .ok value => .ok (.int value, rest)
        | .error error => .error error
      else .ok (.float (Double.ofNumber number), rest)

/-- A string, from behind its opening quote. -/
def scanText (text : List Char) : Except PyError (String × List Char) :=
  match scanString (text.length + 1) text with
  | .ok (characters, rest) => .ok (String.ofList characters, rest)
  | .error error => .error error

mutual

/-- `scan_once`: the value at the front of a text, with so many containers still allowed.
The fuel bounds the length. -/
def scanOnce : Nat → Nat → List Char → Except PyError (Json × List Char)
  | 0, _, _ => .error (decodeError "Expecting value")
  | fuel + 1, depth, text =>
      match text with
      | '"' :: rest => do
          let (characters, rest) ← scanText rest
          pure (.str characters, rest)
      | '\x7b' :: rest =>
          match depth with
          | 0 => .error interpreter.decoding.obj
          | depth + 1 => do
              let (members, rest) ←
                match skip rest with
                | '\x7d' :: rest => pure ([], rest)
                | rest => scanMembers fuel depth rest
              pure (.obj (ofMembers members), rest)
      | '[' :: rest =>
          match depth with
          | 0 => .error interpreter.decoding.arr
          | depth + 1 => do
              let (items, rest) ←
                match skip rest with
                | ']' :: rest => pure ([], rest)
                | rest => scanItems fuel depth rest
              pure (.arr items, rest)
      | 'n' :: 'u' :: 'l' :: 'l' :: rest => pure (.null, rest)
      | 't' :: 'r' :: 'u' :: 'e' :: rest => pure (.bool true, rest)
      | 'f' :: 'a' :: 'l' :: 's' :: 'e' :: rest => pure (.bool false, rest)
      | 'N' :: 'a' :: 'N' :: rest => pure (.float .nan, rest)
      | 'I' :: 'n' :: 'f' :: 'i' :: 'n' :: 'i' :: 't' :: 'y' :: rest =>
          pure (.float (.infinity false), rest)
      | '-' :: 'I' :: 'n' :: 'f' :: 'i' :: 'n' :: 'i' :: 't' :: 'y' :: rest =>
          pure (.float (.infinity true), rest)
      | text => scanNumber interpreter text

/-- The members of an object, up to its closing bracket. -/
def scanMembers : Nat → Nat → List Char → Except PyError (List (String × Json) × List Char)
  | 0, _, _ => .error (decodeError "Expecting value")
  | fuel + 1, depth, text =>
      match text with
      | '"' :: rest => do
          let (key, rest) ← scanText rest
          match skip rest with
          | ':' :: rest => do
              let (value, rest) ← scanOnce fuel depth (skip rest)
              match skip rest with
              | '\x7d' :: rest => pure ([(key, value)], rest)
              | ',' :: rest => do
                  let (members, rest) ← scanMembers fuel depth (skip rest)
                  pure ((key, value) :: members, rest)
              | _ => .error (decodeError "Expecting ',' delimiter")
          | _ => .error (decodeError "Expecting ':' delimiter")
      | _ => .error (decodeError "Expecting property name enclosed in double quotes")

/-- The items of an array, up to its closing bracket. -/
def scanItems : Nat → Nat → List Char → Except PyError (List Json × List Char)
  | 0, _, _ => .error (decodeError "Expecting value")
  | fuel + 1, depth, text => do
      let (value, rest) ← scanOnce fuel depth text
      match skip rest with
      | ']' :: rest => pure ([value], rest)
      | ',' :: rest => do
          let (items, rest) ← scanItems fuel depth (skip rest)
          pure (value :: items, rest)
      | _ => .error (decodeError "Expecting ',' delimiter")

end

/-- `json.loads` of a string. -/
def loads (text : String) : Except PyError Json :=
  match text.toList with
  | '\uFEFF' :: _ => .error (decodeError "Unexpected UTF-8 BOM (decode using utf-8-sig)")
  | text => do
      let (value, rest) ←
        scanOnce interpreter (2 * text.length + 2) interpreter.decodeDepth (skip text)
      if (skip rest).isEmpty then pure value else .error (decodeError "Extra data")

end Decoder

end JsonText

end Freight
