/-
Module: Freight.Messaging.Amqp
Purpose: The values of an AMQP header table as the client library hands them to
  Python, what Python's `int` makes of them, and the properties of a message.
Trusted boundary: none
Main exports:
  AmqpValue, AmqpValue.toInt, Headers, BasicProperties, Bytes
-/
import Freight.Domain.Json
import Freight.Domain.Values
import Mathlib.Data.List.AList

namespace Freight

abbrev Bytes : Type := List UInt8

/-- A value under a header.  A long string that is not UTF-8 comes as bytes, like
a byte array; a decimal is an unscaled integer with its number of decimal
digits. -/
inductive AmqpValue where
  | void
  | bool (value : Bool)
  | int (value : Int)
  | double (value : Double)
  | decimal (unscaled : Int) (scale : Nat)
  | str (value : String)
  | bytes (value : Bytes)
  | timestamp (value : DateTime)
  | array (items : List AmqpValue)
  | table (fields : List (String × AmqpValue))
deriving Repr

/-! ## `int` -/

namespace IntLiteral

/-- The zeros of the Unicode ranges of decimal digits. -/
def decimalZeros : List Nat :=
  [0x660, 0x6f0, 0x7c0, 0x966, 0x9e6, 0xa66, 0xae6, 0xb66, 0xbe6, 0xc66, 0xce6, 0xd66,
    0xde6, 0xe50, 0xed0, 0xf20, 0x1040, 0x1090, 0x17e0, 0x1810, 0x1946, 0x19d0, 0x1a80,
    0x1a90, 0x1b50, 0x1bb0, 0x1c40, 0x1c50, 0xa620, 0xa8d0, 0xa900, 0xa9d0, 0xa9f0, 0xaa50,
    0xabf0, 0xff10, 0x104a0, 0x10d30, 0x11066, 0x110f0, 0x11136, 0x111d0, 0x112f0, 0x11450,
    0x114d0, 0x11650, 0x116c0, 0x11730, 0x118e0, 0x11950, 0x11c50, 0x11d50, 0x11da0,
    0x11f50, 0x16a60, 0x16ac0, 0x16b50, 0x1d7ce, 0x1d7d8, 0x1d7e2, 0x1d7ec, 0x1d7f6,
    0x1e140, 0x1e2f0, 0x1e4f0, 0x1e950, 0x1fbf0]

/-- The white space outside ASCII. -/
def spaces : List Nat :=
  [0x85, 0xa0, 0x1680, 0x2000, 0x2001, 0x2002, 0x2003, 0x2004, 0x2005, 0x2006, 0x2007,
    0x2008, 0x2009, 0x200a, 0x2028, 0x2029, 0x202f, 0x205f, 0x3000]

/-- A character of a text literal as the ASCII character it is read as. -/
def toAscii (character : Char) : Char :=
  let point := character.toNat
  if point < 128 then character
  else if point ∈ spaces then ' '
  else
    match decimalZeros.find? fun first => first ≤ point && point < first + 10 with
    | some first => Char.ofNat ('0'.toNat + (point - first))
    | none => '?'

def isSpace (character : Char) : Bool :=
  character = ' ' || '\t' ≤ character && character ≤ '\r'

def digit (character : Char) : Option Nat :=
  if '0' ≤ character && character ≤ '9' then some (character.toNat - '0'.toNat) else none

/-- Digits, with single underscores between them. -/
def digits : List Char → Option (List Nat)
  | [] => none
  | [last] => (digit last).map fun value => [value]
  | first :: '_' :: rest => do
      let value ← digit first
      let values ← digits rest
      pure (value :: values)
  | first :: rest => do
      let value ← digit first
      let values ← digits rest
      pure (value :: values)

/-- An unsigned literal; one of more than 4300 digits is refused. -/
def magnitude (literal : List Char) : Option Nat := do
  let values ← digits literal
  if values.length ≤ 4300 then pure (values.foldl (fun total value => 10 * total + value) 0)
  else none

/-- A literal in base 10. -/
def parse (literal : List Char) : Option Int :=
  let trimmed :=
    ((literal.dropWhile isSpace).reverse.dropWhile isSpace).reverse
  match trimmed with
  | '-' :: rest => (magnitude rest).map fun value => -value
  | '+' :: rest => (magnitude rest).map Int.ofNat
  | rest => (magnitude rest).map Int.ofNat

example : parse " -4_2\n".toList = some (-42) := by decide

end IntLiteral

/-- `int(value)` of a `float`: truncation. -/
def Double.toInt : Double → Except PyError Int
  | .nan => .error (.value "cannot convert float NaN to integer")
  | .infinity _ =>
      .error (.exception "OverflowError" "cannot convert float infinity to integer")
  | .finite negative mantissa exponent =>
      let magnitude :=
        if 0 ≤ exponent then mantissa * 2 ^ exponent.toNat
        else mantissa / 2 ^ (-exponent).toNat
      .ok (if negative then -(magnitude : Int) else magnitude)

namespace AmqpValue

/-- The exception of `int` for a literal, whose text ends with the literal
itself. -/
def invalidLiteral : PyError := .value "invalid literal for int() with base 10"

/-- The exception of `int` for a value that is no number and no literal. -/
def notANumber (typeName : String) : PyError :=
  .typeError
    ("int() argument must be a string, a bytes-like object or a real number, not '" ++
      typeName ++ "'")

/-- `int(value)`. -/
def toInt : AmqpValue → Except PyError Int
  | .bool value => .ok value.toNat
  | .int value => .ok value
  | .double value => value.toInt
  | .decimal unscaled scale => .ok (unscaled.tdiv (10 ^ scale))
  | .str value =>
      match IntLiteral.parse (value.toList.map IntLiteral.toAscii) with
      | some value => .ok value
      | none => .error invalidLiteral
  | .bytes value =>
      match IntLiteral.parse (value.map fun byte => Char.ofNat byte.toNat) with
      | some value => .ok value
      | none => .error invalidLiteral
  | .void => .error (notANumber "NoneType")
  | .timestamp _ => .error (notANumber "datetime.datetime")
  | .array _ => .error (notANumber "list")
  | .table _ => .error (notANumber "dict")

end AmqpValue

/-! ## Properties -/

/-- A header table: a dictionary with string keys. -/
abbrev Headers : Type := AList fun _ : String => AmqpValue

/-- The properties of a message that the consumer reads or sets. -/
structure BasicProperties where
  contentType : Option String := none
  deliveryMode : Option Nat := none
  messageId : Option String := none
  correlationId : Option String := none
  type : Option String := none
  headers : Option Headers := none

end Freight
