/-
Module: Freight.Domain.Values
Purpose: Identifiers, datetimes and exceptions, as the Python code handles them.
Trusted boundary: none
Main exports:
  UUID, UUID.str, DateTime, DateTime.instant, DateTime.lt, DateTime.isoformat,
  PyError, PyError.typeName, PyError.str
-/
import Mathlib.Algebra.Group.Int.Defs
import Mathlib.Algebra.Group.Nat.Defs
import Mathlib.Data.List.Basic

namespace Freight

/-! ## Identifiers -/

/-- `uuid.UUID`: a 128-bit integer. -/
structure UUID where
  int : BitVec 128
deriving DecidableEq, Repr

/-- One lower-case hexadecimal digit. -/
def hexDigit (digit : Nat) : Char :=
  if digit < 10 then Char.ofNat (48 + digit) else Char.ofNat (87 + digit)

/-- The `width` low hexadecimal digits of a number, most significant first. -/
def hexDigits : Nat → Nat → List Char
  | 0, _ => []
  | width + 1, value => hexDigits width (value / 16) ++ [hexDigit (value % 16)]

/-- `str(uuid)`: 32 hexadecimal digits in groups of 8, 4, 4, 4 and 12. -/
def UUID.str (id : UUID) : String :=
  let digits := hexDigits 32 id.int.toNat
  String.ofList
    (digits.take 8 ++ '-' :: (digits.drop 8).take 4 ++ '-' :: (digits.drop 12).take 4 ++
      '-' :: (digits.drop 16).take 4 ++ '-' :: digits.drop 20)

/-! ## Datetimes -/

/-- `datetime.datetime`: microseconds on the wall clock, counted from the start
of day 1 of year 1, and for an aware value the offset from UTC, also in
microseconds. -/
structure DateTime where
  wall : Int
  utcoffset : Option Int
deriving DecidableEq, Repr

namespace DateTime

/-- Whether the value carries a timezone. -/
def aware (value : DateTime) : Bool := value.utcoffset.isSome

/-- The value in UTC of a point on the time line. -/
def utc (instant : Int) : DateTime := { wall := instant, utcoffset := some 0 }

/-- The point on the time line of an aware value; a naive value is read with the
rule `localize`. -/
def instant (localize : Int → Int) (value : DateTime) : Int :=
  match value.utcoffset with
  | some offset => value.wall - offset
  | none => localize value.wall

@[simp] theorem instant_utc (localize : Int → Int) (point : Int) :
    (utc point).instant localize = point := by
  simp [instant, utc]

@[simp] theorem aware_utc (point : Int) : (utc point).aware = true := rfl

/-- Python's `==`: aware values compare as instants, naive values as wall
clocks, and a naive value equals no aware one. -/
def eq (left right : DateTime) : Bool :=
  match left.utcoffset, right.utcoffset with
  | some leftOffset, some rightOffset =>
      left.wall - leftOffset == right.wall - rightOffset
  | none, none => left.wall == right.wall
  | _, _ => false

theorem eq_refl (value : DateTime) : value.eq value = true := by
  obtain ⟨wall, offset⟩ := value
  cases offset <;> simp [eq]

/-- `_ord2ymd` of the `datetime` module, for day numbers from 1. -/
def ord2ymd (ordinal : Nat) : Nat × Nat × Nat :=
  let n := ordinal - 1
  let n400 := n / 146097
  let n := n % 146097
  let n100 := n / 36524
  let n := n % 36524
  let n4 := n / 1461
  let n := n % 1461
  let n1 := n / 365
  let n := n % 365
  let year := n400 * 400 + 1 + n100 * 100 + n4 * 4 + n1
  if n1 = 4 ∨ n100 = 4 then (year - 1, 12, 31)
  else
    let leapyear : Bool := n1 = 3 ∧ (n4 ≠ 24 ∨ n100 = 3)
    let daysBefore (month : Nat) : Nat :=
      [0, 0, 31, 59, 90, 120, 151, 181, 212, 243, 273, 304, 334].getD month 0 +
        (if 2 < month ∧ leapyear then 1 else 0)
    let month := (n + 50) / 32
    let month := if n < daysBefore month then month - 1 else month
    (year, month, n - daysBefore month + 1)

/-- A number with at least `width` decimal digits. -/
def zeroPadded (width value : Nat) : String :=
  let digits := toString value
  String.ofList (List.replicate (width - digits.length) '0') ++ digits

/-- The `HH:MM:SS[.ffffff]` part shared by times of day and offsets; an offset
leaves out the seconds when they are zero. -/
def clockFormat (seconds : Bool) (microseconds : Nat) : String :=
  let total := microseconds / 1000000
  let fraction := microseconds % 1000000
  zeroPadded 2 (total / 3600) ++ ":" ++ zeroPadded 2 (total / 60 % 60) ++
    (if seconds ∨ total % 60 ≠ 0 ∨ fraction ≠ 0 then ":" ++ zeroPadded 2 (total % 60)
     else "") ++
    (if fraction ≠ 0 then "." ++ zeroPadded 6 fraction else "")

/-- `datetime.isoformat()`. -/
def isoformat (value : DateTime) : String :=
  let day := 86400000000
  let (year, month, dayOfMonth) := ord2ymd (value.wall / day).toNat.succ
  zeroPadded 4 year ++ "-" ++ zeroPadded 2 month ++ "-" ++ zeroPadded 2 dayOfMonth ++ "T" ++
    clockFormat true (value.wall % day).toNat ++
    match value.utcoffset with
    | none => ""
    | some offset => (if offset < 0 then "-" else "+") ++ clockFormat false offset.natAbs

example : (DateTime.mk 63924379200123456 (some (-10800000000))).isoformat =
    "2026-09-07T12:00:00.123456-03:00" := by decide

end DateTime

/-! ## Exceptions -/

/-- The exceptions (instances of Python's `Exception`) that the code raises,
catches or tells apart.  `valueError` covers the subclasses of `ValueError`,
each under its own name; `exception` is any other class. -/
inductive PyError where
  | valueError (name text : String)
  | typeError (text : String)
  | invalidStateTransition (currentState eventType : String)
  | invalidShipmentEvent (eventType : String)
  | integrityError (constraintName : Option String) (text : String)
  | operationalError (text : String)
  | httpException (statusCode : Nat) (detail : String)
  | exception (name text : String)
deriving DecidableEq, Repr

namespace PyError

/-- `ValueError(text)`. -/
def value (text : String) : PyError := .valueError "ValueError" text

/-- `type(error).__name__`. -/
def typeName : PyError → String
  | .valueError name _ => name
  | .typeError _ => "TypeError"
  | .invalidStateTransition _ _ => "InvalidStateTransition"
  | .invalidShipmentEvent _ => "InvalidShipmentEvent"
  | .integrityError _ _ => "IntegrityError"
  | .operationalError _ => "OperationalError"
  | .httpException _ _ => "HTTPException"
  | .exception name _ => name

/-- `str(error)`. -/
def str : PyError → String
  | .valueError _ text | .typeError text | .integrityError _ text
  | .operationalError text | .exception _ text => text
  | .invalidStateTransition currentState eventType =>
      "Invalid transition from state '" ++ currentState ++ "' using event '" ++
        eventType ++ "'."
  | .invalidShipmentEvent eventType =>
      "Event type '" ++ eventType ++ "' cannot be received through the event flow."
  | .httpException statusCode detail => toString statusCode ++ ": " ++ detail

end PyError

/-- Python's `<` between datetimes: undefined between a naive and an aware
value. -/
def DateTime.lt (left right : DateTime) : Except PyError Bool :=
  match left.utcoffset, right.utcoffset with
  | some leftOffset, some rightOffset =>
      .ok (decide (left.wall - leftOffset < right.wall - rightOffset))
  | none, none => .ok (decide (left.wall < right.wall))
  | _, _ => .error (.typeError "can't compare offset-naive and offset-aware datetimes")

theorem DateTime.lt_utc (left : DateTime) (aware : left.aware = true) (point : Int)
    (localize : Int → Int) :
    left.lt (DateTime.utc point) = .ok (decide (left.instant localize < point)) := by
  obtain ⟨wall, offset⟩ := left
  cases offset with
  | none => cases aware
  | some offset =>
      refine congrArg Except.ok (decide_eq_decide.mpr ?_)
      simp [DateTime.instant, DateTime.utc]

end Freight
