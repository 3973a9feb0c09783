/-
Module: Freight.Text.IsoFormat
Purpose: Datetimes in a text: a reader of what `isoformat` writes, and what it makes of it.
Trusted boundary: none
Main exports:
  DateTime.ofIsoformat, DateTime.reread, DateTime.ofIsoformat_isoformat, DateTime.Legible,
  DateTime.reread_legible
-/
import Freight.Domain.Calendar
import Freight.Text.Digits

namespace Freight

open Text (padded scanDigits scanDigits_padded)

namespace DateTime

/-! ## The reader -/

/-- One separator at the front of a text. -/
def expect (separator : Char) : List Char → Option (List Char)
  | [] => none
  | character :: rest => if character = separator then some rest else none

/-- `.ffffff`, or nothing. -/
def scanFraction : List Char → Option (Nat × List Char)
  | '.' :: rest => scanDigits 6 rest
  | rest => some (0, rest)

/-- `:SS[.ffffff]`, or nothing, in microseconds. -/
def scanSeconds : List Char → Option (Nat × List Char)
  | ':' :: rest => do
      let (second, rest) ← scanDigits 2 rest
      let (fraction, rest) ← scanFraction rest
      if second < 60 then pure (second * 1000000 + fraction, rest) else none
  | rest => some (0, rest)

/-- `HH:MM[:SS[.ffffff]]`, in microseconds. -/
def scanClock (text : List Char) : Option (Nat × List Char) := do
  let (hour, rest) ← scanDigits 2 text
  let (minute, rest) ← scanDigits 2 (← expect ':' rest)
  let (seconds, rest) ← scanSeconds rest
  if hour < 24 ∧ minute < 60 then
    pure ((hour * 60 + minute) * 60000000 + seconds, rest)
  else none

/-- `[±HH:MM[:SS[.ffffff]]]` at the end of a text.  An offset of no whole second is UTC. -/
def scanOffset : List Char → Option (Option Int)
  | [] => some none
  | sign :: rest =>
      match scanClock rest with
      | some (offset, []) =>
          let offset : Nat := if offset < 1000000 then 0 else offset
          if sign = '+' then some (some offset)
          else if sign = '-' then some (some (-offset))
          else none
      | _ => none

/-- What `isoformat` writes, read by `datetime.fromisoformat`. -/
def ofIsoformat (text : String) : Option DateTime := do
  let (year, rest) ← scanDigits 4 text.toList
  let (month, rest) ← scanDigits 2 (← expect '-' rest)
  let (dayOfMonth, rest) ← scanDigits 2 (← expect '-' rest)
  let ordinal ← ymd2ord year month dayOfMonth
  let (time, rest) ← scanClock (← expect 'T' rest)
  let offset ← scanOffset rest
  pure { wall := (ordinal - 1 : Nat) * 86400000000 + time, utcoffset := offset }

/-! ## Clocks -/

theorem toList_zeroPadded (width value : Nat) :
    (zeroPadded width value).toList = padded width value := by
  have digits : (toString value).toList = Nat.toDigits 10 value := Nat.toList_repr
  have length : (toString value).length = (Nat.toDigits 10 value).length := by
    rw [← digits, String.length_toList]
  simp only [zeroPadded, String.toList_append, String.toList_ofList, digits, length, padded]

/-- What a clock does not go on with. -/
def Closed (rest : List Char) : Prop :=
  ∀ character ∈ rest.head?, character ≠ ':' ∧ character ≠ '.'

theorem scanFraction_closed {rest : List Char} (closed : Closed rest) :
    scanFraction rest = some (0, rest) := by
  unfold scanFraction
  split
  · exact absurd rfl (closed '.' rfl).2
  · rfl

theorem scanSeconds_closed {rest : List Char} (closed : Closed rest) :
    scanSeconds rest = some (0, rest) := by
  unfold scanSeconds
  split
  · exact absurd rfl (closed ':' rfl).1
  · rfl

theorem toList_clockFormat (seconds : Bool) (microseconds : Nat) :
    (clockFormat seconds microseconds).toList =
      padded 2 (microseconds / 1000000 / 3600) ++
        ':' :: (padded 2 (microseconds / 1000000 / 60 % 60) ++
          ((if seconds ∨ microseconds / 1000000 % 60 ≠ 0 ∨ microseconds % 1000000 ≠ 0 then
              ':' :: padded 2 (microseconds / 1000000 % 60) else []) ++
            (if microseconds % 1000000 ≠ 0 then '.' :: padded 6 (microseconds % 1000000)
              else []))) := by
  have colon : ":".toList = [':'] := rfl
  have point : ".".toList = ['.'] := rfl
  simp only [clockFormat, String.toList_append, toList_zeroPadded, colon, apply_ite String.toList,
    point, List.append_assoc, List.cons_append, List.nil_append, String.toList_empty]

theorem scanSeconds_seconds {second : Nat} (fits : second < 60) {fraction : Nat}
    (small : fraction < 1000000) {rest : List Char} (closed : Closed rest) :
    scanSeconds (':' :: (padded 2 second ++
      ((if fraction ≠ 0 then '.' :: padded 6 fraction else []) ++ rest))) =
        some (second * 1000000 + fraction, rest) := by
  have seconds := scanDigits_padded 2 (by decide) (Nat.lt_trans fits (by decide))
    ((if fraction ≠ 0 then '.' :: padded 6 fraction else []) ++ rest)
  have fractions : scanFraction ((if fraction ≠ 0 then '.' :: padded 6 fraction else []) ++ rest) =
      some (fraction, rest) := by
    by_cases zero : fraction = 0
    · subst zero
      exact scanFraction_closed closed
    · rw [if_pos zero]
      exact scanDigits_padded 6 (by decide) small rest
  simp only [scanSeconds, seconds, fractions, bind, Option.bind, if_pos fits]
  rfl

/-- A clock is read back, of an offset as of a time of day. -/
theorem scanClock_clockFormat (seconds : Bool) {microseconds : Nat}
    (fits : microseconds < 86400000000) {rest : List Char} (closed : Closed rest) :
    scanClock ((clockFormat seconds microseconds).toList ++ rest) =
      some (microseconds, rest) := by
  rw [toList_clockFormat]
  have hour : microseconds / 1000000 / 3600 < 24 := by omega
  have minute : microseconds / 1000000 / 60 % 60 < 60 := Nat.mod_lt _ (by decide)
  generalize tail : ((if seconds ∨ microseconds / 1000000 % 60 ≠ 0 ∨
      microseconds % 1000000 ≠ 0 then ':' :: padded 2 (microseconds / 1000000 % 60) else []) ++
    (if microseconds % 1000000 ≠ 0 then '.' :: padded 6 (microseconds % 1000000) else [])) ++
      rest = more
  have read : scanSeconds more =
      some (microseconds / 1000000 % 60 * 1000000 + microseconds % 1000000, rest) := by
    rw [← tail]
    by_cases shown : seconds ∨ microseconds / 1000000 % 60 ≠ 0 ∨ microseconds % 1000000 ≠ 0
    · rw [if_pos shown, List.append_assoc, List.cons_append]
      exact scanSeconds_seconds (Nat.mod_lt _ (by decide)) (Nat.mod_lt _ (by decide)) closed
    · obtain ⟨-, second, fraction⟩ := not_or.mp shown |>.imp_right not_or.mp
      rw [if_neg shown, if_neg fraction, not_not.mp second, not_not.mp fraction]
      exact scanSeconds_closed closed
  have hours := scanDigits_padded 2 (by decide)
    (Nat.lt_of_lt_of_le hour (by decide))
    (':' :: (padded 2 (microseconds / 1000000 / 60 % 60) ++ more))
  have minutes := scanDigits_padded 2 (by decide)
    (Nat.lt_of_lt_of_le minute (by decide)) more
  rw [List.append_assoc, List.cons_append, List.append_assoc, tail]
  simp only [scanClock, hours, expect, minutes, read, bind, Option.bind, if_true,
    if_pos (And.intro hour minute)]
  refine congrArg some (Prod.ext ?_ rfl)
  dsimp only
  omega

/-! ## Datetimes -/

/-- The value that is read back. -/
def reread (value : DateTime) : DateTime :=
  { value with
    utcoffset := value.utcoffset.map fun offset =>
      if offset.natAbs < 1000000 then 0 else offset }

theorem scanOffset_clock {offset : Int} (fits : offset.natAbs < 86400000000) :
    scanOffset ((if offset < 0 then '-' else '+') :: (clockFormat false offset.natAbs).toList) =
      some (some (if offset.natAbs < 1000000 then 0 else offset)) := by
  have closed : Closed [] := fun character member => nomatch member
  have clock := scanClock_clockFormat false fits closed
  rw [List.append_nil] at clock
  simp only [scanOffset, clock]
  by_cases negative : offset < 0
  · rw [if_pos negative, if_neg (by decide), if_pos rfl]
    refine congrArg (some ∘ some) ?_
    split <;> omega
  · rw [if_neg negative, if_pos rfl]
    refine congrArg (some ∘ some) ?_
    split <;> omega

theorem toList_isoformat (value : DateTime) :
    value.isoformat.toList =
      let date := ord2ymd (value.wall / 86400000000).toNat.succ
      padded 4 date.1 ++ '-' :: (padded 2 date.2.1 ++ '-' :: (padded 2 date.2.2 ++
        'T' :: ((clockFormat true (value.wall % 86400000000).toNat).toList ++
          match value.utcoffset with
          | none => []
          | some offset =>
              (if offset < 0 then '-' else '+') :: (clockFormat false offset.natAbs).toList))) := by
  have dash : "-".toList = ['-'] := rfl
  have letter : "T".toList = ['T'] := rfl
  have plus : "+".toList = ['+'] := rfl
  cases offset : value.utcoffset with
  | none =>
      simp only [isoformat, offset, String.toList_append, toList_zeroPadded, dash, letter,
        String.toList_empty, List.append_assoc, List.cons_append, List.nil_append]
  | some offset' =>
      simp only [isoformat, offset, String.toList_append, toList_zeroPadded, dash, letter,
        plus, apply_ite String.toList, List.append_assoc, List.cons_append, List.nil_append]
      split <;> rfl

theorem closed_offset (offset : Option Int) :
    Closed (match offset with
      | none => []
      | some offset =>
          (if offset < 0 then '-' else '+') :: (clockFormat false offset.natAbs).toList) := by
  intro character member
  cases offset with
  | none => cases member
  | some offset =>
      cases member
      split <;> decide

/-- What is read from the text of a datetime. -/
theorem ofIsoformat_isoformat {value : DateTime} (representable : value.Representable) :
    ofIsoformat value.isoformat = some value.reread := by
  obtain ⟨first, last, offset⟩ := representable
  unfold ending at last
  have ordinal : (value.wall / 86400000000).toNat.succ ≤ 3652059 := by omega
  have date := ymd2ord_ord2ymd (Nat.succ_pos (value.wall / 86400000000).toNat) ordinal
  have time : (value.wall % 86400000000).toNat < 86400000000 := by omega
  have read : scanOffset (match value.utcoffset with
      | none => []
      | some offset =>
          (if offset < 0 then '-' else '+') :: (clockFormat false offset.natAbs).toList) =
      some value.reread.utcoffset := by
    unfold reread
    cases shown : value.utcoffset with
    | none => rfl
    | some offset' => exact scanOffset_clock (offset _ shown)
  rw [ofIsoformat, toList_isoformat]
  dsimp only
  generalize ord2ymd (value.wall / 86400000000).toNat.succ = day at date
  obtain ⟨year, month, dayOfMonth⟩ := day
  obtain ⟨yearFits, monthFits, dayFits⟩ := ymd2ord_fits date
  dsimp only at date ⊢
  simp only [bind, Option.bind, scanDigits_padded 4 (by decide) yearFits, expect, if_true,
    scanDigits_padded 2 (by decide) monthFits, scanDigits_padded 2 (by decide) dayFits, date,
    scanClock_clockFormat true time (closed_offset value.utcoffset), read]
  refine congrArg some ?_
  unfold reread
  congr 1
  omega

/-- A datetime whose offset from UTC, if there is one, is a second or more, or nothing. -/
def Legible (value : DateTime) : Prop :=
  ∀ offset ∈ value.utcoffset, offset = 0 ∨ 1000000 ≤ offset.natAbs

/-- It is read back as it was. -/
theorem reread_legible {value : DateTime} (legible : value.Legible) : value.reread = value := by
  obtain ⟨wall, offset⟩ := value
  cases offset with
  | none => rfl
  | some offset =>
      rcases legible offset rfl with rfl | long
      · rfl
      · simp only [reread, Option.map_some, if_neg (Nat.not_lt.mpr long)]

end DateTime

end Freight
