/-
Module: Freight.Text.JsonRoundTrip
Purpose: What the JSON decoder makes of a text that the encoder has written, and that the
  encoder's text depends on nothing but the value.
Trusted boundary: none
Main exports:
  Json.Wire, JsonText.scanOnce_write, JsonText.loads_write, JsonText.loads_dumps,
  JsonText.dumps_reordered, JsonText.dumps_loads
-/
import Freight.Text.JsonText

namespace Freight

/-- The values whose text can be read back: finite numbers, and every key once. -/
abbrev Json.Wire (value : Json) : Prop := value.WellFormed Double.Finite

namespace JsonText

open Text (Delimited delimited_cons delimited_nil)

/-! ## Fronts of texts -/

/-- A text that begins a value: not with white space, a delimiter, or a byte order mark. -/
def Begins (text : List Char) : Prop :=
  ∃ first more, text = first :: more ∧ first ∉ [' ', '\t', '\n', '\r', ']', '\x7d', '\uFEFF']

theorem Begins.append {text : List Char} (begins : Begins text) (rest : List Char) :
    Begins (text ++ rest) := by
  obtain ⟨first, more, rfl, allowed⟩ := begins
  exact ⟨first, more ++ rest, rfl, allowed⟩

theorem skip_begins {text : List Char} (begins : Begins text) : skip text = text := by
  obtain ⟨first, more, rfl, allowed⟩ := begins
  simp only [List.mem_cons, List.not_mem_nil, or_false, not_or] at allowed
  simp [skip, allowed]

theorem begins_withSign {negative : Bool} {first : Char} {more : List Char}
    (digit : first.isDigit = true) : Begins (Text.withSign negative (first :: more)) := by
  cases negative with
  | true => exact ⟨'-', first :: more, rfl, by decide⟩
  | false =>
      refine ⟨first, more, rfl, ?_⟩
      intro member
      simp only [List.mem_cons, List.not_mem_nil, or_false] at member
      rcases member with rfl | rfl | rfl | rfl | rfl | rfl | rfl <;> cases digit

/-! ## Numbers and strings -/

section Scalars

variable {interpreter : Interpreter} {fuel depth : Nat}

theorem scanOnce_number {text : List Char} {found : Text.Number × List Char}
    (matched : Text.matchNumber text = some found) :
    scanOnce interpreter (fuel + 1) depth text = scanNumber interpreter text := by
  obtain ⟨negative, first, more, rfl, digit⟩ := Text.matchNumber_front matched
  cases negative with
  | true =>
      simp only [Text.withSign, if_true]
      unfold scanOnce
      split
      case h_10 => rfl
      all_goals
        rename_i equality
        cases equality <;> cases digit
  | false =>
      simp only [Text.withSign, Bool.false_eq_true, if_false]
      unfold scanOnce
      split
      case h_10 => rfl
      all_goals
        rename_i equality
        cases equality
        cases digit

/-- An integer is read back, unless it has too many digits. -/
theorem scanNumber_intText (interpreter : Interpreter) (value : Int) {rest : List Char}
    (delimited : Delimited rest) :
    scanNumber interpreter (Text.intText value ++ rest) =
      match interpreter.decoding.int value with
      | some error => .error error
      | none => .ok (.int value, rest) := by
  have sign : (if decide (value < 0) = true then -(value.natAbs : Int) else value.natAbs) =
      value := by
    split
    · rename_i negative
      have below := of_decide_eq_true negative
      omega
    · rename_i positive
      have above : ¬ value < 0 := fun below => positive (decide_eq_true below)
      omega
  have read : ∀ found, interpreter.readInt (value < 0) (Nat.toDigits 10 value.natAbs) =
      .ok found → found = value := by
    intro found accepted
    simp only [Interpreter.readInt] at accepted
    split at accepted
    · cases accepted
      rwa [Text.numeral_toDigits]
    · cases accepted
  rw [scanNumber, Text.matchNumber_intText _ delimited]
  simp only [Text.Number.isInt, List.isEmpty_nil, Option.isNone_none, Bool.and_self, if_true,
    Interpreter.decoding]
  cases accepted : interpreter.readInt (value < 0) (Nat.toDigits 10 value.natAbs) with
  | error error => rfl
  | ok found => rw [read found accepted]

/-- A finite float is read back. -/
theorem scanNumber_repr (interpreter : Interpreter) {value : Double} (finite : value.Finite)
    {rest : List Char} (delimited : Delimited rest) :
    scanNumber interpreter (value.repr ++ rest) = .ok (.float value, rest) := by
  cases value with
  | nan => cases finite
  | infinity negative => cases finite
  | finite negative mantissa exponent =>
      obtain ⟨number, matched, float, same⟩ := Double.matchNumber_repr finite delimited
      rw [scanNumber, matched]
      simp only [float, Bool.false_eq_true, if_false, same]

theorem length_le_flatMap_escape (characters : List Char) :
    characters.length ≤ (characters.flatMap escape).length := by
  induction characters with
  | nil => exact Nat.le_refl 0
  | cons character characters inductionHypothesis =>
      have nonempty : 0 < (escape character).length := by
        unfold escape
        dsimp only
        split
        · exact Nat.succ_pos _
        split
        · exact Nat.succ_pos _
        split
        · exact Nat.succ_pos _
        · exact Nat.succ_pos _
      rw [List.flatMap_cons, List.length_append, List.length_cons]
      omega

/-- A string is read back. -/
theorem scanText_encoded (text : String) (rest : List Char) :
    scanText (text.toList.flatMap escape ++ '"' :: rest) = .ok (text, rest) := by
  have length := length_le_flatMap_escape text.toList
  rw [scanText, scanString_flatMap rest (by
    rw [List.length_append]
    omega)]
  exact congrArg (fun found => Except.ok (found, rest)) String.ofList_toList

theorem encodeString_append (text : String) (rest : List Char) :
    encodeString text ++ rest = '"' :: (text.toList.flatMap escape ++ '"' :: rest) := by
  simp [encodeString]

end Scalars

/-! ## Values -/

theorem begins_number {text : List Char} {found : Text.Number × List Char}
    (matched : Text.matchNumber text = some found) : Begins text := by
  obtain ⟨negative, first, more, rfl, digit⟩ := Text.matchNumber_front matched
  exact begins_withSign digit

theorem begins_write (value : Json) (wire : value.Wire) : Begins (write value) := by
  cases value with
  | null => exact ⟨'n', _, rfl, by decide⟩
  | bool value =>
      cases value with
      | true => exact ⟨'t', _, rfl, by decide⟩
      | false => exact ⟨'f', _, rfl, by decide⟩
  | int value =>
      have matched := Text.matchNumber_intText value delimited_nil
      rw [List.append_nil] at matched
      exact begins_number matched
  | float value =>
      cases value with
      | nan => cases wire
      | infinity negative => cases wire
      | finite negative mantissa exponent =>
          have finite : (Double.finite negative mantissa exponent).Finite := wire
          obtain ⟨number, matched, -⟩ := Double.matchNumber_repr finite delimited_nil
          rw [List.append_nil] at matched
          exact begins_number matched
  | str value => exact ⟨'"', _, rfl, by decide⟩
  | arr items => exact ⟨'[', _, rfl, by decide⟩
  | obj fields => exact ⟨'\x7b', _, rfl, by decide⟩

theorem begins_writeItems (item : Json) (items : List Json) (wire : item.Wire) :
    Begins (writeItems (item :: items)) := by
  have begins := begins_write item wire
  cases items with
  | nil => exact begins
  | cons next items => exact begins.append _

/-- Members with new keys are added to a dictionary as they come. -/
theorem foldl_members {members : List (String × Json)} :
    ∀ fields : List (String × Json), (fields.map Prod.fst ++ members.map Prod.fst).Nodup →
      members.foldl
        (fun fields member =>
          if fields.any (·.1 = member.1) then
            fields.map fun field => if field.1 = member.1 then member else field
          else fields ++ [member])
        fields = fields ++ members := by
  induction members with
  | nil => simp
  | cons member members inductionHypothesis =>
      intro fields unique
      rw [List.map_cons] at unique
      have absent : fields.any (·.1 = member.1) = false := by
        rw [List.any_eq_false]
        intro field present same
        exact (List.nodup_append.mp unique).2.2 field.1 (List.mem_map_of_mem present)
          member.1 List.mem_cons_self (of_decide_eq_true same)
      have longer := inductionHypothesis (fields ++ [member]) (by simpa using unique)
      rw [List.foldl_cons, absent]
      simpa using longer

theorem ofMembers_of_nodup {members : List (String × Json)}
    (unique : (members.map Prod.fst).Nodup) : ofMembers members = members :=
  foldl_members [] unique

/-- What an exception or a value makes of the text behind it. -/
def answer {α : Type} (refused : Option PyError) (value : α) (rest : List Char) :
    Except PyError (α × List Char) :=
  match refused with
  | some error => .error error
  | none => .ok (value, rest)

section RoundTrip

variable (interpreter : Interpreter)

theorem scanOnce_arr {fuel depth : Nat} {items : List Json} {rest : List Char}
    {refused : Option PyError} (text : List Char) (begins : Begins text)
    (scanned : scanItems interpreter fuel depth text = answer refused items rest) :
    scanOnce interpreter (fuel + 1) (depth + 1) ('[' :: text) =
      answer refused (.arr items) rest := by
  obtain ⟨first, more, rfl, allowed⟩ := begins
  simp only [scanOnce, skip_begins ⟨first, more, rfl, allowed⟩]
  split
  · rename_i equality
    cases equality
    exact absurd (by decide) allowed
  · rw [scanned]
    cases refused <;> rfl

theorem scanOnce_obj {fuel depth : Nat} {members : List (String × Json)} {rest : List Char}
    {refused : Option PyError} (text : List Char)
    (unique : (members.map Prod.fst).Nodup)
    (scanned : scanMembers interpreter fuel depth ('"' :: text) =
      answer refused members rest) :
    scanOnce interpreter (fuel + 1) (depth + 1) ('\x7b' :: '"' :: text) =
      answer refused (.obj members) rest := by
  have front : skip ('"' :: text) = '"' :: text := rfl
  simp only [scanOnce, front]
  split
  · rename_i equality
    cases equality
  · rw [scanned]
    cases refused with
    | some error => rfl
    | none =>
        simp only [answer, bind, Except.bind, pure, Except.pure]
        rw [ofMembers_of_nodup unique]

theorem writeItems_cons (item next : Json) (items : List Json) :
    writeItems (item :: next :: items) = write item ++ ',' :: writeItems (next :: items) := rfl

theorem writeFields_cons (key : String) (value : Json) (next : String × Json)
    (fields : List (String × Json)) :
    writeFields ((key, value) :: next :: fields) =
      encodeString key ++ ':' :: (write value ++ ',' :: writeFields (next :: fields)) := rfl

theorem skip_comma {text : List Char} : skip (',' :: text) = ',' :: text := rfl

theorem skip_colon {text : List Char} : skip (':' :: text) = ':' :: text := rfl

mutual

/-- A value is read back from its text, unless the decoder runs into its limits. -/
theorem scanOnce_write : ∀ (value : Json), value.Wire → ∀ (fuel depth : Nat)
    (rest : List Char), (write value).length ≤ fuel → Delimited rest →
      scanOnce interpreter fuel depth (write value ++ rest) =
        answer (refusal interpreter.decoding depth value) value rest
  | value, wire, 0, _, _, enough, _ => by
      obtain ⟨first, more, front, -⟩ := begins_write value wire
      rw [front] at enough
      cases enough
  | .null, _, fuel + 1, depth, rest, _, _ => by cases depth <;> rfl
  | .bool value, _, fuel + 1, depth, rest, _, _ => by cases value <;> cases depth <;> rfl
  | .int value, _, fuel + 1, depth, rest, _, delimited => by
      rw [write, scanOnce_number (Text.matchNumber_intText _ delimited),
        scanNumber_intText interpreter value delimited]
      cases depth <;> rfl
  | .float value, finite, fuel + 1, depth, rest, _, delimited => by
      have scanned := scanNumber_repr interpreter finite delimited
      cases value with
      | nan => cases finite
      | infinity negative => cases finite
      | finite negative mantissa exponent =>
          obtain ⟨number, matched, -⟩ := Double.matchNumber_repr finite delimited
          rw [write, scanOnce_number matched, scanned]
          cases depth <;> rfl
  | .str value, _, fuel + 1, depth, rest, _, _ => by
      rw [write, encodeString_append]
      simp only [scanOnce, scanText_encoded]
      cases depth <;> rfl
  | .arr items, wire, fuel + 1, 0, rest, _, _ => rfl
  | .arr [], wire, fuel + 1, depth + 1, rest, _, _ => rfl
  | .arr (item :: items), wire, fuel + 1, depth + 1, rest, enough, delimited => by
      have scanned := scanItems_write item items wire fuel depth rest
        (by simpa [write] using enough)
      have begins := (begins_writeItems item items wire.1).append (']' :: rest)
      rw [write, refusal, List.cons_append, List.append_assoc]
      exact scanOnce_arr interpreter _ begins scanned
  | .obj fields, wire, fuel + 1, 0, rest, _, _ => rfl
  | .obj [], wire, fuel + 1, depth + 1, rest, _, _ => rfl
  | .obj ((key, value) :: fields), wire, fuel + 1, depth + 1, rest, enough, delimited => by
      have scanned := scanMembers_write key value fields wire.2 fuel depth rest
        (by simpa [write] using enough)
      obtain ⟨text, front⟩ : ∃ text,
          writeFields ((key, value) :: fields) ++ '\x7d' :: rest = '"' :: text := by
        cases fields <;> exact ⟨_, rfl⟩
      rw [front] at scanned
      rw [write, refusal, List.cons_append, List.append_assoc]
      refine (congrArg (scanOnce interpreter _ _) (congrArg (List.cons _) front)).trans ?_
      exact scanOnce_obj interpreter text wire.1 scanned

theorem scanItems_write : ∀ (item : Json) (items : List Json),
    Json.WellFormedItems Double.Finite (item :: items) → ∀ (fuel depth : Nat)
    (rest : List Char), (writeItems (item :: items)).length + 1 ≤ fuel →
      scanItems interpreter fuel depth (writeItems (item :: items) ++ ']' :: rest) =
        answer (refusalItems interpreter.decoding depth (item :: items)) (item :: items) rest
  | item, [], wire, fuel + 1, depth, rest, enough => by
      have scanned := scanOnce_write item wire.1 fuel depth (']' :: rest)
        (Nat.le_of_succ_le_succ enough) (delimited_cons (.inr (.inl rfl)))
      rw [writeItems, scanItems, scanned, refusalItems]
      cases refusal interpreter.decoding depth item <;> rfl
  | item, next :: items, wire, fuel + 1, depth, rest, enough => by
      rw [writeItems_cons, List.length_append, List.length_cons] at enough
      have scanned := scanOnce_write item wire.1 fuel depth
        (',' :: (writeItems (next :: items) ++ ']' :: rest)) (by omega)
        (delimited_cons (.inl rfl))
      have others := scanItems_write next items wire.2 fuel depth rest (by omega)
      have begins := (begins_writeItems next items wire.2.1).append (']' :: rest)
      rw [writeItems_cons, List.append_assoc, List.cons_append, scanItems, scanned, refusalItems]
      cases refusal interpreter.decoding depth item with
      | some error => rfl
      | none =>
          simp only [answer, bind, Except.bind, skip_comma, skip_begins begins, others]
          cases refusalItems interpreter.decoding depth (next :: items) <;> rfl

theorem scanMembers_write : ∀ (key : String) (value : Json) (fields : List (String × Json)),
    Json.WellFormedFields Double.Finite ((key, value) :: fields) → ∀ (fuel depth : Nat)
    (rest : List Char), (writeFields ((key, value) :: fields)).length + 1 ≤ fuel →
      scanMembers interpreter fuel depth
          (writeFields ((key, value) :: fields) ++ '\x7d' :: rest) =
        answer (refusalFields interpreter.decoding depth ((key, value) :: fields))
          ((key, value) :: fields) rest
  | key, value, [], wire, fuel + 1, depth, rest, enough => by
      rw [writeFields, List.length_append, List.length_cons] at enough
      have scanned := scanOnce_write value wire.1 fuel depth ('\x7d' :: rest) (by omega)
        (delimited_cons (.inr (.inr rfl)))
      have begins := (begins_write value wire.1).append ('\x7d' :: rest)
      rw [writeFields, List.append_assoc, encodeString_append, List.cons_append, scanMembers,
        refusalFields]
      simp only [bind, Except.bind, scanText_encoded, skip_colon, skip_begins begins, scanned]
      cases refusal interpreter.decoding depth value <;> rfl
  | key, value, (other, second) :: fields, wire, fuel + 1, depth, rest, enough => by
      rw [writeFields_cons, List.length_append, List.length_cons, List.length_append,
        List.length_cons] at enough
      have scanned := scanOnce_write value wire.1 fuel depth
        (',' :: (writeFields ((other, second) :: fields) ++ '\x7d' :: rest)) (by omega)
        (delimited_cons (.inl rfl))
      have others := scanMembers_write other second fields wire.2 fuel depth rest (by omega)
      have begins := (begins_write value wire.1).append
        (',' :: (writeFields ((other, second) :: fields) ++ '\x7d' :: rest))
      have front : skip (writeFields ((other, second) :: fields) ++ '\x7d' :: rest) =
          writeFields ((other, second) :: fields) ++ '\x7d' :: rest := by
        cases fields <;> rfl
      rw [writeFields_cons, List.append_assoc, encodeString_append, List.cons_append,
        List.append_assoc, List.cons_append, scanMembers, refusalFields]
      simp only [bind, Except.bind, scanText_encoded, skip_colon, skip_begins begins, scanned]
      cases refusal interpreter.decoding depth value with
      | some error => rfl
      | none =>
          simp only [answer, skip_comma, front, others]
          cases refusalFields interpreter.decoding depth ((other, second) :: fields) <;> rfl

end

/-- What the decoder makes of the text of a value. -/
theorem loads_write {value : Json} (wire : value.Wire) :
    loads interpreter (String.ofList (write value)) =
      match refusal interpreter.decoding interpreter.decodeDepth value with
      | some error => .error error
      | none => .ok value := by
  have scanned := scanOnce_write interpreter value wire
    (2 * (write value).length + 2) interpreter.decodeDepth [] (by omega) delimited_nil
  have begins := begins_write value wire
  rw [List.append_nil] at scanned
  rw [loads, String.toList_ofList]
  split
  · rename_i mark
    obtain ⟨first, more, front, allowed⟩ := begins
    rw [front] at mark
    cases mark
    exact absurd (by decide) allowed
  · simp only [skip_begins begins, scanned]
    cases refusal interpreter.decoding interpreter.decodeDepth value <;> rfl

end RoundTrip

/-! ## Limits -/

section Limits

variable {interpreter : Interpreter}

theorem decoding_int {value : Int} (written : interpreter.encoding.int value = none) :
    interpreter.decoding.int value = none := by
  simp only [Interpreter.encoding] at written
  split at written
  · rename_i allowed
    simp only [Interpreter.decoding, Interpreter.readInt, allowed, if_true]
  · cases written

mutual

/-- What has been written can be read, where the decoder may go as deep as the encoder. -/
theorem refusal_decoding : ∀ (value : Json) {depth depth' : Nat},
    refusal interpreter.encoding depth value = none → depth ≤ depth' →
      refusal interpreter.decoding depth' value = none
  | .null, _, depth', _, _ => by cases depth' <;> rfl
  | .bool _, _, depth', _, _ => by cases depth' <;> rfl
  | .float _, _, depth', _, _ => by cases depth' <;> rfl
  | .str _, _, depth', _, _ => by cases depth' <;> rfl
  | .int value, depth, depth', written, _ => by
      have same : refusal interpreter.encoding depth (.int value) =
          interpreter.encoding.int value := by cases depth <;> rfl
      have read := decoding_int (same.symm.trans written)
      cases depth' <;> exact read
  | .arr items, 0, _, written, _ => by cases written
  | .arr items, depth + 1, 0, _, deeper => by cases deeper
  | .arr items, depth + 1, depth' + 1, written, deeper =>
      refusalItems_decoding items written (Nat.le_of_succ_le_succ deeper)
  | .obj fields, 0, _, written, _ => by cases written
  | .obj fields, depth + 1, 0, _, deeper => by cases deeper
  | .obj fields, depth + 1, depth' + 1, written, deeper =>
      refusalFields_decoding fields written (Nat.le_of_succ_le_succ deeper)

theorem refusalItems_decoding : ∀ (items : List Json) {depth depth' : Nat},
    refusalItems interpreter.encoding depth items = none → depth ≤ depth' →
      refusalItems interpreter.decoding depth' items = none
  | [], _, _, _, _ => rfl
  | item :: items, depth, depth', written, deeper => by
      rw [refusalItems] at written
      split at written
      · cases written
      · rename_i head
        rw [refusalItems, refusal_decoding item head deeper]
        exact refusalItems_decoding items written deeper

theorem refusalFields_decoding : ∀ (fields : List (String × Json)) {depth depth' : Nat},
    refusalFields interpreter.encoding depth fields = none → depth ≤ depth' →
      refusalFields interpreter.decoding depth' fields = none
  | [], _, _, _, _ => rfl
  | (_, value) :: fields, depth, depth', written, deeper => by
      rw [refusalFields] at written
      split at written
      · cases written
      · rename_i head
        rw [refusalFields, refusal_decoding value head deeper]
        exact refusalFields_decoding fields written deeper

end

end Limits

/-! ## The encoder's text -/

section Canonical

variable {interpreter other : Interpreter} {value : Json} {text : String}

/-- A text that has been written is the text of the value with its keys sorted. -/
theorem dumps_ok_iff :
    dumps interpreter value = .ok text ↔
      refusal interpreter.encoding interpreter.encodeDepth value.sortKeys = none ∧
        String.ofList (write value.sortKeys) = text := by
  unfold dumps
  cases refusal interpreter.encoding interpreter.encodeDepth value.sortKeys <;> simp

/-- The order of keys makes no difference to the text, nor to what is raised. -/
theorem dumps_reordered {allowed : Double → Prop} {left right : Json}
    (wellFormed : left.WellFormed allowed) (reordered : Json.Reordered left right) :
    dumps interpreter left = dumps interpreter right := by
  unfold dumps
  rw [Json.sortKeys_eq_of_reordered wellFormed reordered]

/-- Every process writes the same text, if it writes one. -/
theorem dumps_unique {again : String} (written : dumps interpreter value = .ok text)
    (repeated : dumps other value = .ok again) : again = text := by
  rw [← (dumps_ok_iff.mp repeated).2, (dumps_ok_iff.mp written).2]

/-- What a process reads from a text that has been written. -/
theorem loads_dumps (wire : value.Wire) (written : dumps interpreter value = .ok text) :
    loads other text =
      match refusal other.decoding other.decodeDepth value.sortKeys with
      | some error => .error error
      | none => .ok value.sortKeys := by
  rw [← (dumps_ok_iff.mp written).2]
  exact loads_write other (Json.wellFormed_sortKeys wire)

/-- It is read, where the decoder may go as deep as the encoder. -/
theorem loads_dumps_ok (wire : value.Wire) (written : dumps interpreter value = .ok text)
    (deeper : interpreter.encodeDepth ≤ interpreter.decodeDepth) :
    loads interpreter text = .ok value.sortKeys := by
  rw [loads_dumps wire written, refusal_decoding _ (dumps_ok_iff.mp written).1 deeper]

theorem eq_sortKeys_of_loads {read : Json} (wire : value.Wire)
    (written : dumps interpreter value = .ok text) (decoded : loads other text = .ok read) :
    read = value.sortKeys := by
  rw [loads_dumps wire written] at decoded
  split at decoded
  · cases decoded
  · cases decoded
    rfl

/-- What has been read from a text is written as that text. -/
theorem dumps_loads {read : Json} (wire : value.Wire)
    (written : dumps interpreter value = .ok text) (decoded : loads other text = .ok read) :
    dumps interpreter read = .ok text := by
  rw [eq_sortKeys_of_loads wire written decoded, ← written]
  exact (dumps_reordered wire (Json.reordered_sortKeys value)).symm

end Canonical

end JsonText

end Freight
