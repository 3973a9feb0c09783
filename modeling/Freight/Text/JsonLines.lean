/-
Module: Freight.Text.JsonLines
Purpose: Texts of the JSON encoder as lines: an object with its keys as they were assigned, and
  a stream of such lines, which can be taken apart again.
Trusted boundary: none
Main exports:
  JsonText.dumpsInOrder, JsonText.dumpsInOrder_of_within, JsonText.loads_write_of_within,
  JsonText.nodup_ofMembers, JsonText.lookup_ofMembers, JsonText.mem_of_mem_ofMembers,
  Text.lines, Text.lines_flatMap
-/
import Freight.Text.Ascii
import Freight.Text.JsonLimits

namespace Text

/-! ## Lines -/

/-- The lines of a text, each ended by a newline. -/
def lines (text : List Char) : List (List Char) := (text.splitOn '\n').dropLast

@[simp] theorem lines_nil : lines [] = [] := rfl

/-- The first line is taken off a text. -/
theorem lines_line {line : List Char} (printable : Printable line) (rest : List Char) :
    lines (line ++ '\n' :: rest) = line :: lines rest := by
  have unbroken : ∀ character ∈ line, (character == '\n') = false := by
    intro character member
    have range := printable character member
    refine beq_false_of_ne ?_
    rintro rfl
    exact absurd range.1 (by decide)
  rw [lines, lines, List.splitOn_eq_splitOnP, List.splitOn_eq_splitOnP,
    List.splitOnP_append_cons_of_forall_mem unbroken '\n' rfl,
    List.dropLast_cons_of_ne_nil (List.splitOnP_ne_nil _ _)]

/-- A text of lines is taken apart into them. -/
theorem lines_flatMap {written : List (List Char)}
    (printable : ∀ line ∈ written, Printable line) :
    lines (written.flatMap (· ++ ['\n'])) = written := by
  induction written with
  | nil => rfl
  | cons line written inductionHypothesis =>
      rw [List.flatMap_cons, List.append_assoc, List.singleton_append,
        lines_line (printable line List.mem_cons_self),
        inductionHypothesis fun other member => printable other (List.mem_cons_of_mem _ member)]

end Text

namespace Freight.JsonText

/-! ## Keys as they come -/

/-- `json.dumps(value, separators=(",", ":"))`. -/
def dumpsInOrder (interpreter : Interpreter) (value : Json) : Except PyError String :=
  match refusal interpreter.encoding interpreter.encodeDepth value with
  | some error => .error error
  | none => .ok (String.ofList (write value))

section Lines

variable {interpreter : Interpreter} {value : Json}

/-- When a value is written. -/
theorem dumpsInOrder_of_within
    (within : value.Within interpreter.Takes interpreter.encodeDepth) :
    dumpsInOrder interpreter value = .ok (String.ofList (write value)) := by
  rw [← Interpreter.encoding_takes, ← refusal_eq_none_iff] at within
  rw [dumpsInOrder, within]

/-- A value that has been written can be read, where the decoder may go as deep. -/
theorem loads_write_of_within (wire : value.Wire)
    (within : value.Within interpreter.Takes interpreter.encodeDepth)
    (deeper : interpreter.encodeDepth ≤ interpreter.decodeDepth) :
    loads interpreter (String.ofList (write value)) = .ok value := by
  rw [← Interpreter.encoding_takes, ← refusal_eq_none_iff] at within
  rw [loads_write interpreter wire, refusal_decoding value within deeper]

end Lines

/-! ## A dictionary that is assigned to -/

/-- `fields[key] = value`. -/
def assign (fields : List (String × Json)) (member : String × Json) : List (String × Json) :=
  if fields.any (·.1 = member.1) then
    fields.map fun field => if field.1 = member.1 then member else field
  else fields ++ [member]

variable {fields members : List (String × Json)} {member : String × Json} {key : String}

theorem ofMembers_eq : ofMembers members = members.foldl assign [] := rfl

/-- A member of the dictionary was there before or has been assigned. -/
theorem mem_assign {field : String × Json} (inside : field ∈ assign fields member) :
    field ∈ fields ∨ field = member := by
  rw [assign] at inside
  split at inside
  · obtain ⟨former, present, same⟩ := List.mem_map.mp inside
    split at same
    · exact .inr same.symm
    · exact .inl (same ▸ present)
  · simpa using inside

theorem mem_foldl_assign {field : String × Json}
    (inside : field ∈ members.foldl assign fields) : field ∈ fields ∨ field ∈ members := by
  induction members generalizing fields with
  | nil => exact .inl inside
  | cons member members inductionHypothesis =>
      rcases inductionHypothesis inside with early | late
      · rcases mem_assign early with former | rfl
        · exact .inl former
        · exact .inr List.mem_cons_self
      · exact .inr (List.mem_cons_of_mem _ late)

theorem any_key : fields.any (·.1 = key) = true ↔ key ∈ fields.map Prod.fst := by
  rw [List.any_eq_true, List.mem_map]
  simp only [decide_eq_true_eq]

/-- An assignment adds a key at most. -/
theorem keys_assign : (assign fields member).map Prod.fst =
    if member.1 ∈ fields.map Prod.fst then fields.map Prod.fst
    else fields.map Prod.fst ++ [member.1] := by
  rw [assign]
  by_cases found : member.1 ∈ fields.map Prod.fst
  · rw [if_pos (any_key.mpr found), if_pos found, List.map_map]
    refine List.map_congr_left fun field _ => ?_
    by_cases own : field.1 = member.1
    · simp [own]
    · simp [own]
  · rw [if_neg (mt any_key.mp found), if_neg found, List.map_append]
    rfl

theorem lookup_isSome : (fields.lookup key).isSome ↔ key ∈ fields.map Prod.fst := by
  rw [List.lookup_isSome_iff, List.mem_map]
  simp only [beq_iff_eq, @eq_comm _ key]

/-- What is found when a member takes the place of those under its key. -/
theorem lookup_replace : (fields.map fun field =>
      if field.1 = member.1 then member else field).lookup key =
    if key = member.1 then (fields.lookup key).map fun _ => member.2
    else fields.lookup key := by
  induction fields with
  | nil => simp
  | cons field fields inductionHypothesis =>
      obtain ⟨name, value⟩ := field
      obtain ⟨assigned, given⟩ := member
      simp only [List.map_cons, List.lookup_cons]
      by_cases same : name = assigned
      · subst same
        rw [if_pos rfl, List.lookup_cons, inductionHypothesis]
        by_cases own : key = name
        · simp [own]
        · simp [own, beq_false_of_ne own]
      · rw [if_neg same, List.lookup_cons, inductionHypothesis]
        by_cases own : key = assigned
        · simp [own, beq_false_of_ne (Ne.symm same)]
        · simp [own]

/-- What is found after an assignment. -/
theorem lookup_assign : (assign fields member).lookup key =
    if key = member.1 then some member.2 else fields.lookup key := by
  obtain ⟨assigned, given⟩ := member
  rw [assign]
  by_cases found : assigned ∈ fields.map Prod.fst
  · rw [if_pos (any_key.mpr found), lookup_replace]
    by_cases own : key = assigned
    · subst own
      obtain ⟨value, stored⟩ := Option.isSome_iff_exists.mp (lookup_isSome.mpr found)
      simp [stored]
    · simp [own]
  · have absent : fields.lookup assigned = none := by
      exact Option.not_isSome_iff_eq_none.mp (mt lookup_isSome.mp found)
    rw [if_neg (mt any_key.mp found), List.lookup_append, List.lookup_cons]
    by_cases own : key = assigned
    · subst own
      simp [absent]
    · simp [own, beq_false_of_ne own]

theorem nodup_foldl_assign (unique : (fields.map Prod.fst).Nodup) :
    ((members.foldl assign fields).map Prod.fst).Nodup := by
  induction members generalizing fields with
  | nil => exact unique
  | cons member members inductionHypothesis =>
      refine inductionHypothesis ?_
      rw [keys_assign]
      split
      · exact unique
      · rename_i fresh
        rw [List.nodup_append]
        refine ⟨unique, by simp, ?_⟩
        intro name inside other last same
        cases List.mem_singleton.mp last
        exact fresh (same ▸ inside)

theorem lookup_foldl_assign : (members.foldl assign fields).lookup key =
    (members.reverse.lookup key).or (fields.lookup key) := by
  induction members generalizing fields with
  | nil => simp
  | cons member members inductionHypothesis =>
      obtain ⟨name, value⟩ := member
      rw [List.foldl_cons, inductionHypothesis, lookup_assign, List.reverse_cons,
        List.lookup_append, Option.or_assoc, List.lookup_cons]
      by_cases own : key = name
      · simp [own]
      · simp [own, beq_false_of_ne own]

/-- A dictionary has every key once. -/
theorem nodup_ofMembers : ((ofMembers members).map Prod.fst).Nodup :=
  nodup_foldl_assign List.nodup_nil

/-- What is found under a key: the last value that it was assigned. -/
theorem lookup_ofMembers : (ofMembers members).lookup key = members.reverse.lookup key := by
  rw [ofMembers_eq, lookup_foldl_assign, List.lookup_nil, Option.or_none]

theorem mem_of_mem_ofMembers {field : String × Json} (inside : field ∈ ofMembers members) :
    field ∈ members :=
  (mem_foldl_assign inside).resolve_left (List.not_mem_nil)

end Freight.JsonText
