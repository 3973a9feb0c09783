/-
Module: Freight.Proofs.LogStream
Purpose: The log of a process that has configured its logging: a text of lines, one for each
  record that is enabled, each of which decodes to what the record says under the names that
  may be logged, and to nothing else.
Trusted boundary: none
Main exports:
  LogRecord.says, JsonFormatter.get_result, Loggable, JsonFormatter.line, LogAction, Logged,
  logged, Configured, log_lines_decode
-/
import Freight.Observability.Logging

namespace Freight

open Text (Printable lines lines_line lines_flatMap)

/-! ## One line -/

/-- What a line says under a name. -/
def LogRecord.says (record : LogRecord) (component : String) (context : Context)
    (name : String) : Option Json :=
  if name = "timestamp" then some (.str (DateTime.utc record.created).isoformat)
  else if name = "level" then some (.str record.levelname)
  else if name = "logger" then some (.str record.name)
  else if name = "error_type" ∧ record.excInfo.isSome then record.excInfo.map Json.str
  else if name ∈ loggedFields then
    (record.field context name).or
      (if name = "operation" then some (.str "library_log")
      else if name = "component" then some (.str component) else none)
  else none

section Line

variable {setting : FormatterSetting} {context : Context} {record : LogRecord}
  {component name : String}

/-- The allowed names, in whatever order they come. -/
theorem lookup_order :
    ((setting.order.filterMap fun name =>
        (record.field context name).map (Prod.mk name)).reverse).lookup name =
      if name ∈ loggedFields then record.field context name else none := by
  have each : ∀ names : List String, names.Nodup →
      (names.filterMap fun name => (record.field context name).map (Prod.mk name)).lookup name =
        if name ∈ names then record.field context name else none := by
    intro names
    induction names with
    | nil => simp
    | cons first names inductionHypothesis =>
        intro unique
        obtain ⟨absent, unique⟩ := List.nodup_cons.mp unique
        have rest := inductionHypothesis unique
        by_cases own : name = first
        · subst own
          rw [if_neg absent] at rest
          cases found : record.field context name with
          | none => simpa [List.filterMap_cons, found] using rest
          | some value => simp [found]
        · cases found : record.field context first with
          | none => simpa [List.filterMap_cons, found, own] using rest
          | some value => simpa [List.filterMap_cons, found, own, beq_false_of_ne own,
              List.lookup_cons] using rest
  have unique : setting.order.reverse.Nodup :=
    List.nodup_reverse.mpr (setting.perm.nodup_iff.mpr (by decide))
  rw [← List.filterMap_reverse, each _ unique]
  simp only [List.mem_reverse, setting.perm.mem_iff]

/-- What the formatter starts from. -/
theorem lookup_defaults {value level logger : Json} :
    [("component", Json.str component), ("operation", .str "library_log"), ("logger", logger),
        ("level", level), ("timestamp", value)].lookup name =
      if name = "timestamp" then some value
      else if name = "level" then some level
      else if name = "logger" then some logger
      else if name = "operation" then some (.str "library_log")
      else if name = "component" then some (.str component) else none := by
  simp only [List.lookup_cons, List.lookup_nil]
  by_cases first : name = "component"
  · subst first
    rfl
  by_cases second : name = "operation"
  · subst second
    rfl
  by_cases third : name = "logger"
  · subst third
    rfl
  by_cases fourth : name = "level"
  · subst fourth
    rfl
  by_cases fifth : name = "timestamp"
  · subst fifth
    rfl
  simp only [beq_false_of_ne, first, second, third, fourth, fifth, ne_eq, not_false_eq_true,
    if_false]

/-- The object of a record says what the record does. -/
theorem JsonFormatter.get_result :
    (JsonFormatter.result { component := component } setting context record).get name =
      record.says component context name := by
  have error : (record.excInfo.toList.map fun typeName =>
      ("error_type", Json.str typeName)).reverse.lookup name =
        if name = "error_type" then record.excInfo.map Json.str else none := by
    cases record.excInfo with
    | none => simp
    | some typeName =>
        by_cases own : name = "error_type"
        · simp [own]
        · simp [own, List.lookup_cons, beq_false_of_ne own]
  rw [result, Json.get, JsonText.lookup_ofMembers, members, List.reverse_append,
    List.reverse_append, List.lookup_append, List.lookup_append, error, lookup_order]
  refine (congrArg (Option.or _) (congrArg (Option.or _) lookup_defaults)).trans ?_
  unfold LogRecord.says
  -- the first three names are not in `FIELDS`
  by_cases first : name = "timestamp"
  · subst first
    simp [loggedFields]
  by_cases second : name = "level"
  · subst second
    simp [loggedFields]
  by_cases third : name = "logger"
  · subst third
    simp [loggedFields]
  simp only [first, second, third, if_false]
  by_cases own : name = "error_type"
  · subst own
    cases record.excInfo with
    | none => simp [loggedFields]
    | some typeName => simp
  · simp only [own, if_false, false_and, Option.none_or]
    by_cases allowed : name ∈ loggedFields
    · simp only [allowed, if_true]
    · have others : name ≠ "operation" ∧ name ≠ "component" := by
        constructor
        · rintro rfl
          exact allowed (by decide)
        · rintro rfl
          exact allowed (by decide)
      simp only [allowed, others.1, others.2, if_false, Option.none_or]

/-- Python values that are JSON, with numbers that can be written, where they may be logged. -/
def Loggable (interpreter : Interpreter) (record : LogRecord) : Prop :=
  ∀ name ∈ loggedFields, ∀ value, record.dict.lookup name = some value →
    value.encoded.Wire ∧
      value.encoded.Within interpreter.Takes interpreter.encodeDepth.pred

/-- Texts are always taken. -/
theorem text_taken (interpreter : Interpreter) (depth : Nat) (text : String) :
    (Json.str text).Wire ∧ (Json.str text).Within interpreter.Takes depth := by
  cases depth <;> exact ⟨trivial, trivial⟩

theorem int_taken {interpreter : Interpreter} {value : Int} (taken : interpreter.Takes value)
    (depth : Nat) : (Json.int value).Wire ∧ (Json.int value).Within interpreter.Takes depth := by
  cases depth <;> exact ⟨trivial, taken⟩

theorem loggable_of_mem {interpreter : Interpreter}
    (taken : ∀ field ∈ record.dict, field.2.encoded.Wire ∧
      field.2.encoded.Within interpreter.Takes interpreter.encodeDepth.pred) :
    Loggable interpreter record := by
  intro name allowed value found
  obtain ⟨before, after, dict, -⟩ := List.lookup_eq_some_iff.mp found
  exact taken (name, value) (by simp [dict])

/-- What may be logged can be written. -/
theorem LogRecord.field_taken {interpreter : Interpreter} {value : Json}
    (loggable : Loggable interpreter record) (allowed : name ∈ loggedFields)
    (found : record.field context name = some value) :
    value.Wire ∧ value.Within interpreter.Takes interpreter.encodeDepth.pred := by
  rw [field] at found
  cases given : record.dict.lookup name with
  | some attached =>
      rw [given] at found
      cases found
      exact loggable name allowed attached given
  | none =>
      rw [given] at found
      obtain ⟨text, -, rfl⟩ := Option.map_eq_some_iff.mp found
      exact text_taken interpreter _ text

theorem JsonFormatter.member_taken {formatter : JsonFormatter}
    (loggable : Loggable setting.interpreter record) {member : String × Json}
    (assigned : member ∈ formatter.members setting context record) :
    member.2.Wire ∧
      member.2.Within setting.interpreter.Takes setting.interpreter.encodeDepth.pred := by
  rcases List.mem_append.mp assigned with earlier | error
  · rcases List.mem_append.mp earlier with start | extra
    · have text : ∃ text, member.2 = .str text := by
        simp only [List.mem_cons, List.not_mem_nil, or_false] at start
        rcases start with rfl | rfl | rfl | rfl | rfl <;> exact ⟨_, rfl⟩
      obtain ⟨text, same⟩ := text
      rw [same]
      exact text_taken _ _ text
    · obtain ⟨name, listed, found⟩ := List.mem_filterMap.mp extra
      obtain ⟨value, present, rfl⟩ := Option.map_eq_some_iff.mp found
      exact record.field_taken loggable (setting.perm.mem_iff.mp listed) present
  · obtain ⟨typeName, -, rfl⟩ := List.mem_map.mp error
    exact text_taken _ _ typeName

/-- The line of a record is written, and decodes to its object. -/
theorem JsonFormatter.line (formatter : JsonFormatter) (context : Context)
    (room : 0 < setting.interpreter.encodeDepth)
    (deeper : setting.interpreter.encodeDepth ≤ setting.interpreter.decodeDepth)
    (loggable : Loggable setting.interpreter record) :
    ∃ text : List Char,
      formatter.format setting context record = .ok (String.ofList text) ∧ Printable text ∧
        JsonText.loads setting.interpreter (String.ofList text) =
          .ok (formatter.result setting context record) := by
  have wire : (formatter.result setting context record).Wire := by
    refine ⟨JsonText.nodup_ofMembers, Json.wellFormedFields_iff.mpr ?_⟩
    intro member inside
    exact (member_taken loggable (JsonText.mem_of_mem_ofMembers inside)).1
  have within : (formatter.result setting context record).Within setting.interpreter.Takes
      setting.interpreter.encodeDepth := by
    rw [← Nat.succ_pred_eq_of_pos room]
    refine Json.withinFields_iff.mpr ?_
    intro member inside
    exact (member_taken loggable (JsonText.mem_of_mem_ofMembers inside)).2
  exact ⟨_, JsonText.dumpsInOrder_of_within within, JsonText.printable_write _,
    JsonText.loads_write_of_within wire within deeper⟩

end Line

/-! ## A process that logs -/

/-- What a process does with its logging: it configures it, or logs a record. -/
inductive LogAction where
  | configure (component level : String)
  | log (context : Context) (record : LogRecord)

/-- The loggers after an action, whatever it raises. -/
def LogAction.perform (setting : FormatterSetting) (loggers : Loggers) : LogAction → Loggers
  | .configure component level => (configureLogging component level loggers).2
  | .log context record => (loggers.log setting context record).2

/-- A record that is due in the log. -/
structure Logged where
  component : String
  context : Context
  record : LogRecord

/-- The first level that is set on the way up to the root. -/
def threshold (levels : String → Nat) (level : Nat) (names : List String) : Nat :=
  ((names.map levels).find? (· ≠ 0)).getD level

/-- The records that are due, with the component of the last configuration. -/
def logged (levels : String → Nat) : String → Nat → List LogAction → List Logged
  | _, _, [] => []
  | component, level, .configure other name :: actions =>
      match levelNumber name with
      | some number => logged levels other number actions
      | none => logged levels component level actions
  | component, level, .log context record :: actions =>
      if threshold levels level (Loggers.ancestry record.name) ≤ record.levelno then
        { component, context, record } :: logged levels component level actions
      else logged levels component level actions

/-- Nobody but Uvicorn has put handlers on a logger, or cut it off from the root. -/
structure Fresh (levels : String → Nat) (loggers : Loggers) : Prop where
  handlers : loggers.root.handlers = [] ∨
    ∃ formatter, loggers.root.handlers = [.json formatter]
  levels : ∀ name, (loggers.named name).level = levels name
  bare : ∀ name, name ∉ uvicornLoggers → (loggers.named name).handlers = []
  propagate : ∀ name, name ∉ uvicornLoggers → (loggers.named name).propagate = true

/-- Every logger hands its records to the root, which has the one handler. -/
structure Configured (levels : String → Nat) (component : String) (level : Nat)
    (loggers : Loggers) : Prop where
  handlers : loggers.root.handlers = [.json { component := component }]
  level : loggers.root.level = level
  levels : ∀ name, (loggers.named name).level = levels name
  bare : ∀ name, (loggers.named name).handlers = []
  propagate : ∀ name, (loggers.named name).propagate = true

section Runs

variable {setting : FormatterSetting} {levels : String → Nat} {component other : String}
  {level number : Nat} {loggers : Loggers} {context : Context} {record : LogRecord}

/-- Step lemma: a configuration, the first one or another. -/
theorem Fresh.configure (fresh : Fresh levels loggers) {name : String}
    (found : levelNumber name = some number) :
    Configured levels component number (configureLogging component name loggers).2 := by
  simp only [configureLogging, found]
  constructor
  · rcases fresh.handlers with none | ⟨formatter, one⟩
    · simp [none, installHandler]
    · simp [one, installHandler]
  · rfl
  · intro one
    by_cases own : one ∈ uvicornLoggers
    · simp [own, fresh.levels]
    · simp [own, fresh.levels]
  · intro one
    by_cases own : one ∈ uvicornLoggers
    · simp [own]
    · simp [own, fresh.bare]
  · intro one
    by_cases own : one ∈ uvicornLoggers
    · simp [own]
    · simp [own, fresh.propagate]

theorem configureLogging_stdout (component name : String) (loggers : Loggers) :
    (configureLogging component name loggers).2.stdout = loggers.stdout := by
  unfold configureLogging
  split <;> rfl

namespace Configured

theorem handlersFor (configured : Configured levels component level loggers)
    (names : List String) :
    loggers.handlersFor names = [.json { component := component }] := by
  induction names with
  | nil => exact configured.handlers
  | cons name names inductionHypothesis =>
      rw [Loggers.handlersFor, configured.bare, configured.propagate, if_pos rfl,
        inductionHypothesis]
      rfl

theorem effectiveLevel (configured : Configured levels component level loggers)
    (names : List String) : loggers.effectiveLevel names = threshold levels level names := by
  induction names with
  | nil => exact configured.level
  | cons name names inductionHypothesis =>
      rw [Loggers.effectiveLevel, configured.levels, inductionHypothesis]
      by_cases unset : levels name = 0
      · simp [threshold, unset]
      · simp [threshold, unset]

theorem fresh (configured : Configured levels component level loggers) :
    Fresh levels loggers where
  handlers := .inr ⟨_, configured.handlers⟩
  levels := configured.levels
  bare name _ := configured.bare name
  propagate name _ := configured.propagate name

/-- Step lemma: a record. -/
theorem log (configured : Configured levels component level loggers) (context : Context)
    (room : 0 < setting.interpreter.encodeDepth)
    (deeper : setting.interpreter.encodeDepth ≤ setting.interpreter.decodeDepth)
    (loggable : Loggable setting.interpreter record) :
    ∃ text : List Char, Printable text ∧
      JsonText.loads setting.interpreter (String.ofList text) =
        .ok (JsonFormatter.result { component := component } setting context record) ∧
      loggers.log setting context record =
        (.ok (),
          if threshold levels level (Loggers.ancestry record.name) ≤ record.levelno then
            { loggers with stdout := loggers.stdout ++ (text ++ ['\n']) }
          else loggers) := by
  obtain ⟨text, formatted, printable, decoded⟩ :=
    JsonFormatter.line { component := component } context room deeper loggable
  refine ⟨text, printable, decoded, ?_⟩
  simp only [Loggers.log, Loggers.enabled, configured.effectiveLevel, configured.handlersFor,
    Loggers.callHandlers, LogHandler.emit, formatted, String.toList_ofList]
  split <;> simp_all

/-- A write to the standard output changes nothing else. -/
theorem write (configured : Configured levels component level loggers) (text : List Char) :
    Configured levels component level { loggers with stdout := text } :=
  ⟨configured.handlers, configured.level, configured.levels, configured.bare,
    configured.propagate⟩

end Configured

/-- A line decodes to an object that says what the record does, and nothing else. -/
def Decodes (interpreter : Interpreter) (line : List Char) (entry : Logged) : Prop :=
  ∃ fields : List (String × Json),
    JsonText.loads interpreter (String.ofList line) = .ok (.obj fields) ∧
      (fields.map Prod.fst).Nodup ∧
      ∀ name, fields.lookup name = entry.record.says entry.component entry.context name

/-- Run lemma: what a process writes once it is configured. -/
theorem Configured.run (room : 0 < setting.interpreter.encodeDepth)
    (deeper : setting.interpreter.encodeDepth ≤ setting.interpreter.decodeDepth)
    {actions : List LogAction}
    (loggable : ∀ context record, .log context record ∈ actions →
      Loggable setting.interpreter record) :
    ∀ {component : String} {level : Nat} {loggers : Loggers},
      Configured levels component level loggers →
      ∃ written : List (List Char),
        (actions.foldl (LogAction.perform setting) loggers).stdout =
            loggers.stdout ++ written.flatMap (· ++ ['\n']) ∧
          (∀ line ∈ written, Printable line) ∧
          List.Forall₂ (Decodes setting.interpreter) written
            (logged levels component level actions) ∧
          ∃ component level, Configured levels component level
            (actions.foldl (LogAction.perform setting) loggers) := by
  induction actions with
  | nil =>
      intro component level loggers configured
      exact ⟨[], by simp, by simp, .nil, component, level, configured⟩
  | cons action actions inductionHypothesis =>
      intro component level loggers configured
      have others : ∀ context record, .log context record ∈ actions →
          Loggable setting.interpreter record := fun context record member =>
        loggable context record (List.mem_cons_of_mem _ member)
      cases action with
      | configure other name =>
          simp only [List.foldl_cons, LogAction.perform, logged]
          cases found : levelNumber name with
          | none =>
              have unchanged : (configureLogging other name loggers).2 = loggers := by
                simp [configureLogging, found]
              rw [unchanged]
              exact inductionHypothesis others configured
          | some number =>
              obtain ⟨written, stdout, rest⟩ :=
                inductionHypothesis others (configured.fresh.configure found)
              rw [configureLogging_stdout] at stdout
              exact ⟨written, stdout, rest⟩
      | log context record =>
          obtain ⟨text, printable, decoded, done⟩ :=
            configured.log context room deeper (loggable context record List.mem_cons_self)
          simp only [List.foldl_cons, LogAction.perform, logged, done]
          split
          · obtain ⟨written, stdout, lines, decodes, left⟩ :=
              inductionHypothesis others (configured.write (loggers.stdout ++ (text ++ ['\n'])))
            refine ⟨text :: written, ?_, ?_, .cons ⟨_, decoded, ?_, ?_⟩ decodes, left⟩
            · rw [stdout]
              simp
            · intro line member
              rcases List.mem_cons.mp member with rfl | later
              · exact printable
              · exact lines line later
            · exact JsonText.nodup_ofMembers
            · exact fun name => JsonFormatter.get_result
          · exact inductionHypothesis others configured

end Runs

/-! ## The log -/

/-- In a process in which nobody but Uvicorn has put handlers on loggers, from its first
`configure_logging` on: whatever is configured again and whatever loggable records are logged,
no call of a logger raises, and the standard output grows by printable lines of ASCII, one for
each record that is enabled and in their order.  Each decodes to an object with the time, the
level, the logger and the values of `FIELDS`; messages, arguments and exception texts are in
none. -/
theorem log_lines_decode (setting : FormatterSetting)
    (room : 0 < setting.interpreter.encodeDepth)
    (deeper : setting.interpreter.encodeDepth ≤ setting.interpreter.decodeDepth)
    (levels : String → Nat) (start : Loggers) (fresh : Fresh levels start)
    (component name : String) (level : Nat) (named : levelNumber name = some level)
    (actions : List LogAction)
    (loggable : ∀ context record, .log context record ∈ actions →
      Loggable setting.interpreter record) :
    (∃ text : List Char,
      (actions.foldl (LogAction.perform setting)
          (configureLogging component name start).2).stdout = start.stdout ++ text ∧
        (∀ line ∈ lines text, Printable line) ∧
        List.Forall₂ (Decodes setting.interpreter) (lines text)
          (logged levels component level actions)) ∧
      ∀ before context record after, actions = before ++ .log context record :: after →
        ((before.foldl (LogAction.perform setting)
            (configureLogging component name start).2).log setting context record).1 =
          .ok () := by
  have configured : Configured levels component level
      (configureLogging component name start).2 := fresh.configure named
  constructor
  · obtain ⟨written, stdout, printable, decodes, -⟩ := configured.run room deeper loggable
    rw [configureLogging_stdout] at stdout
    refine ⟨_, stdout, ?_⟩
    rw [lines_flatMap printable]
    exact ⟨printable, decodes⟩
  · intro before context record after performed
    subst performed
    have earlier : ∀ context record, .log context record ∈ before →
        Loggable setting.interpreter record := fun other entry member =>
      loggable other entry (List.mem_append_left _ member)
    obtain ⟨-, -, -, -, _, _, reached⟩ := configured.run room deeper earlier
    obtain ⟨_, -, -, done⟩ := reached.log context room deeper
      (loggable context record (by simp))
    rw [done]

/-! ## A worker's log -/

/-- An interpreter as it starts, and `FIELDS` in the order in which the source has it. -/
def plainSetting : FormatterSetting where
  interpreter := { encodeDepth := 200, decodeDepth := 200 }
  order := loggedFields
  perm := .refl _

/-- The loggers after Uvicorn has configured its own. -/
def uvicornStart : Loggers where
  root := {}
  named name :=
    if name = "uvicorn.access" then
      { handlers := [.plain fun _ => "GET /shipments".toList], level := 20, propagate := false }
    else {}

/-- A failure of SQLAlchemy, whose text and arguments hold a password. -/
def failedQuery : LogRecord where
  created := 0
  levelno := 40
  levelname := "ERROR"
  name := "sqlalchemy.engine"
  excInfo := some "OperationalError"
  dict :=
    [("msg", .json (.str "connection refused")), ("args", .object "('password',)"),
      ("attempt", .json (.int 2)), ("event_id", .object "7")]

/-- The failure is logged, the process is configured again, and an observation is not enabled
any more. -/
def workerActions : List LogAction :=
  [.log (fun _ => none) failedQuery, .configure "ingestion" "WARNING",
    .log (fun _ => none)
      (observe 1 "app.workers" "ingestion_ack" [("outcome", .str "returned")])]

theorem uvicornStart_fresh :
    Fresh (fun name => if name = "uvicorn.access" then 20 else 0) uvicornStart := by
  have others : ∀ name, name ∉ uvicornLoggers → uvicornStart.named name = {} := by
    intro name other
    refine if_neg fun same => other ?_
    rw [same]
    decide
  constructor
  · exact .inl rfl
  · intro name
    by_cases own : name = "uvicorn.access"
    · subst own
      rfl
    · rw [show uvicornStart.named name = {} from if_neg own, if_neg own]
  · intro name other
    rw [others name other]
  · intro name other
    rw [others name other]

theorem workerActions_loggable (context : Context) (record : LogRecord)
    (member : .log context record ∈ workerActions) :
    Loggable plainSetting.interpreter record := by
  have taken : plainSetting.interpreter.Takes 2 := by
    unfold Interpreter.Takes
    decide
  have cases : record = failedQuery ∨ record =
      observe 1 "app.workers" "ingestion_ack" [("outcome", .str "returned")] := by
    simp only [workerActions, List.mem_cons, LogAction.log.injEq, List.not_mem_nil, or_false,
      reduceCtorEq, false_or] at member
    exact member.imp And.right And.right
  refine loggable_of_mem ?_
  rcases cases with rfl | rfl
  · intro field given
    simp only [failedQuery, List.mem_cons, List.not_mem_nil, or_false] at given
    rcases given with rfl | rfl | rfl | rfl
    · exact text_taken _ _ _
    · exact text_taken _ _ _
    · exact int_taken taken _
    · exact text_taken _ _ _
  · intro field given
    have given : field ∈ [("operation", Attribute.json (.str "ingestion_ack")),
      ("outcome", .json (.str "returned"))] := given
    simp only [List.mem_cons, List.not_mem_nil, or_false] at given
    rcases given with rfl | rfl
    · exact text_taken _ _ _
    · exact text_taken _ _ _

theorem worker_log_decodes :
    ∃ text : List Char,
      (workerActions.foldl (LogAction.perform plainSetting)
          (configureLogging "api" "INFO" uvicornStart).2).stdout = text ∧
        (∀ line ∈ lines text, Printable line) ∧
        List.Forall₂ (Decodes plainSetting.interpreter) (lines text)
          [{ component := "api", context := fun _ => none, record := failedQuery }] := by
  obtain ⟨text, stdout, decoded⟩ := (log_lines_decode plainSetting (by decide) (by decide) _
    uvicornStart uvicornStart_fresh "api" "INFO" 20 rfl workerActions
    workerActions_loggable).1
  have due : logged (fun name => if name = "uvicorn.access" then 20 else 0) "api" 20
      workerActions =
        [{ component := "api", context := fun _ => none, record := failedQuery }] := by
    rfl
  rw [due] at decoded
  exact ⟨text, stdout, decoded⟩

end Freight
