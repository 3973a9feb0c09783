/-
Module: Freight.Observability.Logging
Purpose: The log of a process: what a record is written as, the loggers that hand records to
  handlers, and the configuration that puts one JSON handler on the root logger.
Trusted boundary: none
Main exports:
  Attribute, LogRecord, loggedFields, JsonFormatter, JsonFormatter.result,
  JsonFormatter.format, LogHandler, Logger, Loggers, Loggers.log, configureLogging, observe
-/
import Freight.Observability.Context
import Freight.Text.JsonLines

namespace Freight

/-! ## Records -/

/-- What a record has under a name: a value that `json.dumps` knows, or an object of another
class, by its `str`. -/
inductive Attribute where
  | json (value : Json)
  | object (text : String)

/-- `default=str`. -/
def Attribute.encoded : Attribute → Json
  | .json value => value
  | .object text => .str text

/-- A record.  Its dictionary has its message, arguments and exception text as well as what
was handed over as `extra`; `created` is the moment in UTC. -/
structure LogRecord where
  created : Int
  levelno : Nat
  levelname : String
  name : String
  excInfo : Option String := none
  dict : List (String × Attribute) := []

/-- `FIELDS`. -/
def loggedFields : List String :=
  ["component", "operation", "outcome", "duration_seconds", "correlation_id", "event_id",
    "shipment_id", "message_id", "error_type", "method", "route", "status_code", "attempt"]

/-- `fields.get(name)`, where `fields` is the context with the record's dictionary on top. -/
def LogRecord.field (record : LogRecord) (context : Context) (name : String) : Option Json :=
  match record.dict.lookup name with
  | some value => some value.encoded
  | none => (context name).map Json.str

/-! ## The formatter -/

/-- `JsonFormatter`. -/
structure JsonFormatter where
  component : String := "unknown"
deriving DecidableEq, Repr

/-- What decides about a text apart from the record: the limits of the encoder, and the order
in which `FIELDS`, a set, is gone through in this process. -/
structure FormatterSetting where
  interpreter : Interpreter
  order : List String
  perm : order.Perm loggedFields

namespace JsonFormatter

variable (formatter : JsonFormatter) (setting : FormatterSetting) (context : Context)
  (record : LogRecord)

/-- The dictionary, one assignment after another. -/
def members : List (String × Json) :=
  [("timestamp", .str (DateTime.utc record.created).isoformat),
    ("level", .str record.levelname),
    ("logger", .str record.name),
    ("operation", .str "library_log"),
    ("component", .str formatter.component)] ++
  setting.order.filterMap (fun name => (record.field context name).map (Prod.mk name)) ++
  record.excInfo.toList.map (fun typeName => ("error_type", .str typeName))

/-- `result`. -/
def result : Json := .obj (JsonText.ofMembers (formatter.members setting context record))

/-- `JsonFormatter.format`. -/
def format : Except PyError String :=
  JsonText.dumpsInOrder setting.interpreter (formatter.result setting context record)

end JsonFormatter

/-! ## Handlers and loggers -/

/-- A handler on the standard output: the one that `configure_logging` has marked, or
another, by what it makes of a record. -/
inductive LogHandler where
  | json (formatter : JsonFormatter)
  | plain (text : LogRecord → List Char)

/-- `StreamHandler.emit`: only a `RecursionError` of the formatter goes on, whatever else it
raises goes to `handleError`. -/
def LogHandler.emit (setting : FormatterSetting) (context : Context) (record : LogRecord)
    (stdout : List Char) : LogHandler → Except PyError Unit × List Char
  | .json formatter =>
      match formatter.format setting context record with
      | .ok text => (.ok (), stdout ++ (text.toList ++ ['\n']))
      | .error error =>
          if error.typeName = "RecursionError" then (.error error, stdout)
          else (.ok (), stdout)
  | .plain text => (.ok (), stdout ++ (text record ++ ['\n']))

/-- A logger; level 0 is `NOTSET`. -/
structure Logger where
  handlers : List LogHandler := []
  level : Nat := 0
  propagate : Bool := true

/-- The loggers of a process, and what has been written to its standard output. -/
structure Loggers where
  root : Logger
  named : String → Logger := fun _ => {}
  stdout : List Char := []

namespace Loggers

/-- The names that the loop of `Manager._fixupParents` goes through, for a name from its end:
`name.rfind(".", 0, i - 1)` leaves out the character before the dot at `i`. -/
def parents : List Char → List String
  | '.' :: last :: rest => String.ofList (last :: rest).reverse :: parents rest
  | _ :: rest => parents rest
  | [] => []

/-- The name of a logger and the names above it, up to the root.  No logger that takes part has
a name that ends with a dot. -/
def ancestry (name : String) : List String :=
  if name = "" ∨ name = "root" then [] else name :: parents name.toList.reverse

/-- `Logger.getEffectiveLevel`. -/
def effectiveLevel (loggers : Loggers) : List String → Nat
  | [] => loggers.root.level
  | name :: above =>
      if (loggers.named name).level = 0 then loggers.effectiveLevel above
      else (loggers.named name).level

/-- The handlers that `Logger.callHandlers` goes through. -/
def handlersFor (loggers : Loggers) : List String → List LogHandler
  | [] => loggers.root.handlers
  | name :: above =>
      (loggers.named name).handlers ++
        if (loggers.named name).propagate then loggers.handlersFor above else []

/-- `Logger.callHandlers`. -/
def callHandlers (setting : FormatterSetting) (context : Context) (record : LogRecord) :
    List LogHandler → List Char → Except PyError Unit × List Char
  | [], stdout => (.ok (), stdout)
  | handler :: handlers, stdout =>
      match handler.emit setting context record stdout with
      | (.ok _, written) => callHandlers setting context record handlers written
      | (.error error, written) => (.error error, written)

/-- `Logger.isEnabledFor`. -/
def enabled (loggers : Loggers) (record : LogRecord) : Bool :=
  loggers.effectiveLevel (ancestry record.name) ≤ record.levelno

/-- `Logger.log`. -/
def log (setting : FormatterSetting) (context : Context) (record : LogRecord)
    (loggers : Loggers) : Except PyError Unit × Loggers :=
  if loggers.enabled record then
    let result := callHandlers setting context record
      (loggers.handlersFor (ancestry record.name)) loggers.stdout
    (result.1, { loggers with stdout := result.2 })
  else (.ok (), loggers)

end Loggers

/-! ## Configuration -/

/-- The levels that `LOG_LEVEL` may name. -/
def levelNumber : String → Option Nat
  | "DEBUG" => some 10
  | "INFO" => some 20
  | "WARNING" => some 30
  | "ERROR" => some 40
  | "CRITICAL" => some 50
  | _ => none

/-- The first marked handler is given a new formatter; where there is none, one is added. -/
def installHandler (formatter : JsonFormatter) : List LogHandler → List LogHandler
  | [] => [.json formatter]
  | .json _ :: handlers => .json formatter :: handlers
  | handler :: handlers => handler :: installHandler formatter handlers

/-- The loggers that Uvicorn configures. -/
def uvicornLoggers : List String := ["uvicorn", "uvicorn.error", "uvicorn.access"]

/-- `configure_logging`, with `LOG_LEVEL` in upper case. -/
def configureLogging (component level : String) (loggers : Loggers) :
    Except PyError Unit × Loggers :=
  match levelNumber level with
  | none => (.error (.value "Invalid LOG_LEVEL"), loggers)
  | some number =>
      (.ok (),
        { loggers with
          root :=
            { loggers.root with
              handlers := installHandler { component := component } loggers.root.handlers
              level := number }
          named := fun name =>
            if name ∈ uvicornLoggers then
              { loggers.named name with handlers := [], propagate := true }
            else loggers.named name })

/-! ## Observations -/

/-- Whether Python counts a value as true. -/
def Json.truthy : Json → Bool
  | .null => false
  | .bool value => value
  | .int value => value ≠ 0
  | .float (.finite _ mantissa _) => mantissa ≠ 0
  | .float _ => true
  | .str value => value ≠ ""
  | .arr items => !items.isEmpty
  | .obj fields => !fields.isEmpty

/-- `observe`: a record with the operation and the fields as `extra`, at the level that an
`error_type` asks for. -/
def observe (created : Int) (logger operation : String) (fields : List (String × Json)) :
    LogRecord :=
  let failed := ((fields.lookup "error_type").map Json.truthy).getD false
  { created := created
    levelno := if failed then 30 else 20
    levelname := if failed then "WARNING" else "INFO"
    name := logger
    dict :=
      (JsonText.ofMembers (("operation", .str operation) :: fields)).map fun field =>
        (field.1, .json field.2) }

end Freight
