import Toolset.Value

/-!
# Log records

What a run does is logged as records: a level, the logger that speaks, a
message, and fields by name.  Records below a threshold are not made at all.  A
field may not take the name of an attribute that every record has; a call that
tries is refused.
-/

namespace Toolset.Log

/-- How much a record matters. -/
inductive Level where
  | debug
  | info
  | warning
  | error
  | critical
  deriving DecidableEq, Repr, Inhabited

namespace Level

/-- The place of a level in their order. -/
def rank : Level → Nat
  | .debug => 10
  | .info => 20
  | .warning => 30
  | .error => 40
  | .critical => 50

def name : Level → String
  | .debug => "DEBUG"
  | .info => "INFO"
  | .warning => "WARNING"
  | .error => "ERROR"
  | .critical => "CRITICAL"

/-- The name of a level in a rendered record. -/
def word : Level → String
  | .debug => "debug"
  | .info => "info"
  | .warning => "warning"
  | .error => "error"
  | .critical => "critical"

/-- The levels that a setting may ask for. -/
def offered : List Level := [.debug, .info, .warning, .error]

def ofName? (name : String) : Option Level := offered.find? (·.name == name)

end Level

/-- The least rank of a record that is made. -/
abbrev Threshold := Nat

/-- Every name under which a threshold can be given. -/
def thresholds : List (String × Threshold) :=
  [("CRITICAL", 50), ("FATAL", 50), ("ERROR", 40), ("WARN", 30), ("WARNING", 30), ("INFO", 20),
   ("DEBUG", 10), ("NOTSET", 0)]

/-- Whether records of a level are made. -/
def Level.passes (level : Level) (threshold : Threshold) : Bool := threshold ≤ level.rank

/-- An error that a record tells of: its kind and its text. -/
structure Trouble where
  kind : String
  text : String
  deriving DecidableEq, Repr

/-- A record in a log. -/
structure Record where
  level : Level
  logger : String
  message : String
  fields : List Field := []
  trouble : Option Trouble := none
  deriving BEq

def attributes : List String :=
  ["name", "msg", "args", "levelname", "levelno", "pathname", "filename", "module", "exc_info",
   "exc_text", "stack_info", "lineno", "funcName", "created", "msecs", "relativeCreated", "thread",
   "threadName", "processName", "process", "message", "asctime"]

/-- The first field that takes the name of an attribute. -/
def clash? (fields : List Field) : Option String :=
  (fields.map (·.1)).find? attributes.contains

/-- The error of a call whose field takes the name of an attribute. -/
def clashTrouble (name : String) : Trouble where
  kind := "KeyError"
  text := Text.quoted ("Attempt to overwrite " ++ Text.quoted name ++ " in LogRecord")

end Toolset.Log
