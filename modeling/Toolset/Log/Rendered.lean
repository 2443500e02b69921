import Toolset.Log

/-!
# Rendered records

A record is rendered from one list of fields: its message, its logger and its
level stand in it under names of their own.  A record of the program itself keeps
these three; any other record gives way to its own fields.  Some names mean
something to the renderer and are never shown.
-/

namespace Toolset.Log

/-- The fields of the record itself. -/
def Record.core (record : Record) : List Field :=
  [("event", .text record.message), ("logger", .text record.logger),
   ("level", .text record.level.word)]

/-- The names under which the renderer keeps what it knows of a record. -/
def keptNames : List String := ["_record", "_from_structlog"]

/-- Fields that a record of the program itself drops: it has a moment of its own,
and a wish for no stack is granted. -/
def isMoot (field : Field) : Bool :=
  field.1 == "timestamp" || (field.1 == "stack_info" && !field.2.truth)

def Record.rendered (record : Record) (ownFieldsWin : Bool) : List Field :=
  let shown := record.fields.filter fun field => !keptNames.contains field.1
  if ownFieldsWin then override record.core shown
  else override (shown.filter fun field => !isMoot field) record.core

/-- The fields of a rendered record in JSON: an error that there is none of is
left out. -/
def jsonFields (fields : List Field) : List Field := dropField fields "exc_info"

/-- The parameters of the call that logs a record of the program itself, which no
field may be named after. -/
def parameters (level : Level) : List (String × String) :=
  [("self", level.word), ("event", level.word), ("method_name", "_proxy_to_logger")]

/-- The error of a call of the program itself with a field named after a
parameter. -/
def parameterTrouble? (level : Level) (fields : List Field) : Option Trouble :=
  ((parameters level).find? fun parameter => fields.any (·.1 == parameter.1)).map
    fun (name, call) => {
      kind := "TypeError"
      text := "BoundLogger." ++ call ++ "() got multiple values for argument " ++ Text.quoted name }

end Toolset.Log
