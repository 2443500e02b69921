import Toolset.Log.Rendered

/-!
# Records on a console

A record is one line: the moment, the level and the message padded to their
columns, the logger, and the other fields in the order of their names.  A text
with a blank, a quote or an equals sign in it is quoted.  A stack and an error
that the record carries follow on lines of their own.
-/

namespace Toolset.Log.Console

def levelWidth : Nat := 9

def messageWidth : Nat := 30

/-- Fill a text up with spaces. -/
def pad (width : Nat) (s : String) : String :=
  s ++ String.ofList (List.replicate (width - s.length) ' ')

/-- A character for which a text is quoted. -/
def needsQuotes (c : Char) : Bool := [' ', '\t', '=', '\r', '\n', '"', '\''].contains c

def shown : Value → String
  | .text s => if s.toList.any needsQuotes then Text.quoted s else s
  | value => value.spell

def dropSpaces (s : String) : String :=
  String.ofList (s.toList.reverse.dropWhile (· == ' ')).reverse

def columns : List String := ["timestamp", "level", "event", "logger", "logger_name"]

/-- The names of what follows on lines of its own. -/
def attachments : List String := ["stack", "exception", "exc_info"]

/-- The text of a field that has a column of its own. -/
def column (fields : List Field) (name : String) : String :=
  ((field? fields name).map Value.display).getD ""

/-- The fields without a column, each by its name. -/
def others (fields : List Field) : List String :=
  let rest := fields.filter fun field => !(columns ++ attachments).contains field.1
  (rest.mergeSort fun a b => decide (a.1 ≤ b.1)).map fun field => field.1 ++ "=" ++ shown field.2

/-- The columns of a record. The moment gives way to a field of the record. -/
def head (moment : String) (fields : List Field) : List String :=
  [((field? fields "timestamp").map Value.display).getD moment,
   "[" ++ pad levelWidth (column fields "level") ++ "]",
   pad messageWidth (column fields "event"),
   "[" ++ column fields "logger" ++ "]"] ++
  (match field? fields "logger_name" with
    | some name => ["[" ++ name.display ++ "]"]
    | none => [])

/-- The field of a name, unless it is nothing. -/
def attached? (fields : List Field) (name : String) : Option Value :=
  match field? fields name with
  | some .null => none
  | other => other

/-- The line between a stack and an error. -/
def rule : String := "\n\n" ++ String.ofList (List.replicate 79 '=') ++ "\n"

/-- The stack and the error that follow a record. -/
def tail (fields : List Field) : String :=
  let error := attached? fields "exception"
  let hasError := error.isSome || (attached? fields "exc_info").any Value.truth
  (match attached? fields "stack" with
    | some stack => "\n" ++ stack.display ++ (if hasError then rule else "")
    | none => "") ++
  (match error with
    | some error => "\n" ++ error.display
    | none => "")

/-- A record as it is shown. -/
def line (moment : String) (fields : List Field) : String :=
  dropSpaces (" ".intercalate (head moment fields ++ others fields)) ++ tail fields ++ "\n"

end Toolset.Log.Console
