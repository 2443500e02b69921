import Toolset.Log
import Toolset.Text.Blank
import Toolset.Path

/-!
# Checking values

Specifications, settings and events arrive as values of no fixed type.  A check
turns a value into what it stands for, or says what is wrong with it and where.
The faults of all fields are collected, in the order of the fields.
-/

namespace Toolset

/-- A rule that a well-typed value can break. -/
inductive Rule where
  | sourceEmpty
  | cloneNameEmpty
  | cloneNameNotSingle
  | toolOutsideClone (tool : String)
  | rootRelative
  | installerEmpty
  | limitNotPositive
  | levelUnknown
  deriving DecidableEq, Repr

/-- What is said of a broken rule. -/
def Rule.message : Rule → String
  | .sourceEmpty => "source_url cannot be empty"
  | .cloneNameEmpty => "local_clone_name cannot be empty"
  | .cloneNameNotSingle => "local_clone_name must be a single directory name"
  | .toolOutsideClone tool => "sub-tool path must be relative to the clone: " ++ Text.quoted tool
  | .rootRelative => "workspace_root must be an absolute path"
  | .installerEmpty => "installer_command cannot be empty"
  | .limitNotPositive => "step_timeout_seconds must be positive"
  | .levelUnknown => "log_level must be DEBUG, INFO, WARNING or ERROR"

/-- What is wrong with the text or the number of a moment. -/
inductive MomentFault where
  | tooShort
  | badYear
  | badMonth
  | badDay
  | badSeparator
  | monthOutside
  | dayOutside
  | extraCharacters
  | tooEarly
  | tooLate
  | yearZero
  | notNumber
  deriving DecidableEq, Repr

/-- What is said of the text or the number of a moment. -/
def MomentFault.message : MomentFault → String
  | .tooShort => "input is too short"
  | .badYear => "invalid character in year"
  | .badMonth => "invalid character in month"
  | .badDay => "invalid character in day"
  | .badSeparator => "invalid date separator, expected \x60-\x60"
  | .monthOutside => "month value is outside expected range of 1-12"
  | .dayOutside => "day value is outside expected range"
  | .extraCharacters => "unexpected extra characters at the end of the input"
  | .tooEarly => "dates before 0000 are not supported as unix timestamps"
  | .tooLate => "dates after 9999 are not supported as unix timestamps"
  | .yearZero => "year 0 is out of range"
  | .notNumber => "NaN values not permitted"

/-- What is wrong with a value. -/
inductive Complaint where
  | missing
  | unknownName
  | fixedForGood
  | textExpected
  | textEmpty
  | tupleExpected
  | listExpected
  | recordExpected
  | pathExpected
  | numberExpected
  | numberUnreadable
  | flagExpected
  | flagUnreadable
  | eventKindUnknown
  | momentExpected
  | momentUnreadable (fault : MomentFault)
  | momentOutside (fault : MomentFault)
  | broken (rule : Rule)
  deriving DecidableEq, Repr

namespace Complaint

/-- A short name for the complaint. -/
def code : Complaint → String
  | .missing => "missing"
  | .unknownName => "extra_forbidden"
  | .fixedForGood => "frozen_instance"
  | .textExpected => "string_type"
  | .textEmpty => "string_too_short"
  | .tupleExpected => "tuple_type"
  | .listExpected => "list_type"
  | .recordExpected => "dict_type"
  | .pathExpected => "path_type"
  | .numberExpected => "float_type"
  | .numberUnreadable => "float_parsing"
  | .flagExpected => "bool_type"
  | .flagUnreadable => "bool_parsing"
  | .eventKindUnknown => "enum"
  | .momentExpected => "datetime_type"
  | .momentUnreadable _ => "datetime_from_date_parsing"
  | .momentOutside _ => "datetime_parsing"
  | .broken _ => "value_error"

/-- What is said of the value. -/
def message : Complaint → String
  | .missing => "Field required"
  | .unknownName => "Extra inputs are not permitted"
  | .fixedForGood => "Instance is frozen"
  | .textExpected => "Input should be a valid string"
  | .textEmpty => "String should have at least 1 character"
  | .tupleExpected => "Input should be a valid tuple"
  | .listExpected => "Input should be a valid list"
  | .recordExpected => "Input should be a valid dictionary"
  | .pathExpected => "Input is not a valid path for <class 'pathlib.Path'>"
  | .numberExpected => "Input should be a valid number"
  | .numberUnreadable => "Input should be a valid number, unable to parse string as a number"
  | .flagExpected => "Input should be a valid boolean"
  | .flagUnreadable => "Input should be a valid boolean, unable to interpret input"
  | .eventKindUnknown =>
      "Input should be 'step_started', 'step_completed', 'error', 'completion' or 'cleanup_warning'"
  | .momentExpected => "Input should be a valid datetime"
  | .momentUnreadable fault => "Input should be a valid datetime or date, " ++ fault.message
  | .momentOutside fault => "Input should be a valid datetime, " ++ fault.message
  | .broken rule => "Value error, " ++ rule.message

end Complaint

/-- A step from a value to a part of it. -/
inductive Place where
  | name (s : String)
  | index (n : Nat)
  deriving DecidableEq, Repr

/-- What is wrong, and where. -/
structure Fault where
  place : List Place
  complaint : Complaint
  deriving DecidableEq, Repr

/-- A value that passed its check, or all that is wrong with it. -/
abbrev Checked (α : Type) := Except (List Fault) α

namespace Checked

def reject {α : Type} (complaint : Complaint) : Checked α := .error [⟨[], complaint⟩]

/-- Say in which part of a value the faults are. -/
def within {α : Type} (place : Place) : Checked α → Checked α
  | .ok a => .ok a
  | .error faults => .error (faults.map fun fault => { fault with place := place :: fault.place })

/-- Apply one result to another and collect the faults of both. -/
def also {α β : Type} : Checked (α → β) → Checked α → Checked β
  | .ok f, .ok a => .ok (f a)
  | .error faults, .ok _ => .error faults
  | .ok _, .error faults => .error faults
  | .error faults, .error others => .error (faults ++ others)

/-- Collect the results of a list, with the faults of all of them. -/
def all {α : Type} : List (Checked α) → Checked (List α)
  | [] => .ok []
  | first :: rest => (also (.ok List.cons) first).also (all rest)

def items {α : Type} (check : Value → Checked α) (values : List Value) : Checked (List α) :=
  all (values.zipIdx.map fun (value, n) => within (.index n) (check value))

/-- Check the field of a name; a field that is not there has a default or is
missing. -/
def field {α : Type} (fields : List Field) (name : String) (default : Option α)
    (check : Value → Checked α) : Checked α :=
  within (.name name) <|
    match field? fields name, default with
    | some value, _ => check value
    | none, some a => .ok a
    | none, none => reject .missing

end Checked

/-- A text. -/
def checkText : Value → Checked String
  | .text s => .ok s
  | _ => Checked.reject .textExpected

/-- A text with at least one character. -/
def checkSomeText : Value → Checked String
  | .text s => if s.isEmpty then Checked.reject .textEmpty else .ok s
  | _ => Checked.reject .textExpected

/-- A text or nothing. -/
def checkOptionalText : Value → Checked (Option String)
  | .null => .ok none
  | .text s => .ok (some s)
  | _ => Checked.reject .textExpected

/-- A list of texts; `complaint` is what is said of anything else. -/
def checkTexts (complaint : Complaint) : Value → Checked (List String)
  | .list values => Checked.items checkText values
  | _ => Checked.reject complaint

/-- A path, written as a text. -/
def checkPath : Value → Checked Path
  | .text s => .ok (Path.ofString s)
  | _ => Checked.reject .pathExpected

/-- An absolute path. -/
def checkAbsolutePath (value : Value) : Checked Path := do
  let path ← checkPath value
  if path.isAbsolute then .ok path else Checked.reject (.broken .rootRelative)

/-- The source of a run: a text that is not blank, without the blanks around
it. -/
def sourceRule (s : String) : Checked String :=
  if Text.isBlankText s then Checked.reject (.broken .sourceEmpty) else .ok (Text.strip s)

end Toolset
