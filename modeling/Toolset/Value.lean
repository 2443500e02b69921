import Toolset.Decimal.Literal
import Toolset.Text.Quoted

/-!
# Values of no fixed type

Details of an event, fields of a log record and settings that have not been
checked yet are values whose type is known only when they arrive.  A value is
shown in two ways: displayed, a text is just itself; spelled, it stands between
quotes.  Inside a list or a record everything is spelled.
-/

namespace Toolset

/-- A value whose type is known only when it arrives. -/
inductive Value where
  | null
  | flag (b : Bool)
  | whole (n : Int)
  | real (x : Float)
  | text (s : String)
  | list (items : List Value)
  | record (fields : List (String × Value))
  deriving BEq, Inhabited

/-- A value by its name. -/
abbrev Field := String × Value

namespace Value

mutual

def spell : Value → String
  | .null => "None"
  | .flag true => "True"
  | .flag false => "False"
  | .whole n => toString n
  | .real x => Decimal.literal x
  | .text s => Text.quoted s
  | .list items => "[" ++ ", ".intercalate (spellItems items) ++ "]"
  | .record fields => "\x7b" ++ ", ".intercalate (spellFields fields) ++ "\x7d"

def spellItems : List Value → List String
  | [] => []
  | item :: rest => item.spell :: spellItems rest

def spellFields : List (String × Value) → List String
  | [] => []
  | (name, value) :: rest => (Text.quoted name ++ ": " ++ value.spell) :: spellFields rest

end

def display : Value → String
  | .text s => s
  | value => value.spell

/-- Whether a value counts as true: zero and whatever is empty do not. -/
def truth : Value → Bool
  | .null => false
  | .flag b => b
  | .whole n => n != 0
  | .real x => x != 0
  | .text s => !s.isEmpty
  | .list items => !items.isEmpty
  | .record fields => !fields.isEmpty

def kindName : Value → String
  | .null => "NoneType"
  | .flag _ => "bool"
  | .whole _ => "int"
  | .real _ => "float"
  | .text _ => "str"
  | .list _ => "list"
  | .record _ => "dict"

def texts (items : List String) : Value := .list (items.map .text)

/-- A text, or nothing. -/
def optional : Option String → Value
  | none => .null
  | some s => .text s

end Value

def field? (fields : List Field) (name : String) : Option Value := fields.lookup name

/-- Give a name a value: in its place if the name is there, else at the end. -/
def setField (fields : List Field) (name : String) (value : Value) : List Field :=
  if fields.any (·.1 == name) then
    fields.map fun field => if field.1 == name then (name, value) else field
  else fields ++ [(name, value)]

def override (fields others : List Field) : List Field :=
  others.foldl (fun fields other => setField fields other.1 other.2) fields

/-- Remove a name. -/
def dropField (fields : List Field) (name : String) : List Field :=
  fields.filter (·.1 != name)

end Toolset
