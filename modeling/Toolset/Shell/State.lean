import Toolset.FileTree
import Toolset.Shell.Pattern
import Toolset.Shell.Script
import Toolset.Text.Utf8

/-!
# The state of a script

A script that runs holds a tree of files and the changes it made to it, its
directory, variables and arguments, what it can read and what it wrote, and how
much time it took.  Where a stream leads is a target: one of the streams of the
process, a text that is caught, a file, or nowhere.
-/

namespace Toolset.Shell

/-- Where a stream leads. -/
inductive Target where
  | output
  | errors
  | caught
  | nowhere
  | file (path : Path)
  deriving DecidableEq, Repr

/-- Where the streams of a command lead. -/
structure Streams where
  output : Target := .output
  errors : Target := .errors

/-- The state of a script. -/
structure State where
  tree : FileTree
  /-- The changes made so far, the last first. -/
  changes : List Change := []
  directory : Path
  /-- The values of variables. -/
  values : List (String × String) := []
  /-- The variables that programs are given. -/
  exported : List String := []
  /-- The options that are set, each by its letter. -/
  options : List Char := []
  functions : List (String × Command) := []
  /-- What is run on a signal, or on number zero at the end. -/
  traps : List (Nat × String) := []
  /-- The name under which the script runs. -/
  name : String
  arguments : List String := []
  /-- The number of the process. -/
  pid : Nat := 4242
  /-- The number of loops around the command. -/
  loops : Nat := 0
  /-- Whether somebody looks at the status of the command. -/
  tested : Bool := false
  status : Nat := 0
  /-- An expansion failed, which ends the script. -/
  stopped : Bool := false
  /-- Where the streams lead from the last command on, if it changed that. -/
  led : Option Streams := none
  /-- What is left to read. -/
  input : List UInt8 := []
  output : List UInt8 := []
  errors : List UInt8 := []
  caught : List UInt8 := []
  /-- The seconds that passed. -/
  elapsed : Float := 0
  /-- When the last background command ends, and its status. -/
  background : Float × Nat := (0, 0)
  /-- Until when background commands keep the streams of the process open. -/
  held : Float := 0
  /-- The seconds after which nobody waits any longer. -/
  patience : Option Float := none
  /-- The number of lines of the script. -/
  lines : Nat := 1

/-- How a script goes on after a command. -/
inductive Flow where
  | next
  | leaves
  | returns
  | breaks (loops : Nat)
  | continues (loops : Nat)
  | killed (signal : Nat)
  | stalled
  deriving DecidableEq, Repr

namespace State

def change (state : State) (change : Change) : State × Option SystemError :=
  match state.tree.apply change with
  | (tree, none) => ({ state with tree, changes := change :: state.changes }, none)
  | (_, some error) => (state, some error)

/-- The text of the file at a path. -/
def contentOf (state : State) (path : Path) : Except Obstacle String :=
  match state.tree.find true path with
  | .ok (.found _ (.file _ content)) => .ok content
  | .ok (.found _ _) => .error .isDirectory
  | .ok (.free _) => .error .missing
  | .error obstacle => .error obstacle

def write (state : State) (target : Target) (bytes : List UInt8) : State :=
  match target with
  | .output => { state with output := state.output ++ bytes }
  | .errors => { state with errors := state.errors ++ bytes }
  | .caught => { state with caught := state.caught ++ bytes }
  | .nowhere => state
  | .file path =>
      let before := match state.contentOf path with
        | .ok content => content
        | .error _ => ""
      (state.change (.write path (before ++ Text.decodeText bytes) none)).1

/-- Write a text to a target. -/
def print (state : State) (target : Target) (text : String) : State :=
  state.write target (Text.encodeText text)

/-- End a command with a status. -/
def done (state : State) (status : Nat) : State := { state with status }

/-- A path as the script sees it. -/
def resolve (state : State) (text : String) : Path := state.directory / Path.ofString text

/-- The value of a variable. -/
def valueOf? (state : State) (name : String) : Option String := state.values.lookup name

/-- Give a variable a value. -/
def assign (state : State) (name value : String) : State :=
  { state with values := (name, value) :: state.values.filter (·.1 != name) }

/-- Give a variable to programs too. -/
def exportName (state : State) (name : String) : State :=
  { state with exported := name :: state.exported }

def parameter? (state : State) (name : String) : Option String :=
  match name with
  | "0" => some state.name
  | "#" => some (toString state.arguments.length)
  | "?" => some (toString state.status)
  | "$" => some (toString state.pid)
  | "!" => some (toString (state.pid + 1))
  | "-" => some (String.ofList state.options)
  | "@" => some (" ".intercalate state.arguments)
  | "*" => some (" ".intercalate state.arguments)
  | name =>
      match name.toNat? with
      | some n => state.arguments[n - 1]?
      | none => state.valueOf? name

/-- The start of a message of the shell about a command. -/
def messageStart (state : State) (below : Nat) : String :=
  state.name ++ ": " ++ toString (state.lines - below) ++ ": "

/-- Put a message of the shell about a command on the stream for errors. -/
def report (state : State) (streams : Streams) (below : Nat) (message : String) (status : Nat) :
    State :=
  (state.print streams.errors (state.messageStart below ++ message ++ "\n")).done status

/-- Let time pass. Whether somebody still waits is told by the flow. -/
def wait (state : State) (seconds : Float) : State × Flow :=
  let state := { state with elapsed := state.elapsed + seconds }
  if state.patience.any (· < state.elapsed) then (state, .stalled) else (state, .next)

/-- Let time pass up to a moment. -/
def waitUntil (state : State) (moment : Float) : State × Flow :=
  if state.elapsed < moment then state.wait (moment - state.elapsed) else (state, .next)

/-- The state in which a part of a script starts that runs on its own. -/
def apart (state : State) : State :=
  { state with traps := state.traps.filter (·.2.isEmpty), loops := 0 }

/-- The state in which a program starts. -/
def asProgram (state : State) : State :=
  { state.apart with
    values := state.values.filter fun v => state.exported.contains v.1
    options := [], functions := [], pid := state.pid + 1, tested := false, status := 0 }

/-- What a script keeps of a part of it that ran on its own. -/
def rejoin (before after : State) : State :=
  { before with
    tree := after.tree, changes := after.changes, status := after.status, input := after.input,
    output := after.output, errors := after.errors, caught := after.caught,
    elapsed := after.elapsed, held := after.held }

end State

namespace Flow

/-- How a script goes on after a part of it that ran on its own. -/
def rejoin : Flow → Flow
  | .killed signal => .killed signal
  | .stalled => .stalled
  | _ => .next

def afterFunction : Flow → Flow
  | .returns => .next
  | flow => flow

/-- How a loop goes on after its body: `none` lets it go on. -/
def afterBody : Flow → Option Flow
  | .next => none
  | .breaks loops => some (if loops ≤ 1 then .next else .breaks (loops - 1))
  | .continues loops => if loops ≤ 1 then none else some (.continues (loops - 1))
  | flow => some flow

end Flow

end Toolset.Shell
