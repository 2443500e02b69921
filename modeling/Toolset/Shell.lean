import Toolset.Environment
import Toolset.Shell.Run
import Toolset.World

/-!
# A machine of scripts

On this machine every program is a script or one of the common tools, so that
what a run does can be computed.  A program is looked for at its path, or under
its name in the directories of the environment; a file is run if its mode allows
it and its first line names the shell.
-/

namespace Toolset.Shell

/-- What programs on the machine are given. -/
structure Machine where
  environment : Environment := []
  /-- The directory of a program that is given none. -/
  directory : Path := ⟨.root, []⟩
  /-- The seconds after which nobody waits for a program any longer. -/
  patience : Option Float := none

namespace Machine

def start (machine : Machine) (tree : FileTree) (directory : Path) : State where
  tree := tree
  directory := directory
  values := machine.environment.reverse
  exported := machine.environment.map (·.1)
  name := "sh"
  patience := machine.patience

/-- What a process does, by the state in which a program ended. The streams stay
open as long as a background command holds them. -/
def process (state : State) (flow : Flow) : Process :=
  let (after, waited) := state.waitUntil state.held
  let (state, flow) : State × Flow := match flow with
    | .stalled => (state, .stalled)
    | .killed signal => (after, if waited = .next then .killed signal else waited)
    | _ => (after, waited)
  { changes := state.changes.reverse
    code := match flow with
      | .killed signal => some (-(signal : Int))
      | .stalled => none
      | _ => some state.status
    output := some ⟨state.output, if flow = .stalled then some (.breaks .timedOut) else none⟩
    errors := some ⟨state.errors, none⟩ }

def runTool (state : State) (name : String) (arguments : List String) : State × Flow :=
  match name with
  | "sh" => runShell fuel {} state arguments
  | "dash" => runShell fuel {} state arguments
  | "echo" => ((state.print .output (" ".intercalate arguments ++ "\n")).done 0, .next)
  | name => Shell.runTool name arguments {} 0 state

def refuse (obstacle : Obstacle) (name : String) : Behaviour :=
  .refused (.failed (obstacle.error name))

/-- What stands in the way of working in a directory. -/
def directoryObstacle? (tree : FileTree) (directory : Path) : Option Obstacle :=
  match tree.find true directory with
  | .ok (.found _ (.directory _)) => none
  | .ok (.found _ _) => some .notDirectory
  | .ok (.free _) => some .missing
  | .error obstacle => some obstacle

def runNamed (state : State) (name : String) (arguments : List String) : Behaviour :=
  match state.program name with
  | .tool tool =>
      let (state, flow) := runTool state tool arguments
      .runs (process state flow)
  | .script path text =>
      match interpreter text with
      | .shell options =>
          let (state, flow) := runShell fuel {} state (options ++ path :: arguments)
          .runs (process state flow)
      | .missing => refuse .missing name
      | .unnamed => .refused (.failed (.coded 8 "Exec format error" [Text.quoted name]))
  | .denied => refuse .denied name
  | .missing =>
      if name.toList.contains '/' then
        match state.tree.find true (state.resolve name) with
        | .error obstacle => refuse obstacle name
        | .ok _ => refuse .missing name
      else refuse .missing name

/-- A character that ends a text for the system stands in the command or in the
name of the directory. -/
def hasNull (start : Start) : Bool :=
  start.command.any (·.toList.contains '\x00') || start.directory.any FileTree.hasNull

/-- Nobody waits long enough for a program to do anything. -/
def isHasty (machine : Machine) : Bool :=
  machine.patience.any fun seconds => seconds.isNaN || decide (seconds < 0.0005)

/-- A process that is killed before it does anything. -/
def nipped : Process where
  output := some ⟨[], some .silence⟩
  errors := some ⟨[], some .silence⟩

/-- What comes of a start on the machine. -/
def program (machine : Machine) (start : Start) (tree : FileTree) : Behaviour :=
  if hasNull start then .nullCharacter
  else
    let directory := machine.directory / start.directory.getD machine.directory
    let obstacle? := if start.directory.isSome then directoryObstacle? tree directory else none
    match obstacle?, start.command with
    | some obstacle, _ => refuse obstacle (start.directory.getD machine.directory).toString
    | none, [] => refuse .missing ""
    | none, name :: arguments =>
        match runNamed (machine.start tree directory) name arguments with
        | .runs process => .runs (if machine.isHasty then nipped else process)
        | other => other

end Machine

end Toolset.Shell
