import Toolset.Shell.Printing
import Toolset.Shell.State

/-!
# Tools for files

The tools that look at files and change them.  Each takes its words and leaves a
status, and a message about every path that stands in its way.
-/

namespace Toolset.Shell

/-- Put a message about a path on the stream for errors. -/
def complain (state : State) (streams : Streams) (tool message : String) : State :=
  (state.print streams.errors (tool ++ ": " ++ message ++ "\n")).done 1

/-- Do something for each of several paths; the status tells whether all went
well. -/
def forEach (state : State) (paths : List String) (act : State → String → State) : State :=
  paths.foldl (fun (state : State) path =>
    let before := state.status
    let state := act (state.done 0) path
    state.done (max before state.status)) (state.done 0)

/-- Split options with a single dash from the other words. -/
def options (words : List String) : List Char × List String :=
  let flags := words.takeWhile fun word => word.startsWith "-" && word != "-" && word != "--"
  let rest := words.drop flags.length
  (flags.flatMap fun flag => flag.toList.drop 1,
    if rest.head? == some "--" then rest.drop 1 else rest)

/-- Print files, or what is read if none is named. -/
def cat (state : State) (streams : Streams) (paths : List String) : State :=
  if paths.isEmpty then ({ state.write streams.output state.input with input := [] }).done 0
  else forEach state paths fun state path =>
    if path == "-" then { state.write streams.output state.input with input := [] }
    else
      match state.contentOf (state.resolve path) with
      | .ok content => state.print streams.output content
      | .error obstacle => complain state streams "cat" (path ++ ": " ++ obstacle.reason)

/-- Make directories. -/
def mkdir (state : State) (streams : Streams) (words : List String) : State :=
  let (flags, paths) := options words
  forEach state paths fun state path =>
    let full := state.resolve path
    let refuse := fun (reason : String) =>
      complain state streams "mkdir" ("cannot create directory '" ++ path ++ "': " ++ reason)
    if flags.contains 'p' then
      match state.change (.makeDirectory full) with
      | (state, none) => state
      | (_, some (.coded _ reason _)) => refuse reason
      | (_, some error) => refuse error.text
    else
      match state.tree.makeDirectory full with
      | .ok _ => (state.change (.makeDirectory full)).1
      | .error obstacle => refuse obstacle.reason

/-- Remove files, and directories if asked to. -/
def rm (state : State) (streams : Streams) (words : List String) : State :=
  let (flags, paths) := options words
  let force := flags.contains 'f'
  let recursive := flags.contains 'r' || flags.contains 'R'
  forEach state paths fun state path =>
    let full := state.resolve path
    let refuse := fun (reason : String) =>
      complain state streams "rm" ("cannot remove '" ++ path ++ "': " ++ reason)
    let last := (path.splitOn "/").getLast?.getD ""
    if recursive && (last == "." || last == "..") then
      complain state streams "rm"
        ("refusing to remove '.' or '..' directory: skipping '" ++ path ++ "'")
    else
      match state.tree.find false full with
      | .ok (.found _ (.directory _)) =>
          if recursive then (state.change (.remove full)).1 else refuse "Is a directory"
      | .ok (.found _ _) => (state.change (.remove full)).1
      | .ok (.free _) => if force then state else refuse Obstacle.missing.reason
      | .error obstacle =>
          if force && (obstacle == .missing || obstacle == .notDirectory) then state
          else refuse obstacle.reason

/-- Make files that are not there. -/
def touch (state : State) (streams : Streams) (paths : List String) : State :=
  forEach state paths fun state path =>
    match state.contentOf (state.resolve path) with
    | .ok _ => state
    | .error .isDirectory => state
    | .error _ =>
        match state.change (.write (state.resolve path) "" none) with
        | (state, none) => state
        | (_, some (.coded _ reason _)) =>
            complain state streams "touch" ("cannot touch '" ++ path ++ "': " ++ reason)
        | (_, some error) => complain state streams "touch" error.text

/-- Make a link. -/
def ln (state : State) (streams : Streams) (words : List String) : State :=
  match (options words).2 with
  | [target, path] =>
      match state.change (.makeLink (state.resolve path) target) with
      | (state, none) => state.done 0
      | (_, some error) => complain state streams "ln" error.text
  | _ => complain state streams "ln" "missing file operand"

def copy (state : State) (streams : Streams) (moves : Bool) (words : List String) : State :=
  let tool := if moves then "mv" else "cp"
  match (options words).2 with
  | [source, target] =>
      let full := state.resolve target
      let full := if state.tree.holdsDirectory full then
          full / Path.ofString (((state.resolve source).names.getLast?).getD "") else full
      match state.contentOf (state.resolve source) with
      | .error obstacle =>
          complain state streams tool ("cannot stat '" ++ source ++ "': " ++ obstacle.reason)
      | .ok content =>
          match state.change (.write full content none) with
          | (state, none) =>
              (if moves then (state.change (.remove (state.resolve source))).1 else state).done 0
          | (_, some (.coded _ reason _)) =>
              complain state streams tool
                ("cannot create regular file '" ++ target ++ "': " ++ reason)
          | (_, some error) => complain state streams tool error.text
  | _ => complain state streams tool "missing file operand"

/-- Change the mode of files. -/
def chmod (state : State) (streams : Streams) (words : List String) : State :=
  match words with
  | mode :: paths =>
      let bits := if mode == "+x" then 0o755 else (octal 4 mode.toList).1
      forEach state paths fun state path =>
        match state.change (.setMode (state.resolve path) bits) with
        | (state, none) => state
        | (_, some _) => complain state streams "chmod"
            ("cannot access '" ++ path ++ "': " ++ Obstacle.missing.reason)
  | [] => complain state streams "chmod" "missing operand"

/-- The names in a directory, in order, without those that start with a point. -/
def namesIn (tree : FileTree) (place : Location) : List String :=
  ((tree.entries.filterMap fun entry =>
    if entry.1 != [] && entry.1.dropLast == place then entry.1.getLast? else none).filter
      fun name => !name.startsWith ".").mergeSort fun a b => decide (a ≤ b)

/-- List directories. -/
def ls (state : State) (streams : Streams) (words : List String) : State :=
  let (_, paths) := options words
  forEach state (if paths.isEmpty then ["."] else paths) fun state path =>
    match state.tree.find true (state.resolve path) with
    | .ok (.found place (.directory _)) =>
        state.print streams.output (String.join ((namesIn state.tree place).map (· ++ "\n")))
    | .ok (.found _ _) => state.print streams.output (path ++ "\n")
    | _ => (complain state streams "ls"
        ("cannot access '" ++ path ++ "': " ++ Obstacle.missing.reason)).done 2

/-- The last name of a path, without an ending. -/
def basename (path ending : String) : String :=
  let names := Path.splitNames path.toList
  let name := names.getLast?.getD "/"
  if ending != "" && name != ending && name.endsWith ending then
    String.ofList (name.toList.take (name.length - ending.length))
  else name

/-- The directory part of a path. -/
def dirname (path : String) : String := (Path.ofString path).parent.toString

end Toolset.Shell
