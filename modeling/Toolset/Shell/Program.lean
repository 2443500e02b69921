import Toolset.Shell.State

/-!
# Programs by name

A program is one of the tools that every machine has, or a script.  It is looked
for at its path, or under its name in the directories that are searched; the
first line of a script names what runs it.
-/

namespace Toolset.Shell

def toolDirectories : List (List String) := [["bin"], ["usr", "bin"]]

/-- The tools that are no part of the shell. -/
def toolNames : List String :=
  ["true", "false", "echo", "printf", "test", "[", "cat", "mkdir", "rm", "rmdir", "touch", "ln",
   "chmod", "ls", "cp", "mv", "basename", "dirname", "pwd", "kill", "sleep", "head", "tail", "seq",
   "tr", "wc", "yes", "sh", "dash"]

/-- A tool by its path. -/
def toolAt? (path : Path) : Option String :=
  match path.names.getLast? with
  | some name =>
      if toolDirectories.contains path.names.dropLast && toolNames.contains name then some name
      else none
  | none => none

def ownTools : List String := ["true", "false", "echo", "printf", "test", "[", "pwd", "kill"]

/-- What is found under the name of a program. -/
inductive Program where
  | tool (name : String)
  | script (path text : String)
  | denied
  | missing

/-- The program at a path. -/
def State.programAt (state : State) (path : String) : Program :=
  match state.tree.find true (state.resolve path) with
  | .ok (.found _ (.file mode text)) =>
      if mode &&& 0o111 = 0 then .denied else .script path text
  | .ok (.found _ _) => .denied
  | _ =>
      match toolAt? (state.resolve path) with
      | some tool => .tool tool
      | none => .missing

/-- The program of a name: at a path, or in the directories that are searched. -/
def State.program (state : State) (name : String) : Program :=
  if name.toList.contains '/' then state.programAt name
  else
    let directories := ((state.valueOf? "PATH").getD "/bin:/usr/bin").splitOn ":"
    let found := directories.map fun directory =>
      state.programAt (if directory.isEmpty then name else directory ++ "/" ++ name)
    let isThere := fun (program : Program) => match program with
      | .tool _ => true
      | .script _ _ => true
      | _ => false
    match found.find? isThere with
    | some program => program
    | none =>
        if found.any fun program => match program with | .denied => true | _ => false then .denied
        else .missing

/-- The program that a script names on its first line. -/
inductive Interpreter where
  | unnamed
  | shell (options : List String)
  | missing

/-- The words on the first line of a script that name a program. -/
def interpreter (text : String) : Interpreter :=
  match text.toList with
  | '#' :: '!' :: rest =>
      let line := String.ofList (rest.takeWhile (· != '\n'))
      let words := (line.splitOn " ").filter (!·.isEmpty)
      let shells := ["sh", "dash", "bash"]
      match words with
      | "/usr/bin/env" :: name :: options =>
          if shells.contains name then .shell options else .missing
      | path :: options =>
          let path := Path.ofString path
          if toolDirectories.contains path.names.dropLast &&
              shells.contains ((path.names.getLast?).getD "") then .shell options
          else .missing
      | [] => .missing
  | _ => .unnamed

end Toolset.Shell
