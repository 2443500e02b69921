import Toolset.Shell.Field
import Toolset.Shell.Signal

/-!
# Commands of the shell itself

The commands that change the state of the script: its directory, variables,
options and traps, and what is left to read.
-/

namespace Toolset.Shell

def upward (names : List String) : List String :=
  names.foldl (fun before name => if name == ".." then before.dropLast else before ++ [name]) []

def changeDirectory (state : State) (streams : Streams) (below : Nat) (words : List String) :
    State :=
  let text := words.head?.getD ((state.valueOf? "HOME").getD "")
  let path := state.resolve text
  let path : Path := { path with names := upward path.names }
  if state.tree.holdsDirectory path then ({ state with directory := path }).done 0
  else state.report streams below ("cd: can't cd to " ++ text) 2

/-- Give variables the values that words assign, for programs too if asked. -/
def assignWords (state : State) (exports : Bool) (words : List String) : State :=
  words.foldl (fun (state : State) word =>
    let (name, value) := word.toList.span (· != '=')
    let name := String.ofList name
    let state := if exports then state.exportName name else state
    match value with
    | _ :: value => state.assign name (String.ofList value)
    | [] => state) (state.done 0)

/-- The count that a word gives to a command about loops or arguments. -/
def countOf (words : List String) : Nat := (words.head?.bind String.toNat?).getD 1

/-- The status that a word gives to a command that ends something. -/
def statusOf (state : State) (words : List String) : Except String Nat :=
  match words.head? with
  | none => .ok state.status
  | some text =>
      match text.toNat? with
      | some n => .ok (n % 256)
      | none => .error ("Illegal number: " ++ text)

def setOptions (state : State) (word : String) : State :=
  match word.toList with
  | '-' :: letters => { state with options := letters ++ state.options }
  | '+' :: letters => { state with options := state.options.filter (!letters.contains ·) }
  | _ => state

/-- Set what is run on signals. -/
def setTraps (state : State) (words : List String) : State :=
  match words with
  | action :: signals =>
      let numbers := signals.filterMap signal?
      let others := state.traps.filter fun trap => !numbers.contains trap.1
      ({ state with
        traps := if action == "-" then others else numbers.map (·, action) ++ others }).done 0
  | [] => state.done 0

/-- Take a line of what can be read, and give its words to variables. -/
def readLine (state : State) (names : List String) : State :=
  let (line, rest) := state.input.span (· != 10)
  let status := if rest.isEmpty then 1 else 0
  let text := (Text.decodeText line).toList
  let trim := fun (cs : List Char) =>
    ((cs.dropWhile cutsField).reverse.dropWhile cutsField).reverse
  let rec give (state : State) (cs : List Char) : List String → State
    | [] => state
    | [name] => state.assign name (String.ofList (trim cs))
    | name :: names =>
        let (word, rest) := (cs.dropWhile cutsField).span (!cutsField ·)
        give (state.assign name (String.ofList word)) rest names
  (give { state with input := rest.drop 1 } text (names.filter (· != "-r"))).done status

/-- The commands that end the script if a stream cannot be redirected. -/
def endsWithoutStream : List String :=
  [":", ".", "break", "continue", "eval", "exec", "exit", "export", "readonly", "return", "set",
   "shift", "trap", "unset"]

end Toolset.Shell
