import Toolset.Shell.Program

/-!
# Conditions

A condition is a row of words: about a text, a file, two texts or two numbers,
with signs that negate it or join it with another.
-/

namespace Toolset.Shell

def compares (operator : String) : Option (Int → Int → Bool) :=
  match operator with
  | "-eq" => some fun a b => a == b
  | "-ne" => some fun a b => a != b
  | "-lt" => some fun a b => a < b
  | "-le" => some fun a b => a ≤ b
  | "-gt" => some fun a b => b < a
  | "-ge" => some fun a b => b ≤ a
  | _ => none

def testOne (state : State) (operator text : String) : Option Bool :=
  let path := state.resolve text
  let entry := fun (follow : Bool) (passes : Entry → Bool) =>
    match state.tree.find follow path with
    | .ok (.found _ entry) => !text.isEmpty && passes entry
    | _ => false
  let tool := (toolAt? path).isSome
  match operator with
  | "-z" => some text.isEmpty
  | "-n" => some (!text.isEmpty)
  | "-e" => some (tool || entry true fun _ => true)
  | "-d" => some (entry true FileTree.isDirectoryEntry)
  | "-f" => some (tool || entry true fun e => match e with | .file _ _ => true | _ => false)
  | "-s" => some (tool || entry true fun e => match e with | .file _ s => !s.isEmpty | _ => true)
  | "-r" => some (tool || entry true fun _ => true)
  | "-w" => some (tool || entry true fun _ => true)
  | "-x" => some (tool ||
      entry true fun e => match e with | .file mode _ => mode &&& 0o111 != 0 | _ => true)
  | "-h" => some (entry false fun e => match e with | .link _ => true | _ => false)
  | "-L" => some (entry false fun e => match e with | .link _ => true | _ => false)
  | "-t" => some false
  | "-p" => some false
  | _ => none

def test (state : State) : (fuel : Nat) → List String → Except String Bool
  | 0, _ => .error "too many arguments"
  | fuel + 1, words =>
      let number := fun (text : String) =>
        match text.toInt? with
        | some n => Except.ok n
        | none => .error ("Illegal number: " ++ text)
      match words with
      | [] => .ok false
      | [text] => .ok (!text.isEmpty)
      | ["!", text] => .ok text.isEmpty
      | [operator, text] =>
          match testOne state operator text with
          | some b => .ok b
          | none => .error (operator ++ ": unexpected operator")
      | [a, "=", b] => .ok (a == b)
      | [a, "!=", b] => .ok (a != b)
      | words =>
          match words.span (· != "-o") with
          | (first, _ :: second) => do
              return (← test state fuel first) || (← test state fuel second)
          | _ =>
              match words.span (· != "-a") with
              | (first, _ :: second) => do
                  return (← test state fuel first) && (← test state fuel second)
              | _ =>
                  match words with
                  | "!" :: rest => (test state fuel rest).map (!·)
                  | [a, operator, b] =>
                      match compares operator with
                      | some compare => do return compare (← number a) (← number b)
                      | none => .error (operator ++ ": unexpected operator")
                  | _ :: operator :: _ => .error (operator ++ ": unexpected operator")
                  | _ => .error "argument expected"

end Toolset.Shell
