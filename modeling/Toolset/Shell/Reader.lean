import Toolset.Shell.Arithmetic
import Toolset.Shell.Script

/-!
# Reading scripts

A text is read as a script of the POSIX shell: words with quotes and expansions,
simple commands with assignments and redirections, lists, pipelines, and the
compound commands.  What cannot be read is no script.
-/

namespace Toolset.Shell.Reader

open Toolset.Shell.Arithmetic

def endsWord (c : Char) : Bool :=
  [' ', '\t', '\n', ';', '&', '|', '<', '>', '(', ')'].contains c

def skipBlanks : List Char → List Char
  | ' ' :: rest => skipBlanks rest
  | '\t' :: rest => skipBlanks rest
  | '\\' :: '\n' :: rest => skipBlanks rest
  | '#' :: rest => rest.dropWhile (· != '\n')
  | cs => cs

def skipLines : (fuel : Nat) → List Char → List Char
  | 0, cs => cs
  | fuel + 1, cs =>
      match skipBlanks cs with
      | '\n' :: rest => skipLines fuel rest
      | cs => cs

/-- The text up to the closing of an arithmetic expression. -/
def arithmeticText : (depth : Nat) → List Char → Option (List Char × List Char)
  | _, [] => none
  | 0, ')' :: ')' :: rest => some ([], rest)
  | depth, c :: rest =>
      let depth := if c = '(' then depth + 1 else if c = ')' then depth - 1 else depth
      (arithmeticText depth rest).map fun (text, rest) => (c :: text, rest)

def backquoted : List Char → Option (List Char × List Char)
  | [] => none
  | '\x60' :: rest => some ([], rest)
  | '\\' :: c :: rest =>
      (backquoted rest).map fun (text, rest) =>
        (if c = '\x60' ∨ c = '\\' ∨ c = '$' then c :: text else '\\' :: c :: text, rest)
  | c :: rest => (backquoted rest).map fun (text, rest) => (c :: text, rest)

/-- The name of a parameter: a name, a digit, or a sign. -/
def parameterName : List Char → Option (String × List Char)
  | c :: rest =>
      if isNameStart c then
        let (name, rest) := (c :: rest).span isNameChar
        some (String.ofList name, rest)
      else if c.isDigit ∨ ['@', '*', '#', '?', '$', '!', '-'].contains c then
        some (String.singleton c, rest)
      else none
  | [] => none

/-- The words that have a meaning of their own where a command starts. -/
def reserved : List String :=
  ["then", "else", "elif", "fi", "do", "done", "esac", "\x7d"]

def bareWord (cs : List Char) : String :=
  String.ofList (cs.takeWhile fun c => !endsWord c)

def takeWord (word : String) (cs : List Char) : Option (List Char) :=
  let cs := skipBlanks cs
  if bareWord cs == word then some (cs.drop word.length) else none

def opening : List String := ["\x7b", "if", "while", "until", "for", "case"]

/-- The name of a function that is defined, and the rest. -/
def functionName? (cs : List Char) : Option (String × List Char) :=
  match parameterName cs with
  | some (name, rest) =>
      match skipBlanks rest with
      | '(' :: rest =>
          match skipBlanks rest with
          | ')' :: rest => some (name, rest)
          | _ => none
      | _ => none
  | none => none

def linesBelow (cs : List Char) : Nat := cs.count '\n'

/-- A name and an equals sign, and the rest. -/
def assignedName? (cs : List Char) : Option (String × List Char) :=
  match parameterName cs with
  | some (name, '=' :: rest) =>
      if (name.toList.head?.map isNameStart).getD false then some (name, rest) else none
  | _ => none

/-- Where the parts of a word are read. -/
inductive Surroundings where
  | bare
  /-- In braces. -/
  | braces
  /-- In quotation marks. -/
  | marks
  /-- In a document, where quotation marks stand for themselves. -/
  | document
  deriving DecidableEq

/-- Most characters stand for themselves. -/
def Surroundings.quoted (surroundings : Surroundings) : Bool :=
  surroundings == .marks || surroundings == .document

/-- A character that a backslash between quotes takes its meaning from. -/
def Surroundings.escapes (surroundings : Surroundings) (c : Char) : Bool :=
  ['\\', '$', '\x60'].contains c || surroundings == .marks && c == '"'

/-- The lines of a document up to the line that ends it, and the rest. -/
def documentLines (dropTabs : Bool) (ending : List Char) :
    (fuel : Nat) → List Char → List Char × List Char
  | 0, cs => ([], cs)
  | _, [] => ([], [])
  | fuel + 1, cs =>
      let cs := if dropTabs then cs.dropWhile (· == '\t') else cs
      let (line, rest) := cs.span (· != '\n')
      if line = ending then ([], rest.drop 1)
      else
        let (lines, after) := documentLines dropTabs ending fuel (rest.drop 1)
        (line ++ '\n' :: lines, after)

def cutDocument (dropTabs : Bool) (ending : List Char) (cs : List Char) :
    List Char × List Char :=
  let (line, below) := cs.span (· != '\n')
  let (document, below) := documentLines dropTabs ending (below.length + 1) (below.drop 1)
  (document, if below.isEmpty then line else line ++ '\n' :: below)

/-- The stream and the direction of a redirection, and the rest. -/
def direction? (cs : List Char) : Option (Nat × Direction × List Char) :=
  let (digits, rest) := cs.span Char.isDigit
  let stream := fun (default : Nat) =>
    if digits.isEmpty then default else Text.digitsValue digits
  match rest with
  | '>' :: '>' :: rest => some (stream 1, .append, rest)
  | '>' :: '&' :: rest => some (stream 1, .duplicate, rest)
  | '>' :: '|' :: rest => some (stream 1, .write, rest)
  | '>' :: rest => some (stream 1, .write, rest)
  | '<' :: '<' :: rest => some (stream 0, .document, rest)
  | '<' :: rest => some (stream 0, .read, rest)
  | _ => none

mutual

/-- The parts of a word, and the rest. A mark or brace that closes is taken
too. -/
def parts : (fuel : Nat) → Surroundings → List Char → Option (List Part × List Char)
  | 0, _, _ => none
  | fuel + 1, surroundings, cs =>
      let quoted := surroundings.quoted
      let put := fun (part : Part) (rest : List Char) =>
        (parts fuel surroundings rest).map fun (others, rest) => (part :: others, rest)
      match cs with
      | [] =>
          if surroundings = .bare || surroundings = .document then some ([], []) else none
      | '\\' :: c :: rest =>
          if c = '\n' then parts fuel surroundings rest
          else if quoted && !surroundings.escapes c then
            (parts fuel surroundings (c :: rest)).map fun (others, rest) =>
              (.char '\\' true :: others, rest)
          else put (.char c true) rest
      | '$' :: rest =>
          match dollar fuel quoted rest with
          | some (part, rest) => put part rest
          | none => none
      | '\x60' :: rest => do
          let (text, rest) ← backquoted rest
          let (body, _) ← script fuel text
          put (.output body quoted) rest
      | c :: rest =>
          if surroundings = .marks && c = '"' then some ([], rest)
          else if quoted then put (.char c true) rest
          else if surroundings = .braces && c = '}' then some ([], rest)
          else if c = '\'' then
            let (text, rest) := rest.span (· != '\'')
            match rest with
            | [] => none
            | _ :: rest =>
                (parts fuel surroundings rest).map fun (others, rest) =>
                  (.nothing :: text.map (.char · true) ++ others, rest)
          else if c = '"' then do
            let (inside, rest) ← parts fuel .marks rest
            let (others, rest) ← parts fuel surroundings rest
            return (.nothing :: inside ++ others, rest)
          else if surroundings = .bare && endsWord c then some ([], c :: rest)
          else put (.char c false) rest

def dollar : (fuel : Nat) → (quoted : Bool) → List Char → Option (Part × List Char)
  | 0, _, _ => none
  | fuel + 1, quoted, cs =>
      match cs with
      | '(' :: '(' :: rest =>
          (arithmeticText 0 rest).map fun (text, rest) => (.arithmetic text quoted, rest)
      | '(' :: rest => do
          let (body, rest) ← script fuel rest
          match skipLines rest.length rest with
          | ')' :: rest => return (.output body quoted, rest)
          | _ => none
      | '{' :: '#' :: '}' :: rest => some (.parameter "#" .none quoted, rest)
      | '{' :: '#' :: rest =>
          match parameterName rest with
          | some (name, '}' :: rest) => some (.parameter name .length quoted, rest)
          | _ => none
      | '{' :: rest => do
          let (digits, others) := rest.span Char.isDigit
          let (name, rest) ←
            if digits.isEmpty then parameterName rest else some (String.ofList digits, others)
          let (change, rest) ← modifier fuel rest
          return (.parameter name change quoted, rest)
      | cs =>
          match parameterName cs with
          | some (name, rest) => some (.parameter name .none quoted, rest)
          | none => some (.char '$' quoted, cs)

/-- What is done to a parameter in braces, up to the closing one. -/
def modifier : (fuel : Nat) → List Char → Option (Modifier × List Char)
  | 0, _ => none
  | fuel + 1, cs =>
      let finish := fun (make : List Part → Modifier) (rest : List Char) =>
        (parts fuel .braces rest).map fun (word, rest) => (make word, rest)
      match cs with
      | '}' :: rest => some (.none, rest)
      | '#' :: '#' :: rest => finish (.trimFront true) rest
      | '#' :: rest => finish (.trimFront false) rest
      | '%' :: '%' :: rest => finish (.trimBack true) rest
      | '%' :: rest => finish (.trimBack false) rest
      | ':' :: '-' :: rest => finish (.default true) rest
      | '-' :: rest => finish (.default false) rest
      | ':' :: '+' :: rest => finish (.alternative true) rest
      | '+' :: rest => finish (.alternative false) rest
      | ':' :: '=' :: rest => finish (.assign true) rest
      | '=' :: rest => finish (.assign false) rest
      | ':' :: '?' :: rest => finish (.require true) rest
      | '?' :: rest => finish (.require false) rest
      | _ => none

/-- A list of commands up to what ends it, and the rest. -/
def script : (fuel : Nat) → List Char → Option (List Command × List Char)
  | 0, _ => none
  | fuel + 1, cs =>
      let cs := skipLines cs.length cs
      match cs with
      | [] => some ([], [])
      | ')' :: _ => some ([], cs)
      | ';' :: ';' :: _ => some ([], cs)
      | cs =>
          if reserved.contains (bareWord cs) then some ([], cs)
          else do
            let (first, rest) ← chain fuel cs
            match skipBlanks rest with
            | '&' :: rest =>
                let (others, rest) ← script fuel rest
                return (.background first :: others, rest)
            | ';' :: ';' :: rest => return ([first], ';' :: ';' :: rest)
            | ';' :: rest =>
                let (others, rest) ← script fuel rest
                return (first :: others, rest)
            | '\n' :: rest =>
                let (others, rest) ← script fuel rest
                return (first :: others, rest)
            | rest => return ([first], rest)

/-- Pipelines joined by their success or failure. -/
def chain : (fuel : Nat) → List Char → Option (Command × List Char)
  | 0, _ => none
  | fuel + 1, cs => do
      let (first, rest) ← pipeline fuel cs
      moreChain fuel first rest

/-- What joins further pipelines. -/
def moreChain : (fuel : Nat) → Command → List Char → Option (Command × List Char)
  | 0, _, _ => none
  | fuel + 1, first, cs =>
      match skipBlanks cs with
      | '&' :: '&' :: rest => do
          let (second, rest) ← pipeline fuel (skipLines rest.length rest)
          moreChain fuel (.both first second) rest
      | '|' :: '|' :: rest => do
          let (second, rest) ← pipeline fuel (skipLines rest.length rest)
          moreChain fuel (.either first second) rest
      | cs => some (first, cs)

/-- Commands that are fed one into the next. -/
def pipeline : (fuel : Nat) → List Char → Option (Command × List Char)
  | 0, _ => none
  | fuel + 1, cs =>
      match takeWord "!" cs with
      | some rest => (pipeline fuel rest).map fun (command, rest) => (.negation command, rest)
      | none => do
          let (first, rest) ← command fuel cs
          let (others, rest) ← morePipes fuel rest
          return (if others.isEmpty then first else .pipeline (first :: others), rest)

/-- What is fed further. -/
def morePipes : (fuel : Nat) → List Char → Option (List Command × List Char)
  | 0, _ => none
  | fuel + 1, cs =>
      match skipBlanks cs with
      | '|' :: '|' :: rest => some ([], '|' :: '|' :: rest)
      | '|' :: rest => do
          let (first, rest) ← command fuel (skipLines rest.length rest)
          let (others, rest) ← morePipes fuel rest
          return (first :: others, rest)
      | cs => some ([], cs)

def command : (fuel : Nat) → List Char → Option (Command × List Char)
  | 0, _ => none
  | fuel + 1, cs =>
      let cs := skipBlanks cs
      match cs with
      | '(' :: rest => do
          let (body, rest) ← script fuel rest
          match skipLines rest.length rest with
          | ')' :: rest =>
              let (redirections, rest) ← redirections fuel rest
              return (.subshell body redirections, rest)
          | _ => none
      | cs =>
          match compound fuel cs with
          | some (command, rest) => do
              let (redirections, rest) ← redirections fuel rest
              return (if redirections.isEmpty then command else .group [command] redirections, rest)
          | none =>
              if opening.contains (bareWord cs) then none
              else
                match functionName? cs with
                | some (name, rest) => do
                    let (body, rest) ← command fuel (skipLines rest.length rest)
                    return (.function name body, rest)
                | none => simple fuel [] [] [] cs

/-- A command of several, without its redirections. -/
def compound : (fuel : Nat) → List Char → Option (Command × List Char)
  | 0, _ => none
  | fuel + 1, cs =>
      match bareWord cs with
      | "\x7b" => do
          let (body, rest) ← script fuel (cs.drop 1)
          let rest ← takeWord "\x7d" rest
          return (.group body [], rest)
      | "if" => branches fuel (cs.drop 2)
      | "while" => loop fuel true (cs.drop 5)
      | "until" => loop fuel false (cs.drop 5)
      | "for" => do
          let (name, rest) ← parameterName (skipBlanks (cs.drop 3))
          let rest := skipLines rest.length rest
          let (words, rest) ← match takeWord "in" rest with
            | some rest => do
                let (words, rest) ← words fuel rest
                pure (some words, rest)
            | none => some (none, rest)
          let rest := match skipBlanks rest with
            | ';' :: rest => rest
            | rest => rest
          let (body, rest) ← doBody fuel rest
          return (.each name words body, rest)
      | "case" => do
          let (subject, rest) ← parts fuel .bare (skipBlanks (cs.drop 4))
          let rest ← takeWord "in" (skipLines rest.length rest)
          let (cases, rest) ← cases fuel rest
          return (.choice subject cases, rest)
      | _ => none

/-- The tests and bodies of a branching command after its first word. -/
def branches : (fuel : Nat) → List Char → Option (Command × List Char)
  | 0, _ => none
  | fuel + 1, cs => do
      let (test, rest) ← script fuel cs
      let rest ← takeWord "then" rest
      let (body, rest) ← script fuel rest
      let rest := skipBlanks rest
      match bareWord rest with
      | "elif" =>
          let (other, rest) ← branches fuel (rest.drop 4)
          return (.branch test body [other], rest)
      | "else" =>
          let (other, rest) ← script fuel (rest.drop 4)
          let rest ← takeWord "fi" rest
          return (.branch test body other, rest)
      | "fi" => return (.branch test body [], rest.drop 2)
      | _ => none

def loop : (fuel : Nat) → Bool → List Char → Option (Command × List Char)
  | 0, _, _ => none
  | fuel + 1, succeeds, cs => do
      let (test, rest) ← script fuel cs
      let (body, rest) ← doBody fuel rest
      return (.loop succeeds test body, rest)

def doBody : (fuel : Nat) → List Char → Option (List Command × List Char)
  | 0, _ => none
  | fuel + 1, cs => do
      let rest ← takeWord "do" (skipLines cs.length cs)
      let (body, rest) ← script fuel rest
      let rest ← takeWord "done" rest
      return (body, rest)

def words : (fuel : Nat) → List Char → Option (List (List Part) × List Char)
  | 0, _ => none
  | fuel + 1, cs =>
      match skipBlanks cs with
      | [] => some ([], [])
      | c :: rest =>
          if endsWord c then some ([], c :: rest)
          else do
            let (first, rest) ← parts fuel .bare (c :: rest)
            let (others, rest) ← words fuel rest
            return (first :: others, rest)

def cases : (fuel : Nat) → List Char →
    Option (List (List (List Part) × List Command) × List Char)
  | 0, _ => none
  | fuel + 1, cs =>
      let cs := skipLines cs.length cs
      match takeWord "esac" cs with
      | some rest => some ([], rest)
      | none => do
          let cs := match cs with
            | '(' :: rest => rest
            | cs => cs
          let (patterns, rest) ← patterns fuel cs
          let (body, rest) ← script fuel rest
          let rest := match skipLines rest.length rest with
            | ';' :: ';' :: rest => rest
            | rest => rest
          let (others, rest) ← cases fuel rest
          return ((patterns, body) :: others, rest)

/-- The patterns of one case, up to the parenthesis. -/
def patterns : (fuel : Nat) → List Char → Option (List (List Part) × List Char)
  | 0, _ => none
  | fuel + 1, cs => do
      let (first, rest) ← parts fuel .bare (skipBlanks cs)
      match skipBlanks rest with
      | '|' :: rest =>
          let (others, rest) ← patterns fuel rest
          return (first :: others, rest)
      | ')' :: rest => return ([first], rest)
      | _ => none

/-- The redirection whose stream and direction are given. -/
def redirection : (fuel : Nat) → Nat → Direction → List Char → Option (Redirection × List Char)
  | 0, _, _, _ => none
  | fuel + 1, stream, direction, cs => do
      let dropTabs := direction = .document && cs.head? == some '-'
      let cs := skipBlanks (if dropTabs then cs.drop 1 else cs)
      let (target, rest) ← parts fuel .bare cs
      if target.isEmpty then none
      else if direction = .document then
        let quoted := target.any fun part => match part with
          | .char _ quoted => quoted
          | _ => true
        let ending := target.filterMap fun part => match part with
          | .char c _ => some c
          | _ => none
        let (document, rest) := cutDocument dropTabs ending rest
        if quoted then
          return (.make stream direction (document.map (.char · true)), rest)
        else
          let (document, _) ← parts fuel .document document
          return (.make stream direction document, rest)
      else return (.make stream direction target, rest)

def redirections : (fuel : Nat) → List Char → Option (List Redirection × List Char)
  | 0, _ => none
  | fuel + 1, cs =>
      match direction? (skipBlanks cs) with
      | none => some ([], cs)
      | some (stream, direction, rest) => do
          let (first, rest) ← redirection fuel stream direction rest
          let (others, rest) ← redirections fuel rest
          return (first :: others, rest)

/-- A simple command after what is read of it, in reverse. -/
def simple : (fuel : Nat) → List (String × List Part) → List (List Part) → List Redirection →
    List Char → Option (Command × List Char)
  | 0, _, _, _, _ => none
  | fuel + 1, assignments, words, redirections, cs =>
      let finish := fun (rest : List Char) =>
        if assignments.isEmpty && words.isEmpty && redirections.isEmpty then none
        else some (Command.simple assignments.reverse words.reverse redirections.reverse
          (linesBelow rest), rest)
      let cs := skipBlanks cs
      match direction? cs with
      | some (stream, direction, rest) => do
          let (first, rest) ← redirection fuel stream direction rest
          simple fuel assignments words (first :: redirections) rest
      | none =>
          match cs with
          | [] => finish []
          | c :: _ =>
              if endsWord c then finish cs
              else
                match words.isEmpty, assignedName? cs with
                | true, some (name, rest) => do
                    let (value, rest) ← parts fuel .bare rest
                    simple fuel ((name, value) :: assignments) words redirections rest
                | _, _ => do
                    let (word, rest) ← parts fuel .bare cs
                    simple fuel assignments (word :: words) redirections rest

end

/-- Quotes are opened and not closed. -/
def leavesOpen : (fuel : Nat) → List Char → Bool
  | 0, _ => false
  | _, [] => false
  | fuel + 1, '\\' :: _ :: rest => leavesOpen fuel rest
  | fuel + 1, '\'' :: rest =>
      match rest.dropWhile (· != '\'') with
      | [] => true
      | _ :: rest => leavesOpen fuel rest
  | fuel + 1, '"' :: rest =>
      let rec close : List Char → List Char
        | [] => []
        | '\\' :: _ :: rest => close rest
        | '"' :: rest => '"' :: rest
        | _ :: rest => close rest
      match close rest with
      | [] => true
      | _ :: rest => leavesOpen fuel rest
  | fuel + 1, _ :: rest => leavesOpen fuel rest

/-- What is said of a text that is no script. -/
def complaint (text : String) : String :=
  if leavesOpen (text.length + 1) text.toList then "Syntax error: Unterminated quoted string"
  else "Syntax error: end of file unexpected"

def read? (text : String) : Option (List Command) :=
  let cs := text.toList
  match script (8 * (cs.length + 8)) cs with
  | some (commands, rest) => if (skipLines rest.length rest).isEmpty then some commands else none
  | none => none

end Toolset.Shell.Reader
