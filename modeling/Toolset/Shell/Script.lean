/-!
# Scripts

A script is a list of commands of the POSIX shell.  Words are kept as the parts
that they are expanded from, and each part knows whether it stands in quotes.
A command knows the number of lines below it, which gives its own line.
-/

namespace Toolset.Shell

/-- How a stream is redirected. -/
inductive Direction where
  | read
  | write
  | append
  /-- To where another stream leads. -/
  | duplicate
  /-- From a document that stands in the script. -/
  | document
  deriving DecidableEq, Repr

mutual

/-- A part of a word. -/
inductive Part where
  | char (c : Char) (quoted : Bool)
  /-- Quotes with nothing between them. -/
  | nothing
  | parameter (name : String) (change : Modifier) (quoted : Bool)
  | arithmetic (text : List Char) (quoted : Bool)
  /-- The output of commands. -/
  | output (body : List Command) (quoted : Bool)

/-- What is done to the value of a parameter. -/
inductive Modifier where
  | none
  | length
  | trimFront (longest : Bool) (pattern : List Part)
  | trimBack (longest : Bool) (pattern : List Part)
  /-- Another word in place of no value, or also of an empty one. -/
  | default (emptyToo : Bool) (word : List Part)
  /-- Another word in place of a value. -/
  | alternative (emptyToo : Bool) (word : List Part)
  /-- Another word in place of no value, which becomes the value. -/
  | assign (emptyToo : Bool) (word : List Part)
  /-- A message in place of no value, which ends the script. -/
  | require (emptyToo : Bool) (message : List Part)

/-- A redirection of a stream. -/
inductive Redirection where
  | make (stream : Nat) (direction : Direction) (target : List Part)

/-- A command. -/
inductive Command where
  /-- Assignments, words and redirections; `below` is the number of lines below. -/
  | simple (assignments : List (String × List Part)) (words : List (List Part))
      (redirections : List Redirection) (below : Nat)
  | group (body : List Command) (redirections : List Redirection)
  | subshell (body : List Command) (redirections : List Redirection)
  | branch (test body otherwise : List Command)
  /-- A loop that goes on while its test succeeds, or fails. -/
  | loop (succeeds : Bool) (test body : List Command)
  /-- A loop over words, or over the arguments. -/
  | each (name : String) (words : Option (List (List Part))) (body : List Command)
  | choice (subject : List Part) (cases : List (List (List Part) × List Command))
  | pipeline (commands : List Command)
  | negation (command : Command)
  | both (first second : Command)
  | either (first second : Command)
  | background (command : Command)
  /-- The definition of a function. -/
  | function (name : String) (body : Command)

end

end Toolset.Shell
