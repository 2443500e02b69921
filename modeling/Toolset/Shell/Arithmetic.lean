import Toolset.Text.Digit

/-!
# Arithmetic in scripts

Whole numbers are computed with the operators of the shell.  A name stands for
the number in its variable, and for zero if there is none.
-/

namespace Toolset.Shell.Arithmetic

open Toolset.Text

/-- A character of a name, after the first. -/
def isNameChar (c : Char) : Bool := c.isAlphanum || c == '_'

/-- A character that starts a name. -/
def isNameStart (c : Char) : Bool := c.isAlpha || c == '_'

/-- Skip blanks, and the signs that mark a parameter. -/
def skip (cs : List Char) : List Char :=
  cs.dropWhile fun c => c == ' ' || c == '\t' || c == '\n' || c == '$' || c == '{' || c == '}'

/-- The operators with two operands, those that bind weakest first. -/
def levels : List (List String) :=
  [["||"], ["&&"], ["==", "!="], ["<=", ">=", "<", ">"], ["+", "-"], ["*", "/", "%"]]

/-- A truth value as a number. -/
def ofBool (b : Bool) : Int := if b then 1 else 0

def apply (operator : String) (a b : Int) : Option Int :=
  match operator with
  | "||" => some (ofBool (a != 0 || b != 0))
  | "&&" => some (ofBool (a != 0 && b != 0))
  | "==" => some (ofBool (a == b))
  | "!=" => some (ofBool (a != b))
  | "<=" => some (ofBool (a ≤ b))
  | ">=" => some (ofBool (b ≤ a))
  | "<" => some (ofBool (a < b))
  | ">" => some (ofBool (b < a))
  | "+" => some (a + b)
  | "-" => some (a - b)
  | "*" => some (a * b)
  | "/" => if b = 0 then none else some (a.tdiv b)
  | "%" => if b = 0 then none else some (a.tmod b)
  | _ => none

mutual

/-- An expression whose operators are among the given levels. -/
def binary (value : String → Int) : (fuel : Nat) → List (List String) → List Char →
    Option (Int × List Char)
  | 0, _, _ => none
  | fuel + 1, [], cs => unary value fuel (skip cs)
  | fuel + 1, operators :: higher, cs => do
      let (first, rest) ← binary value fuel higher cs
      more value fuel operators higher first rest

/-- The operators of one level after the first operand. -/
def more (value : String → Int) : (fuel : Nat) → List String → List (List String) → Int →
    List Char → Option (Int × List Char)
  | 0, _, _, _, _ => none
  | fuel + 1, operators, higher, first, cs =>
      let cs := skip cs
      match operators.find? fun operator => operator.toList.isPrefixOf cs with
      | none => some (first, cs)
      | some operator => do
          let (second, rest) ← binary value fuel higher (cs.drop operator.length)
          let result ← apply operator first second
          more value fuel operators higher result rest

/-- A number, a name, an expression in parentheses, or one with a sign. -/
def unary (value : String → Int) : (fuel : Nat) → List Char → Option (Int × List Char)
  | 0, _ => none
  | fuel + 1, cs =>
      match cs with
      | '-' :: rest => (unary value fuel (skip rest)).map fun (n, rest) => (-n, rest)
      | '+' :: rest => unary value fuel (skip rest)
      | '!' :: rest => (unary value fuel (skip rest)).map fun (n, rest) => (ofBool (n == 0), rest)
      | '(' :: rest => do
          let (n, rest) ← binary value fuel levels rest
          match skip rest with
          | ')' :: rest => return (n, rest)
          | _ => none
      | c :: _ =>
          if c.isDigit then
            let (digits, rest) := cs.span Char.isDigit
            some (digitsValue digits, rest)
          else if isNameStart c then
            let (name, rest) := cs.span isNameChar
            some (value (String.ofList name), rest)
          else none
      | [] => none

end

/-- The value of an expression. -/
def evaluate (value : String → Int) (cs : List Char) : Option Int :=
  match binary value (8 * (cs.length + 2)) levels cs with
  | some (n, rest) => if (skip rest).isEmpty then some n else none
  | none => none

end Toolset.Shell.Arithmetic
