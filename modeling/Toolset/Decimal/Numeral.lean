import Toolset.Decimal.Binary
import Toolset.Text.Blank
import Toolset.Text.Digit

/-!
# Reading numbers

A number is an optional sign, digits with an optional point among them, and an
optional exponent; the infinities and the number that is not a number have
names, in any case.  Three places read such numbers and differ in what they
allow around and between the digits: the command line takes the digits of every
script and single underscores between digits; a setting takes ASCII digits and
drops underscores that do not stand at an end or in pairs.
-/

namespace Toolset.Decimal

open Toolset.Text

/-- An ASCII digit. -/
def isAsciiDigit (c : Char) : Bool := '0' ≤ c && c ≤ '9'

/-- Split off an optional sign; `true` means minus. -/
def takeSign : List Char → Bool × List Char
  | '-' :: rest => (true, rest)
  | '+' :: rest => (false, rest)
  | rest => (false, rest)

/-- The value of an exponent, all of it: nothing, or `e` with a sign and at
least one digit. -/
def exponent? : List Char → Option Int
  | [] => some 0
  | c :: rest =>
      if c = 'e' ∨ c = 'E' then
        let (negative, digits) := takeSign rest
        if digits.isEmpty ∨ !digits.all isAsciiDigit then none
        else
          let value : Int := digitsValue digits
          some (if negative then -value else value)
      else none

/-- The fraction after the whole digits: the digits after the point, and the
rest. -/
def takeFraction : List Char → List Char × List Char
  | '.' :: rest => rest.span isAsciiDigit
  | rest => ([], rest)

/-- A name in small letters. -/
def isNamed (cs : List Char) (name : String) : Bool := cs.map Char.toLower == name.toList

/-- A number with an optional sign, and nothing around it. -/
def number? (cs : List Char) : Option Float :=
  let (negative, rest) := takeSign cs
  if isNamed rest "inf" || isNamed rest "infinity" then some (infinity negative)
  else if isNamed rest "nan" then some nan
  else
    let (whole, rest) := rest.span isAsciiDigit
    let (fraction, rest) := takeFraction rest
    if whole.isEmpty ∧ fraction.isEmpty then none
    else (exponent? rest).map fun e =>
      nearest negative (digitsValue (whole ++ fraction)) (e - fraction.length)

/-- White space of Unicode, without the information separators. -/
def isSpace (c : Char) : Bool := isBlank c && !(0x1C ≤ c.toNat && c.toNat ≤ 0x1F)

def trimSpace (cs : List Char) : List Char :=
  ((cs.dropWhile isSpace).reverse.dropWhile isSpace).reverse

/-- Two underscores in a row. -/
def hasPair : List Char → Bool
  | '_' :: '_' :: _ => true
  | _ :: rest => hasPair rest
  | [] => false

/-- A text without its underscores, if none stands at an end or beside
another. -/
def withoutUnderscores? (cs : List Char) : Option (List Char) :=
  if cs.head? == some '_' || cs.getLast? == some '_' || hasPair cs then none
  else some (cs.filter (· != '_'))

/-- A number given as a setting. White space around it is allowed, and so are
underscores, but not both. -/
def settingNumber? (s : String) : Option Float :=
  match number? (trimSpace s.toList) with
  | some x => some x
  | none => (withoutUnderscores? s.toList).bind number?

/-- Drop the underscores that stand between two digits, given the character
before; any other refuses the text. -/
def betweenDigits? : (before : Option Char) → List Char → Option (List Char)
  | _, [] => some []
  | before, '_' :: next :: rest =>
      if before.any isAsciiDigit && isAsciiDigit next then
        (betweenDigits? (some next) rest).map (next :: ·)
      else none
  | _, c :: rest => if c = '_' then none else (betweenDigits? (some c) rest).map (c :: ·)

/-- A number given by a person: white space around it, digits of every script,
and single underscores between digits. -/
def givenNumber? (s : String) : Option Float :=
  (betweenDigits? none (asciiDigits (trimSpace s.toList))).bind number?

end Toolset.Decimal
