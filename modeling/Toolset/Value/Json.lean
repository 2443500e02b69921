import Toolset.Decimal.Numeral
import Toolset.Value

/-!
# Values as JSON

A list given as a setting is written in JSON.  The reader follows the standard
and also takes the names of the numbers that JSON has no form for; a control
character inside a string is refused, and so is anything after the value.  Log
records are written in JSON with everything above ASCII escaped.
-/

namespace Toolset.Value.Json

open Toolset.Text Toolset.Decimal

/-- White space between the parts of a value. -/
def isSpace (c : Char) : Bool := c == ' ' || c == '\t' || c == '\n' || c == '\r'

def skip (cs : List Char) : List Char := cs.dropWhile isSpace

def hexDigit? (c : Char) : Option Nat :=
  if '0' ≤ c ∧ c ≤ '9' then some (c.toNat - 0x30)
  else if 'a' ≤ c ∧ c ≤ 'f' then some (c.toNat - 0x57)
  else if 'A' ≤ c ∧ c ≤ 'F' then some (c.toNat - 0x37)
  else none

/-- Four hexadecimal digits, and the rest. -/
def unit? : List Char → Option (Nat × List Char)
  | a :: b :: c :: d :: rest => do
      let a ← hexDigit? a
      let b ← hexDigit? b
      let c ← hexDigit? c
      let d ← hexDigit? d
      return (a * 0x1000 + b * 0x100 + c * 0x10 + d, rest)
  | _ => none

/-- The characters of an escape by number, given the first sixteen-bit unit. Two
units that form a pair make one character; half a pair stays alone. -/
def escaped (first : Nat) (rest : List Char) : List Char × List Char :=
  if isFirstHalf first then
    match rest with
    | '\\' :: 'u' :: more =>
        match unit? more with
        | some (second, more) =>
            if isSecondHalf second then ([pair first second], more) else (half first, rest)
        | none => (half first, rest)
    | _ => (half first, rest)
  else if isSecondHalf first then (half first, rest)
  else ([Char.ofNat first], rest)

/-- The character after a backslash that is not `u`. -/
def simpleEscape? (c : Char) : Option Char :=
  match c with
  | '"' => some '"'
  | '\\' => some '\\'
  | '/' => some '/'
  | 'b' => some '\x08'
  | 'f' => some '\x0C'
  | 'n' => some '\n'
  | 'r' => some '\r'
  | 't' => some '\t'
  | _ => none

/-- A string after its opening quote, and the rest. -/
def string? : (fuel : Nat) → List Char → Option (List Char × List Char)
  | 0, _ => none
  | _, [] => none
  | fuel + 1, c :: rest =>
      if c = '"' then some ([], rest)
      else if c = '\\' then
        match rest with
        | 'u' :: digits => do
            let (first, rest) ← unit? digits
            let (spelled, rest) := escaped first rest
            let (cs, rest) ← string? fuel rest
            return (spelled ++ cs, rest)
        | name :: rest => do
            let c ← simpleEscape? name
            let (cs, rest) ← string? fuel rest
            return (c :: cs, rest)
        | [] => none
      else if c.toNat < 0x20 then none
      else do
        let (cs, rest) ← string? fuel rest
        return (c :: cs, rest)

def mostDigits : Nat := 4300

/-- The digits of an exponent, if the text goes on with one. -/
def takeExponent (cs : List Char) : Option (Int × List Char) :=
  match cs with
  | c :: rest =>
      if c = 'e' ∨ c = 'E' then
        let (negative, rest) := takeSign rest
        let (digits, rest) := rest.span isAsciiDigit
        if digits.isEmpty then none
        else
          let size : Int := digitsValue digits
          some (if negative then -size else size, rest)
      else none
  | [] => none

/-- The digits of a fraction, if the text goes on with one. -/
def takeFraction (cs : List Char) : Option (List Char × List Char) :=
  match cs with
  | '.' :: rest =>
      let (digits, rest) := rest.span isAsciiDigit
      if digits.isEmpty then none else some (digits, rest)
  | _ => none

/-- A number, and the rest. It is real if it has a fraction or an exponent. -/
def number? (cs : List Char) : Option (Value × List Char) :=
  let (negative, rest) := match cs with
    | '-' :: rest => (true, rest)
    | _ => (false, cs)
  let (integer, rest) := match rest with
    | '0' :: rest => (['0'], rest)
    | _ => rest.span isAsciiDigit
  if integer.isEmpty then none
  else
    match takeFraction rest with
    | some (fraction, rest) =>
        let (exponent, rest) := (takeExponent rest).getD (0, rest)
        let x := nearest negative (digitsValue (integer ++ fraction)) (exponent - fraction.length)
        some (.real x, rest)
    | none =>
        match takeExponent rest with
        | some (exponent, rest) =>
            some (.real (nearest negative (digitsValue integer) exponent), rest)
        | none =>
            if mostDigits < integer.length then none
            else
              let size : Int := digitsValue integer
              some (.whole (if negative then -size else size), rest)

def names : List (String × Value) :=
  [("null", .null), ("true", .flag true), ("false", .flag false), ("NaN", .real nan),
   ("Infinity", .real (infinity false)), ("-Infinity", .real (infinity true))]

def name? (cs : List Char) : Option (Value × List Char) :=
  names.findSome? fun (name, value) =>
    if name.toList.isPrefixOf cs then some (value, cs.drop name.length) else none

mutual

def value? : (fuel : Nat) → List Char → Option (Value × List Char)
  | 0, _ => none
  | fuel + 1, cs =>
      match cs with
      | '"' :: rest => (string? fuel rest).map fun (s, rest) =>
          (.text (String.ofList s), rest)
      | '[' :: rest =>
          match skip rest with
          | ']' :: rest => some (.list [], rest)
          | rest => (items? fuel rest).map fun (items, rest) => (.list items, rest)
      | '{' :: rest =>
          match skip rest with
          | '}' :: rest => some (.record [], rest)
          | rest => (fields? fuel [] rest).map fun (fields, rest) => (.record fields, rest)
      | _ => (name? cs).orElse fun _ => number? cs

/-- The items of a list from the first on, and the rest after the bracket. -/
def items? : (fuel : Nat) → List Char → Option (List Value × List Char)
  | 0, _ => none
  | fuel + 1, cs => do
      let (item, rest) ← value? fuel cs
      match skip rest with
      | ',' :: rest =>
          let (items, rest) ← items? fuel (skip rest)
          return (item :: items, rest)
      | ']' :: rest => return ([item], rest)
      | _ => none

/-- The fields of a record after those read, and the rest after the brace. The
last value of a name counts. -/
def fields? : (fuel : Nat) → List (String × Value) → List Char →
    Option (List (String × Value) × List Char)
  | 0, _, _ => none
  | fuel + 1, read, cs =>
      match cs with
      | '"' :: rest => do
          let (name, rest) ← string? fuel rest
          match skip rest with
          | ':' :: rest =>
              let (value, rest) ← value? fuel (skip rest)
              let read := setField read (String.ofList name) value
              match skip rest with
              | ',' :: rest => fields? fuel read (skip rest)
              | '}' :: rest => return (read, rest)
              | _ => none
          | _ => none
      | _ => none

end

def read? (s : String) : Option Value :=
  let cs := skip s.toList
  match value? (cs.length + 1) cs with
  | some (value, rest) => if (skip rest).isEmpty then some value else none
  | none => none

/-- One character inside a string. -/
def writeChar (c : Char) : List Char :=
  let n := c.toNat
  if c = '"' ∨ c = '\\' then ['\\', c]
  else if c = '\n' then ['\\', 'n']
  else if c = '\r' then ['\\', 'r']
  else if c = '\t' then ['\\', 't']
  else if c = '\x08' then ['\\', 'b']
  else if c = '\x0C' then ['\\', 'f']
  else if 0x20 ≤ n ∧ n < 0x7F then [c]
  else if n < 0x10000 then '\\' :: 'u' :: hex 4 n
  else
    '\\' :: 'u' :: hex 4 (0xD800 + (n - 0x10000) / 0x400) ++
      '\\' :: 'u' :: hex 4 (0xDC00 + (n - 0x10000) % 0x400)

/-- A string between its quotes. -/
def writeString (s : String) : String :=
  String.ofList ('"' :: (spellWith writeChar halfNumbered s.toList ++ ['"']))

/-- A number that is not whole. -/
def writeReal (x : Float) : String :=
  match shape x with
  | .nan => "NaN"
  | .infinite negative => if negative then "-Infinity" else "Infinity"
  | .finite _ _ => literal x

mutual

def write : Value → String
  | .null => "null"
  | .flag b => if b then "true" else "false"
  | .whole n => toString n
  | .real x => writeReal x
  | .text s => writeString s
  | .list items => "[" ++ ", ".intercalate (writeItems items) ++ "]"
  | .record fields => "\x7b" ++ ", ".intercalate (writeFields fields) ++ "\x7d"

def writeItems : List Value → List String
  | [] => []
  | item :: rest => write item :: writeItems rest

def writeFields : List (String × Value) → List String
  | [] => []
  | (name, value) :: rest => (writeString name ++ ": " ++ write value) :: writeFields rest

end

end Toolset.Value.Json
