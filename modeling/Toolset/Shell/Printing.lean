import Toolset.Text.Digit
import Toolset.Text.Utf8

/-!
# Printed bytes

Arguments are printed in a row, or put into the places of a format that is used
again as long as arguments are left.  Escapes stand for bytes.
-/

namespace Toolset.Shell

/-- The octal number at the start of a text, of at most so many digits. -/
def octal (most : Nat) (cs : List Char) : Nat × List Char :=
  let digits := (cs.take most).takeWhile fun c => '0' ≤ c && c ≤ '7'
  (digits.foldl (fun n c => n * 8 + (c.toNat - 0x30)) 0, cs.drop digits.length)

def escapeByte? (c : Char) : Option UInt8 :=
  match c with
  | 'a' => some 7
  | 'b' => some 8
  | 'f' => some 12
  | 'n' => some 10
  | 'r' => some 13
  | 't' => some 9
  | 'v' => some 11
  | '\\' => some 92
  | _ => none

/-- The bytes of a text with escapes; an octal number follows a backslash, or a
backslash and a zero. `true` tells that the text asks for no more output. -/
def escapedBytes (zero : Bool) : (fuel : Nat) → List Char → List UInt8 × Bool
  | 0, _ => ([], false)
  | _, [] => ([], false)
  | fuel + 1, '\\' :: c :: rest =>
      if c = 'c' then ([], true)
      else
        match escapeByte? c with
        | some byte =>
            let (bytes, ended) := escapedBytes zero fuel rest
            (byte :: bytes, ended)
        | none =>
            if '0' ≤ c ∧ c ≤ '7' then
              let (n, rest) := if zero ∧ c = '0' then octal 3 rest else octal 3 (c :: rest)
              let (bytes, ended) := escapedBytes zero fuel rest
              (UInt8.ofNat n :: bytes, ended)
            else
              let (bytes, ended) := escapedBytes zero fuel (c :: rest)
              (92 :: bytes, ended)
  | fuel + 1, c :: rest =>
      let (bytes, ended) := escapedBytes zero fuel rest
      (Text.encodeText (String.singleton c) ++ bytes, ended)

/-- Print arguments in a row. -/
def echo (arguments : List String) : List UInt8 :=
  let (newline, words) := match arguments with
    | "-n" :: rest => (false, rest)
    | rest => (true, rest)
  let cs := (" ".intercalate words).toList
  let (bytes, ended) := escapedBytes true (cs.length + 1) cs
  if newline && !ended then bytes ++ [10] else bytes

/-- Fill a text up to a width. -/
def padded (left zeros : Bool) (width : Nat) (text : List Char) : List Char :=
  let missing := width - text.length
  if left then text ++ List.replicate missing ' '
  else if zeros then
    match text with
    | '-' :: digits => '-' :: (List.replicate missing '0' ++ digits)
    | digits => List.replicate missing '0' ++ digits
  else List.replicate missing ' ' ++ text

/-- A whole number in some base. -/
def inBase (base : Nat) (n : Int) : List Char := Nat.toDigits base n.toNat

/-- Fill the places of a format, each with the next argument. -/
def fill : (fuel : Nat) → List Char → List String → List UInt8 × List String
  | 0, _, arguments => ([], arguments)
  | _, [], arguments => ([], arguments)
  | fuel + 1, '%' :: '%' :: rest, arguments =>
      let (bytes, others) := fill fuel rest arguments
      (37 :: bytes, others)
  | fuel + 1, '%' :: cs, arguments =>
      let (flags, cs) := cs.span fun c => c == '-' || c == '0'
      let (width, cs) := cs.span Char.isDigit
      let pad := padded (flags.contains '-') (flags.contains '0') (Text.digitsValue width)
      let next := arguments.headD ""
      let number := next.toInt?.getD 0
      match cs with
      | [] => ([], arguments)
      | c :: rest =>
          let text : List UInt8 :=
            match c with
            | 's' => Text.encodeText (String.ofList (pad next.toList))
            | 'b' => (escapedBytes true (next.length + 1) next.toList).1
            | 'c' => Text.encodeText (String.ofList (pad (next.toList.take 1)))
            | 'o' => Text.encodeText (String.ofList (pad (inBase 8 number)))
            | 'x' => Text.encodeText (String.ofList (pad (inBase 16 number)))
            | _ => Text.encodeText (String.ofList (pad (toString number).toList))
          let (bytes, others) := fill fuel rest (arguments.drop 1)
          (text ++ bytes, others)
  | fuel + 1, '\\' :: c :: rest, arguments =>
      match escapeByte? c with
      | some byte =>
          let (bytes, others) := fill fuel rest arguments
          (byte :: bytes, others)
      | none =>
          if '0' ≤ c ∧ c ≤ '7' then
            let (n, rest) := octal 3 (c :: rest)
            let (bytes, others) := fill fuel rest arguments
            (UInt8.ofNat n :: bytes, others)
          else
            let (bytes, others) := fill fuel (c :: rest) arguments
            (92 :: bytes, others)
  | fuel + 1, c :: rest, arguments =>
      let (bytes, others) := fill fuel rest arguments
      (Text.encodeText (String.singleton c) ++ bytes, others)

/-- Print a format, again as long as arguments are left. -/
def printf : (fuel : Nat) → String → List String → List UInt8
  | 0, _, _ => []
  | fuel + 1, format, arguments =>
      let (bytes, others) := fill (format.length + 1) format.toList arguments
      if others.isEmpty || others.length == arguments.length then bytes
      else bytes ++ printf fuel format others

end Toolset.Shell
