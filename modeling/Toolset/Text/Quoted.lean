import Toolset.Text.Printable
import Toolset.Text.Surrogate

/-!
# Texts between quotes

A message that names a text shows it between quotes, with everything spelled
out that could not be seen otherwise.  Apostrophes quote, unless the text holds
an apostrophe and no quotation mark.
-/

namespace Toolset.Text

/-- A number in a given count of lower-case hexadecimal digits. -/
def hex : (width : Nat) → Nat → List Char
  | 0, _ => []
  | width + 1, n => hex width (n / 16) ++ [Nat.digitChar (n % 16)]

def quoteFor (cs : List Char) : Char :=
  if cs.contains '\'' && !cs.contains '"' then '"' else '\''

/-- Half a pair, given by its unit. -/
def halfNumbered (unit : Nat) : List Char := '\\' :: 'u' :: hex 4 unit

/-- The number of a character, in as few of two, four or eight digits. -/
def numbered (c : Char) : List Char :=
  if c.toNat ≤ 0xFF then '\\' :: 'x' :: hex 2 c.toNat
  else if c.toNat ≤ 0xFFFF then '\\' :: 'u' :: hex 4 c.toNat
  else '\\' :: 'U' :: hex 8 c.toNat

def quotedChar (quote c : Char) : List Char :=
  if c == quote || c == '\\' then ['\\', c]
  else if c == '\n' then ['\\', 'n']
  else if c == '\r' then ['\\', 'r']
  else if c == '\t' then ['\\', 't']
  else if isPrintable c then [c]
  else numbered c

/-- A text in which every character outside ASCII is given by its number. -/
def spelledOut (s : String) : String :=
  String.ofList
    (spellWith (fun c => if c.toNat < 0x80 then [c] else numbered c) halfNumbered s.toList)

def quoted (s : String) : String :=
  let quote := quoteFor s.toList
  String.ofList (quote :: (spellWith (quotedChar quote) halfNumbered s.toList ++ [quote]))

end Toolset.Text
