/-!
# Halves of surrogate pairs

A character beyond the first sixteen bits can be given by two sixteen-bit units,
which form a pair.  JSON can name one of the two alone, which is no character.
Such a half is kept as a private character of the last plane after the last
character of all, which is meant for internal use and stands in no text that is
exchanged; so it can be spelled out again.
-/

namespace Toolset.Text

/-- The first unit of a pair. -/
def isFirstHalf (unit : Nat) : Bool := 0xD800 ≤ unit && unit ≤ 0xDBFF

/-- The second unit of a pair. -/
def isSecondHalf (unit : Nat) : Bool := 0xDC00 ≤ unit && unit ≤ 0xDFFF

def pair (first second : Nat) : Char :=
  Char.ofNat (0x10000 + (first - 0xD800) * 0x400 + (second - 0xDC00))

/-- The distance of the characters that stand for halves. -/
def halfOffset : Nat := 0x100000

/-- The character that tells that the next one stands for half a pair. -/
def halfMark : Char := Char.ofNat 0x10FFFF

def half (unit : Nat) : List Char := [halfMark, Char.ofNat (halfOffset + unit)]

/-- The unit that two characters stand for, if they stand for half a pair. -/
def unitOf? (mark c : Char) : Option Nat :=
  let unit := c.toNat - halfOffset
  if mark == halfMark && (isFirstHalf unit || isSecondHalf unit) then some unit else none

/-- Spell out characters, each by itself, and halves of pairs by their units. -/
def spellWith (spellChar : Char → List Char) (spellHalf : Nat → List Char) :
    List Char → List Char
  | [] => []
  | [c] => spellChar c
  | mark :: c :: rest =>
      match unitOf? mark c with
      | some unit => spellHalf unit ++ spellWith spellChar spellHalf rest
      | none => spellChar mark ++ spellWith spellChar spellHalf (c :: rest)

end Toolset.Text
