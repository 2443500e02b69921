/-!
# Patterns

A pattern stands for texts: a question mark for any character, an asterisk for
any text, brackets for one of several characters.  What is quoted stands for
itself.
-/

namespace Toolset.Shell

/-- One place of a pattern. -/
inductive Glyph where
  | char (c : Char)
  | any
  | many
  | oneOf (negated : Bool) (ranges : List (Char × Char))
  deriving DecidableEq, Repr

/-- A character and whether it was quoted. -/
abbrev Marked := Char × Bool

/-- The ranges between brackets, up to the closing one. -/
def ranges : List Marked → Option (List (Char × Char) × List Marked)
  | [] => none
  | (first, quoted) :: rest =>
      if first = ']' ∧ !quoted then some ([], rest)
      else
        match rest with
        | ('-', false) :: (last, lastQuoted) :: others =>
            if last = ']' ∧ !lastQuoted then
              some ([(first, first), ('-', '-')], others)
            else (ranges others).map fun (list, rest) => ((first, last) :: list, rest)
        | rest => (ranges rest).map fun (list, rest) => ((first, first) :: list, rest)

/-- The places of a pattern. -/
def glyphs (fuel : Nat) (cs : List Marked) : List Glyph :=
  match fuel, cs with
  | 0, _ => []
  | _, [] => []
  | fuel + 1, (c, quoted) :: rest =>
      if quoted then .char c :: glyphs fuel rest
      else if c = '*' then .many :: glyphs fuel rest
      else if c = '?' then .any :: glyphs fuel rest
      else if c = '[' then
        let (negated, inside) := match rest with
          | ('!', false) :: inside => (true, inside)
          | inside => (false, inside)
        match ranges inside with
        | some (list, rest) => .oneOf negated list :: glyphs fuel rest
        | none => .char c :: glyphs fuel rest
      else .char c :: glyphs fuel rest

def pattern (cs : List Marked) : List Glyph := glyphs cs.length cs

/-- Whether one place stands for a character. -/
def Glyph.accepts (glyph : Glyph) (c : Char) : Bool :=
  match glyph with
  | .char d => c == d
  | .any => true
  | .many => false
  | .oneOf negated list => (list.any fun range => range.1 ≤ c && c ≤ range.2) != negated

/-- Whether a pattern stands for a text. -/
def fits (places : List Glyph) (text : List Char) : Bool :=
  match places, text with
  | [], [] => true
  | [], _ :: _ => false
  | .many :: others, [] => fits others []
  | .many :: others, c :: rest => fits others (c :: rest) || fits (.many :: others) rest
  | _ :: _, [] => false
  | place :: others, c :: rest => place.accepts c && fits others rest
termination_by places.length + text.length

/-- The lengths of the beginnings that a pattern stands for, shortest first. -/
def fittingFronts (places : List Glyph) (text : List Char) : List Nat :=
  (List.range (text.length + 1)).filter fun n => fits places (text.take n)

/-- The lengths that remain before an ending that a pattern stands for, the
longest ending first. -/
def fittingBacks (places : List Glyph) (text : List Char) : List Nat :=
  (List.range (text.length + 1)).filter fun n => fits places (text.drop n)

/-- Drop a beginning that a pattern stands for. -/
def trimFront (longest : Bool) (places : List Glyph) (text : List Char) : List Char :=
  let lengths := fittingFronts places text
  match if longest then lengths.getLast? else lengths.head? with
  | some n => text.drop n
  | none => text

/-- Drop an ending that a pattern stands for. -/
def trimBack (longest : Bool) (places : List Glyph) (text : List Char) : List Char :=
  let lengths := fittingBacks places text
  match if longest then lengths.head? else lengths.getLast? with
  | some n => text.take n
  | none => text

end Toolset.Shell
