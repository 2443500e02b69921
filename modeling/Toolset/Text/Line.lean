/-!
# Lines of a text

A message is read line by line at every boundary that Unicode names: line feed,
carriage return, the pair of both, vertical tab, form feed, three of the
information separators, next line, and the line and paragraph separators.  A
boundary ends a line; it does not start an empty one after the last.
-/

namespace Toolset.Text

/-- A character that ends a line. -/
def isLineBreak (c : Char) : Bool :=
  let n := c.toNat
  (0x0A ≤ n && n ≤ 0x0D) || (0x1C ≤ n && n ≤ 0x1E) || n == 0x85 || n == 0x2028 || n == 0x2029

/-- The lines of a text without their boundaries. A carriage return directly
before a line feed makes one boundary with it. -/
def lines : List Char → List (List Char)
  | [] => []
  | '\r' :: '\n' :: rest => [] :: lines rest
  | c :: rest =>
      if isLineBreak c then
        [] :: lines rest
      else
        match lines rest with
        | [] => [[c]]
        | line :: others => (c :: line) :: others

end Toolset.Text
