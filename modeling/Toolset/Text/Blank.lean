/-!
# Blank characters

Names, revisions and messages are trimmed and tested for emptiness with one
notion of blank: the white space of Unicode together with the four information
separators `U+001C` to `U+001F`.  A zero-width space, a word joiner and a byte
order mark are not blank.
-/

namespace Toolset.Text

/-- White space of Unicode, or one of the information separators. -/
def isBlank (c : Char) : Bool :=
  let n := c.toNat
  (0x09 ≤ n && n ≤ 0x0D) || (0x1C ≤ n && n ≤ 0x20) || n == 0x85 || n == 0xA0 ||
    n == 0x1680 || (0x2000 ≤ n && n ≤ 0x200A) || n == 0x2028 || n == 0x2029 ||
    n == 0x202F || n == 0x205F || n == 0x3000

/-- Drop the blanks at the front. -/
def trimFront (cs : List Char) : List Char := cs.dropWhile isBlank

/-- Drop the blanks at the back. -/
def trimBack (cs : List Char) : List Char := (cs.reverse.dropWhile isBlank).reverse

/-- Drop the blanks at both ends. -/
def trim (cs : List Char) : List Char := trimBack (trimFront cs)

/-- A text without the blanks at its ends. -/
def strip (s : String) : String := String.ofList (trim s.toList)

/-- A text with no character that is not blank, the empty one included. -/
def isBlankText (s : String) : Bool := s.toList.all isBlank

end Toolset.Text
