/-!
# Upper and lower case of names

Level names are read in capitals and names of variables in small letters.  The
names that are looked for are ASCII, so of all case pairs of Unicode only those
matter that lead into ASCII.
-/

namespace Toolset.Text

/-- The capital of a letter, where it is an ASCII one. -/
def capital (c : Char) : Char :=
  if c = 'ı' then 'I' else if c = 'ſ' then 'S' else c.toUpper

def capitals (s : String) : String := String.ofList (s.toList.map capital)

/-- The small form of a letter, where it is an ASCII one. -/
def small (c : Char) : Char := if c = '\u212A' then 'k' else c.toLower

def smalls (s : String) : String := String.ofList (s.toList.map small)

end Toolset.Text
