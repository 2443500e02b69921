/-!
# Paths

A path is an anchor and a list of names.  Written out, names are separated by
one slash; empty names and single points are dropped when a path is read, a
double point is kept.  A path that starts with exactly two slashes keeps both.
Reading what was written gives the same path again.
-/

namespace Toolset

/-- Where a path starts. -/
inductive Anchor where
  | here
  | root
  | doubleRoot
  deriving DecidableEq, Hashable, Repr, Inhabited

/-- How an anchor is written. -/
def Anchor.chars : Anchor → List Char
  | .here => []
  | .root => ['/']
  | .doubleRoot => ['/', '/']

/-- A path in a file system. -/
structure Path where
  anchor : Anchor
  names : List String
  deriving DecidableEq, Hashable, Repr, Inhabited

namespace Path

/-- A name that stands for a step of its own. -/
def isName (cs : List Char) : Bool := !cs.isEmpty && cs != ['.']

/-- The names in a text, between slashes. -/
def splitNames (cs : List Char) : List String :=
  ((cs.splitOn '/').filter isName).map String.ofList

/-- The anchor of a text: one leading slash or three and more make the root,
two are kept apart. -/
def anchorOf : List Char → Anchor
  | '/' :: '/' :: '/' :: _ => .root
  | '/' :: '/' :: _ => .doubleRoot
  | '/' :: _ => .root
  | _ => .here

/-- Read a path. -/
def ofChars (cs : List Char) : Path := ⟨anchorOf cs, splitNames cs⟩

/-- Read a path. -/
def ofString (s : String) : Path := ofChars s.toList

/-- Write a path; the path of no name at all is a single point. -/
def toChars (p : Path) : List Char :=
  if p.anchor = .here ∧ p.names = [] then ['.']
  else p.anchor.chars ++ ['/'].intercalate (p.names.map String.toList)

/-- Write a path; the path of no name at all is a single point. -/
def toString (p : Path) : String := String.ofList p.toChars

/-- A path that starts at the root. -/
def isAbsolute (p : Path) : Bool := p.anchor != .here

/-- A path that goes up somewhere. -/
def climbs (p : Path) : Bool := p.names.contains ".."

/-- Continue a path by another; an absolute one starts anew. -/
def join (p q : Path) : Path :=
  if q.isAbsolute then q else ⟨p.anchor, p.names ++ q.names⟩

instance : Div Path := ⟨join⟩

/-- The path without its last name. -/
def parent (p : Path) : Path := ⟨p.anchor, p.names.dropLast⟩

@[simp] theorem div_def (p q : Path) : p / q = p.join q := rfl

@[simp] theorem toList_toString (p : Path) : p.toString.toList = p.toChars := by
  simp [toString]

theorem join_of_relative {p q : Path} (relative : q.isAbsolute = false) :
    p.join q = ⟨p.anchor, p.names ++ q.names⟩ := by
  simp [join, relative]

end Path

end Toolset
