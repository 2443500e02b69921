import Toolset.Shell.Files

/-!
# Fields

An expanded word is a row of pieces, which is cut into fields at the blanks of
its values.  A field with a pattern in it stands for the names of files.
-/

namespace Toolset.Shell

/-- A piece of an expanded word. -/
inductive Piece where
  /-- A character; if it splits, blanks in it end a field. -/
  | char (c : Char) (quoted splits : Bool)
  /-- Nothing, but a field all the same. -/
  | nothing
  /-- The next field starts here. -/
  | nextField
  deriving DecidableEq, Repr

def cutsField (c : Char) : Bool := c == ' ' || c == '\t' || c == '\n'

/-- Cut pieces into fields. `begun` holds the field begun, last character
first. -/
def fieldsFrom (begun : Option (List Marked)) : List Piece → List (List Marked)
  | [] => (begun.map List.reverse).toList
  | .nothing :: rest => fieldsFrom (some (begun.getD [])) rest
  | .nextField :: rest => (begun.map List.reverse).toList ++ fieldsFrom (some []) rest
  | .char c quoted splits :: rest =>
      if splits && !quoted && cutsField c then
        (begun.map List.reverse).toList ++ fieldsFrom none rest
      else fieldsFrom (some ((c, quoted) :: begun.getD [])) rest

/-- The characters of a field. -/
def plain (field : List Marked) : String := String.ofList (field.map (·.1))

/-- The characters of pieces that are not cut. -/
def uncut (pieces : List Piece) : List Marked :=
  pieces.filterMap fun piece => match piece with
    | .char c quoted _ => some (c, quoted)
    | _ => none

def valuePieces (quoted : Bool) (value : String) : List Piece :=
  (if quoted then [Piece.nothing] else []) ++
    value.toList.map fun c => .char c quoted true

/-- The arguments as pieces, each a field of its own. -/
def argumentPieces (quoted : Bool) : List String → List Piece
  | [] => []
  | [value] => valuePieces quoted value
  | value :: rest => valuePieces quoted value ++ .nextField :: argumentPieces quoted rest

def dropFeeds (s : String) : String :=
  String.ofList (s.toList.reverse.dropWhile (· == '\n')).reverse

/-- A field that stands for the names of files is replaced by them. -/
def names (state : State) (field : List Marked) : List String :=
  if !field.any fun mark => !mark.2 && (mark.1 == '*' || mark.1 == '?' || mark.1 == '[') then
    [plain field]
  else
    let (before, last) := (field.reverse.dropWhile (·.1 != '/'),
      (field.reverse.takeWhile (·.1 != '/')).reverse)
    let start := plain before.reverse
    match state.tree.find true (state.resolve (if start.isEmpty then "." else start)) with
    | .ok (.found place (.directory _)) =>
        let found := (namesIn state.tree place).filter fun name => fits (pattern last) name.toList
        if found.isEmpty then [plain field] else found.map (start ++ ·)
    | _ => [plain field]

end Toolset.Shell
