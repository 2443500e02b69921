import Toolset.Path
import Toolset.SystemError

/-!
# A tree of files

A file system is a tree of directories, files and symbolic links.  A place in
it is the list of names that lead down to it from the root, without links and
steps upward; a path is led to a place by walking it, following the links on
the way.  Looking at a path, making directories and removing a tree are defined
by that walk.
-/

namespace Toolset

/-- A place in a tree: the names from the root down to it. -/
abbrev Location := List String

/-- What is at a place. -/
inductive Entry where
  | directory (mode : Nat)
  | file (mode : Nat) (content : String)
  | link (target : String)
  deriving DecidableEq, Repr

/-- A tree of directories, files and links. The root is always a directory and
is not listed. -/
structure FileTree where
  entries : List (Location × Entry)
  deriving DecidableEq, Repr

namespace FileTree

def directoryMode : Nat := 0o755

def fileMode : Nat := 0o644

/-- The tree with nothing below the root. -/
def empty : FileTree := ⟨[]⟩

/-- What is at a place. -/
def get? (tree : FileTree) (place : Location) : Option Entry :=
  if place = [] then some (.directory directoryMode) else tree.entries.lookup place

def put (tree : FileTree) (place : Location) (entry : Entry) : FileTree :=
  ⟨(place, entry) :: tree.entries.filter (·.1 != place)⟩

/-- Remove what is at a place and below it. -/
def prune (tree : FileTree) (place : Location) : FileTree :=
  ⟨tree.entries.filter fun entry => !place.isPrefixOf entry.1⟩

/-- Remove of what is at a place and below it all that is not spared. -/
def thin (tree : FileTree) (place : Location) (spared : Location → Bool) : FileTree :=
  ⟨tree.entries.filter fun entry => !place.isPrefixOf entry.1 || spared entry.1⟩

/-- The most bytes of a name. -/
def longestName : Nat := 255

/-- The most bytes of a path. -/
def longestPath : Nat := 4095

def mostLinks : Nat := 40

/-- Where a path leads. -/
inductive Finding where
  /-- Something is there. -/
  | found (place : Location) (entry : Entry)
  /-- Nothing is there, but the directory that would hold it. -/
  | free (place : Location)
  deriving DecidableEq, Repr

/-- The names to walk for the target of a link. A target that ends with a
separator or a step to here needs a directory: such a step is kept. -/
def targetNames (target : String) : List String :=
  let names := (Path.ofString target).names
  if target.endsWith "/" || target.endsWith "/." then names ++ ["."] else names

/-- Walk names down from a place. A link on the way is followed, one at the end
only if asked for. -/
def walk (tree : FileTree) (follow : Bool) (links : Nat) (here : Location) (names : List String) :
    Except Obstacle Finding :=
  match names with
  | [] =>
      match tree.get? here with
      | some entry => .ok (.found here entry)
      | none => .error .missing
  | name :: rest =>
      if name = ".." then tree.walk follow links here.dropLast rest
      else if name = "." then tree.walk follow links here rest
      else if longestName < name.utf8ByteSize then .error .nameTooLong
      else
        let there := here ++ [name]
        match tree.get? there with
        | none => if rest.isEmpty then .ok (.free there) else .error .missing
        | some (.directory _) => tree.walk follow links there rest
        | some (.file mode content) =>
            if rest.isEmpty then .ok (.found there (.file mode content)) else .error .notDirectory
        | some (.link target) =>
            if rest.isEmpty && !follow then .ok (.found there (.link target))
            else
              match links with
              | 0 => .error .tooManyLinks
              | links + 1 =>
                  let start := if (Path.ofString target).isAbsolute then [] else here
                  tree.walk follow links start (targetNames target ++ rest)
termination_by (links, names.length)

/-- Where a path leads. -/
def find (tree : FileTree) (follow : Bool) (path : Path) : Except Obstacle Finding :=
  if longestPath < path.toString.utf8ByteSize then .error .nameTooLong
  else tree.walk follow mostLinks [] path.names

/-- A path with a character that no path can hold. -/
def hasNull (path : Path) : Bool := path.toString.toList.contains '\x00'

/-- An entry that passes a test, at the end of all links. What cannot be
reached is not there; only a name that is too long is an error. -/
def test (tree : FileTree) (path : Path) (passes : Entry → Bool) : Except SystemError Bool :=
  if hasNull path then .ok false
  else
    match tree.find true path with
    | .ok (.found _ entry) => .ok (passes entry)
    | .error .nameTooLong => .error (Obstacle.nameTooLong.error path.toString)
    | _ => .ok false

/-- Whether there is something at a path. -/
def exists? (tree : FileTree) (path : Path) : Except SystemError Bool :=
  tree.test path fun _ => true

/-- A directory. -/
def isDirectoryEntry : Entry → Bool
  | .directory _ => true
  | _ => false

/-- Whether there is a directory at a path. -/
def isDirectory? (tree : FileTree) (path : Path) : Except SystemError Bool :=
  tree.test path isDirectoryEntry

/-- Whether there is a directory at a path, and nothing keeps from seeing it. -/
def holdsDirectory (tree : FileTree) (path : Path) : Bool :=
  match tree.isDirectory? path with
  | .ok found => found
  | .error _ => false

def makeDirectory (tree : FileTree) (path : Path) : Except Obstacle FileTree :=
  match tree.find false path with
  | .ok (.free place) => .ok (tree.put place (.directory directoryMode))
  | .ok (.found _ _) => .error .exists
  | .error obstacle => .error obstacle

/-- Make one directory, or be content with one that is there. -/
def ensureDirectory (tree : FileTree) (path : Path) : FileTree × Option SystemError :=
  match tree.makeDirectory path with
  | .ok tree => (tree, none)
  | .error obstacle =>
      if obstacle != .missing && tree.holdsDirectory path then (tree, none)
      else (tree, some (obstacle.error path.toString))

/-- Make a directory and all that are missing above it. What was made before an
error stays. -/
def makeDirectories (tree : FileTree) (anchor : Anchor) (names : List String) :
    FileTree × Option SystemError :=
  let path : Path := ⟨anchor, names⟩
  match tree.makeDirectory path with
  | .error .missing =>
      if _ : names = [] then (tree, some (Obstacle.missing.error path.toString))
      else
        match tree.makeDirectories anchor names.dropLast with
        | (tree, none) => tree.ensureDirectory path
        | (tree, some error) => (tree, some error)
  | _ => tree.ensureDirectory path
termination_by names.length
decreasing_by
  have := List.length_pos_iff.2 (by assumption : names ≠ [])
  simp only [List.length_dropLast]
  omega

/-- Give a directory or a file another mode. -/
def setMode (tree : FileTree) (path : Path) (mode : Nat) : Except SystemError FileTree :=
  match tree.find true path with
  | .ok (.found place (.directory _)) => .ok (tree.put place (.directory mode))
  | .ok (.found place (.file _ content)) => .ok (tree.put place (.file mode content))
  | .error obstacle => .error (obstacle.error path.toString)
  | _ => .error (Obstacle.missing.error path.toString)

def mode? (tree : FileTree) (path : Path) : Option Nat :=
  match tree.find true path with
  | .ok (.found _ (.directory mode)) => some mode
  | .ok (.found _ (.file mode _)) => some mode
  | _ => none

/-- Remove a directory with all below it. Links below are removed and not
followed; what is no directory is refused. -/
def removeTree (tree : FileTree) (path : Path) : Except SystemError FileTree :=
  let about := "PosixPath(" ++ Text.quoted path.toString ++ ")"
  match tree.find false path with
  | .ok (.found place (.directory _)) => .ok (tree.prune place)
  | .ok (.found _ (.link _)) => .error (.plain "Cannot call rmtree on a symbolic link")
  | .ok (.found _ (.file _ _)) =>
      .error (.coded Obstacle.notDirectory.code Obstacle.notDirectory.reason [about])
  | .ok (.free _) => .error (.coded Obstacle.missing.code Obstacle.missing.reason [about])
  | .error obstacle => .error (.coded obstacle.code obstacle.reason [about])

/-- The tree after the removal of a directory broke off: of the directory and what is below
it, what is spared is left. What is no directory is left as it is. -/
def breakOff (tree : FileTree) (path : Path) (spared : Location → Bool) : FileTree :=
  match tree.find false path with
  | .ok (.found place (.directory _)) => tree.thin place spared
  | _ => tree

/-- Write a text to a file, which is made if nothing is there. -/
def write (tree : FileTree) (path : Path) (content : String) : Except SystemError FileTree :=
  match tree.find true path with
  | .ok (.free place) => .ok (tree.put place (.file fileMode content))
  | .ok (.found place (.file mode _)) => .ok (tree.put place (.file mode content))
  | .ok (.found _ _) => .error (Obstacle.isDirectory.error path.toString)
  | .error obstacle => .error (obstacle.error path.toString)

def makeLink (tree : FileTree) (path : Path) (target : String) : Except SystemError FileTree :=
  let refuse := fun (obstacle : Obstacle) =>
    SystemError.coded obstacle.code obstacle.reason
      [Text.quoted target, Text.quoted path.toString]
  if target.isEmpty then .error (refuse .missing)
  else if longestPath < target.utf8ByteSize then .error (refuse .nameTooLong)
  else
    match tree.find false path with
    | .ok (.free place) => .ok (tree.put place (.link target))
    | .ok (.found _ _) => .error (refuse .exists)
    | .error obstacle => .error (refuse obstacle)

/-- Remove whatever is at a path, a directory with all below it. No directory is removed if
there is a reason against it. -/
def remove (tree : FileTree) (path : Path) (refusal : Option String) :
    Except SystemError FileTree :=
  match tree.find false path, refusal with
  | .ok (.found _ (.directory _)), some text => .error (.plain text)
  | .ok (.found place _), _ => .ok (tree.prune place)
  | .ok (.free _), _ => .error (Obstacle.missing.error path.toString)
  | .error obstacle, _ => .error (obstacle.error path.toString)

end FileTree

/-- A change that a program makes to the tree. -/
inductive Change where
  | makeDirectory (path : Path)
  | write (path : Path) (content : String) (mode : Option Nat)
  | makeLink (path : Path) (target : String)
  | setMode (path : Path) (mode : Nat)
  /-- Remove what is there; `refusal` tells why no directory can be removed, if that is so. -/
  | remove (path : Path) (refusal : Option String := none)
  deriving DecidableEq, Repr

namespace FileTree

/-- The result of a change that may be refused. -/
def attempt (tree : FileTree) : Except SystemError FileTree → FileTree × Option SystemError
  | .ok tree => (tree, none)
  | .error error => (tree, some error)

/-- Make one change. -/
def apply (tree : FileTree) : Change → FileTree × Option SystemError
  | .makeDirectory path => tree.makeDirectories path.anchor path.names
  | .write path content mode =>
      match tree.write path content, mode with
      | .ok tree, some mode => tree.attempt (tree.setMode path mode)
      | result, _ => tree.attempt result
  | .makeLink path target => tree.attempt (tree.makeLink path target)
  | .setMode path mode => tree.attempt (tree.setMode path mode)
  | .remove path refusal => tree.attempt (tree.remove path refusal)

/-- Make changes in order, up to the first that is refused. -/
def applyAll (tree : FileTree) : List Change → FileTree × Option SystemError
  | [] => (tree, none)
  | change :: rest =>
      match tree.apply change with
      | (tree, none) => tree.applyAll rest
      | (tree, some error) => (tree, some error)

end FileTree

end Toolset
