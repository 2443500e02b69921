import Toolset.Check

/-!
# What a run shall do

A specification names a source, the directory of its clone, and the tools to
install from it in order.  It is checked once and never changes: the clone is a
direct child of the workspace root, and no tool leads out of the clone.
-/

namespace Toolset

/-- What one run shall do. -/
structure Spec where
  /-- Where the source is fetched from. -/
  source : String
  /-- The name of the clone in the workspace root. -/
  cloneName : String
  /-- The paths of the tools in the clone, in the order of their installation. -/
  tools : List String
  /-- The directory that holds the workspace. -/
  root : Path
  /-- The commit, tag or branch to fetch; without one, the tip of the default
  branch. -/
  revision : Option String
  deriving DecidableEq, Hashable, Repr

namespace Spec

/-- The directory that the source is cloned into. -/
def clonePath (spec : Spec) : Path := spec.root / Path.ofString spec.cloneName

/-- Whether the fetch is pinned to a revision. -/
def isPinned (spec : Spec) : Bool := spec.revision.isSome

/-- The directory of a tool. -/
def toolPath (spec : Spec) (tool : String) : Path := spec.clonePath / Path.ofString tool

/-- A name that is one step down: no separator of any system in it, and not a
step to here or up. -/
def isSingle (name : String) : Bool :=
  !(name.toList.contains '/' || name.toList.contains '\\' || name == "." || name == "..")

/-- A path that leads into the clone and stays there. -/
def staysInside (tool : String) : Bool :=
  let path := Path.ofString tool
  !(Text.isBlankText tool || path.isAbsolute || path.climbs)

/-- The source: at least one character, and not blank. -/
def checkSource (value : Value) : Checked String := do
  sourceRule (← checkSomeText value)

/-- The name of the clone, without blanks around it. -/
def checkCloneName (value : Value) : Checked String := do
  let name := Text.strip (← checkSomeText value)
  if name.isEmpty then Checked.reject (.broken .cloneNameEmpty)
  else if isSingle name then .ok name
  else Checked.reject (.broken .cloneNameNotSingle)

/-- The paths of the tools; of several that lead outside, the first is named. -/
def checkTools (value : Value) : Checked (List String) := do
  let tools ← checkTexts .tupleExpected value
  match tools.find? fun tool => !staysInside tool with
  | some tool => Checked.reject (.broken (.toolOutsideClone tool))
  | none => .ok tools

/-- The revision without blanks around it; a blank one is none. -/
def checkRevision (value : Value) : Checked (Option String) := do
  match ← checkOptionalText value with
  | none => .ok none
  | some s => .ok (if Text.isBlankText s then none else some (Text.strip s))

/-- Check all fields of a specification. Other fields are not looked at. -/
def ofFields (fields : List Field) : Checked Spec :=
  ((((Checked.also (.ok Spec.mk)
    (Checked.field fields "source_url" none checkSource)).also
    (Checked.field fields "local_clone_name" none checkCloneName)).also
    (Checked.field fields "sub_tool_paths" (some []) checkTools)).also
    (Checked.field fields "workspace_root" none checkAbsolutePath)).also
    (Checked.field fields "revision" (some none) checkRevision)

/-- The fields from which the same specification is checked again. -/
def fields (spec : Spec) : List Field :=
  [("source_url", .text spec.source), ("local_clone_name", .text spec.cloneName),
   ("sub_tool_paths", .texts spec.tools), ("workspace_root", .text spec.root.toString),
   ("revision", .optional spec.revision)]

/-- A specification never changes: whatever is set is refused. -/
def set (_ : Spec) (name : String) (_ : Value) : Checked Spec :=
  Checked.within (.name name) (Checked.reject .fixedForGood)

end Spec

end Toolset
