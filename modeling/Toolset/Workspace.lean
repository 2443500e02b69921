import Toolset.Spec
import Toolset.World

/-!
# The workspace of a run

A workspace is the directory of the clone.  It is acquired by preparing the
workspace root and looking whether the directory is there already, and it is
released by removing the directory with all below it.  Work in a workspace ends
with its release, however the work ends.
-/

namespace Toolset

/-- The directory that one run owns. -/
structure Workspace where
  path : Path
  /-- The directory was there before the run. -/
  preexisting : Bool := false
  /-- The removal was tried. -/
  released : Bool := false
  /-- Why the directory could not be removed. -/
  cleanup : Option CleanupWarning := none
  deriving DecidableEq, Repr

namespace Workspace

def logger : String := "src.provisioning.provisioner.workspace"

def rootMode : Nat := 0o755

def rootFailure (root : Path) (error : SystemError) : Failure :=
  .workspace ("Failed to create workspace root at " ++ root.toString ++ ": " ++ error.text)

/-- Make a workspace root, with all that is missing above it. -/
def makeRoot (tree : FileTree) (root : Path) : FileTree × Option SystemError :=
  match tree.makeDirectories root.anchor root.names with
  | (tree, none) => tree.attempt (tree.setMode root rootMode)
  | (tree, some error) => (tree, some error)

/-- Make sure that a workspace root is there. What was made before an error
stays. -/
def prepare (tree : FileTree) (root : Path) : FileTree × Except Ending Unit :=
  match tree.isDirectory? root with
  | .error error => (tree, .error (.system error))
  | .ok true => (tree, .ok ())
  | .ok false =>
      if FileTree.hasNull root then (tree, .error .nullCharacter)
      else
        match makeRoot tree root with
        | (tree, none) => (tree, .ok ())
        | (tree, some error) => (tree, .error (.failed (rootFailure root error) none))

/-- Prepare the root of a specification and look whether the directory of its
clone is there. -/
def survey (tree : FileTree) (spec : Spec) : FileTree × Except Ending Bool :=
  match prepare tree spec.root with
  | (tree, .error ending) => (tree, .error ending)
  | (tree, .ok ()) => (tree, (tree.exists? spec.clonePath).mapError .system)

/-- What is logged of an acquired workspace. -/
def acquiredRecord (path : Path) (preexisting : Bool) : Log.Record where
  level := .info
  logger := logger
  message := "Acquired workspace"
  fields := [("workspace", .text path.toString), ("preexisting", .flag preexisting)]

def acquire (spec : Spec) : Act Workspace := do
  let (tree, found) := survey (← get).tree spec
  modify fun world => { world with tree }
  let preexisting ← Act.resume found
  Act.log (acquiredRecord spec.clonePath preexisting)
  Act.perform (.acquired spec.clonePath)
  return { path := spec.clonePath, preexisting }

/-- What is logged of a workspace that could not be removed. -/
def warningRecord (warning : CleanupWarning) : Log.Record where
  level := .warning
  logger := logger
  message := "Failed to remove workspace"
  fields := [("workspace", .text warning.path.toString), ("error", .text warning.cause)]

/-- What is logged of a workspace that was removed. -/
def removedRecord (path : Path) : Log.Record where
  level := .info
  logger := logger
  message := "Removed workspace"
  fields := [("workspace", .text path.toString)]

/-- The tree after the removal of a directory was tried, and why that failed, if it did. -/
def removal (host : Host) (tree : FileTree) (path : Path) : FileTree × Option SystemError :=
  match host.removalError with
  | some text => (tree.breakOff path host.spared, some (.plain text))
  | none => tree.attempt (tree.removeTree path)

/-- Remove the directory of a workspace, if there is one, and tell why it could
not be removed. -/
def release (path : Path) : Act (Option CleanupWarning) := do
  Act.perform (.released path)
  let isThere ← Act.answer ((← get).tree.exists? path)
  if isThere then
    let (tree, failed) := removal (← read) (← get).tree path
    modify fun world => { world with tree }
    match failed with
    | none =>
        Act.log (removedRecord path)
        return none
    | some error =>
        let warning : CleanupWarning := ⟨path, error.text⟩
        Act.log (warningRecord warning)
        return some warning
  else return none

/-- Work in the workspace of a specification and release it afterwards, however
the work ended. -/
def within {α : Type} (spec : Spec) (work : Workspace → Act α) :
    Act (Workspace × Except Ending α) := do
  let workspace ← acquire spec
  let outcome ← Act.outcome (work workspace)
  let cleanup ← release workspace.path
  return ({ workspace with released := true, cleanup }, outcome)

end Workspace

end Toolset
