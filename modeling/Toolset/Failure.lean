import Toolset.Path

/-!
# Failures of a run

A run fails because its workspace cannot be prepared, its source cannot be
fetched, or a tool cannot be installed.  That a workspace could not be removed
afterwards is no failure of its own: it is a warning, which travels with the
report of the run or with the failure that ended it.
-/

namespace Toolset

/-- Why a run failed. -/
inductive Failure where
  /-- Some other failure of a run. -/
  | general (text : String)
  /-- The workspace root cannot be prepared. -/
  | workspace (text : String)
  /-- The source cannot be fetched. -/
  | fetch (source cause : String)
  /-- A tool cannot be installed. -/
  | install (tool cause : String)
  deriving DecidableEq, Repr

namespace Failure

def step : Failure → String
  | .general _ => "provision"
  | .workspace _ => "workspace"
  | .fetch _ _ => "fetch"
  | .install _ _ => "install"

def exitCode : Failure → Int
  | .general _ => 1
  | .workspace _ => 2
  | .fetch _ _ => 2
  | .install _ _ => 3

def kind : Failure → String
  | .general _ => "ProvisionError"
  | .workspace _ => "WorkspaceError"
  | .fetch _ _ => "FetchError"
  | .install _ _ => "InstallError"

/-- What is said of the failure. -/
def message : Failure → String
  | .general text => text
  | .workspace text => text
  | .fetch source cause => "Failed to fetch " ++ source ++ ": " ++ cause
  | .install tool cause => "Failed to install " ++ tool ++ ": " ++ cause

end Failure

/-- A workspace that could not be removed, and why. -/
structure CleanupWarning where
  path : Path
  cause : String
  deriving DecidableEq, Repr

namespace CleanupWarning

/-- The exit code of a run that succeeded and left its workspace behind. -/
def exitCode : Int := 4

/-- What is said of the workspace. -/
def text (warning : CleanupWarning) : String :=
  "Failed to remove workspace " ++ warning.path.toString ++ ": " ++ warning.cause

end CleanupWarning

end Toolset
