import Toolset.Failure

/-!
# The report of a run

A run that succeeded reports whether it fetched the source or found it, what it
installed, how long it took, and whether its workspace is gone.
-/

namespace Toolset

/-- What a successful run did. -/
structure Report where
  /-- Whether the source was fetched; it is not when a clone was there already. -/
  fetched : Bool
  /-- The tools that were installed, in order. -/
  installed : List String := []
  /-- Why the workspace could not be removed. -/
  cleanup : Option CleanupWarning := none
  /-- How long the run took, in seconds. -/
  duration : Float := 0
  deriving DecidableEq, Repr

/-- Nothing was left behind. -/
def Report.clean (report : Report) : Bool := report.cleanup.isNone

end Toolset
