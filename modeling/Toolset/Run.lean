import Toolset.Fetch
import Toolset.Install
import Toolset.Sink
import Toolset.Workspace

/-!
# A run

A run acquires its workspace, fetches the source unless a clone is there
already, installs the tools in order, and releases the workspace.  The first
failure ends the run.  Each step and the end of the run are told as events; a
sink that fails does not change the run, and neither does a workspace that could
not be removed: it is told of beside the end of the run.
-/

namespace Toolset

/-- What runs a specification. -/
structure Provisioner where
  git : Git
  installer : Installer
  sink : Sink := .silent

namespace Provisioner

def logger : String := "src.provisioning.orchestrator"

/-- What is logged when a sink failed. -/
def sinkRecord (kind : EventKind) (ending : Ending) : Log.Record where
  level := .error
  logger := logger
  message := "Failed to emit event"
  fields := [("event_type", .text kind.name)]
  trouble := some ending.trouble

def nextEvent (source : String) (kind : EventKind) (details : List Field) : Act Event := do
  let number := (← get).told.length
  let event : Event := { kind, source, moment := (← read).moment number, details, number }
  modify fun world => { world with told := world.told ++ [event] }
  return event

/-- Tell of an event. A sink that fails is logged; a cancellation goes
through. -/
def tell (sink : Sink) (source : String) (kind : EventKind) (details : List Field) :
    Act Unit := do
  let event ← nextEvent source kind details
  match ← Act.outcome (sink.tell event) with
  | .ok () => return
  | .error ending =>
      if ending.isCancellation then throw ending
      else Act.log (sinkRecord kind ending)

/-- What is logged at the start of a run. -/
def startRecord (spec : Spec) : Log.Record where
  level := .info
  logger := logger
  message := "Starting provisioning run"
  fields := [("source_url", .text spec.source), ("revision", .optional spec.revision),
    ("sub_tools", .texts spec.tools)]

/-- What is logged when the source is there already. -/
def presentRecord (workspace : Workspace) : Log.Record where
  level := .info
  logger := logger
  message := "Source already present, skipping fetch"
  fields := [("workspace", .text workspace.path.toString)]

def fetchDetails : List Field := [("step", .text "fetch")]

def fetchedDetails (skipped : Bool) : List Field :=
  [("step", .text "fetch"), ("skipped", .flag skipped)]

def installDetails (tool : String) : List Field :=
  [("step", .text "install"), ("tool_path", .text tool)]

def failureDetails (failure : Failure) : List Field :=
  [("step", .text failure.step), ("error_type", .text failure.kind),
   ("error_message", .text failure.message)]

/-- The details of a workspace that was left behind. -/
def warningDetails (warning : CleanupWarning) : List Field :=
  [("workspace", .text warning.path.toString), ("error_message", .text warning.cause)]

def completionDetails (report : Report) : List Field :=
  [("installed", .texts report.installed), ("fetched", .flag report.fetched),
   ("duration_seconds", .real report.duration)]

/-- Fetch the source unless it is there already, and tell whether it was
fetched. -/
def ensureSource (provisioner : Provisioner) (spec : Spec) (workspace : Workspace) :
    Act Bool := do
  if workspace.preexisting then
    Act.log (presentRecord workspace)
    tell provisioner.sink spec.source .stepCompleted (fetchedDetails true)
    return false
  else
    tell provisioner.sink spec.source .stepStarted fetchDetails
    provisioner.git.fetch spec.source workspace.path spec.revision
    tell provisioner.sink spec.source .stepCompleted (fetchedDetails false)
    return true

def installOne (provisioner : Provisioner) (spec : Spec) (workspace : Workspace)
    (tool : String) : Act Unit := do
  tell provisioner.sink spec.source .stepStarted (installDetails tool)
  let result ← provisioner.installer.run (workspace.path / Path.ofString tool)
    (some workspace.path)
  if result.success then
    tell provisioner.sink spec.source .stepCompleted (installDetails tool)
  else throw (.failed (.install tool result.failureReason) none)

/-- Install tools in order, up to the first that fails, after those that are
installed already; it tells what is installed then. -/
def installAll (provisioner : Provisioner) (spec : Spec) (workspace : Workspace)
    (installed : List String) : List String → Act (List String)
  | [] => pure installed
  | tool :: rest => do
      provisioner.installOne spec workspace tool
      provisioner.installAll spec workspace (installed ++ [tool]) rest

/-- What the work of a run did: whether the source was fetched, and which tools
were installed. -/
structure Done where
  fetched : Bool
  installed : List String
  deriving DecidableEq, Repr

def work (provisioner : Provisioner) (spec : Spec) (workspace : Workspace) : Act Done := do
  let fetched ← provisioner.ensureSource spec workspace
  let installed ← provisioner.installAll spec workspace [] spec.tools
  return { fetched, installed }

/-- Tell of a workspace that was left behind, if it was. -/
def tellCleanup (provisioner : Provisioner) (spec : Spec) : Option CleanupWarning → Act Unit
  | none => pure ()
  | some warning =>
      tell provisioner.sink spec.source .cleanupWarning (warningDetails warning)

/-- End a run that failed: tell of it, and hand over the failure with the
warning. -/
def failRun {α : Type} (provisioner : Provisioner) (spec : Spec) (failure : Failure)
    (cleanup : Option CleanupWarning) : Act α := do
  provisioner.tellCleanup spec cleanup
  tell provisioner.sink spec.source .error (failureDetails failure)
  throw (.failed failure cleanup)

/-- End a run that is complete: tell of it, and report. -/
def completeRun (provisioner : Provisioner) (spec : Spec) (done : Done)
    (cleanup : Option CleanupWarning) (started : Float) : Act Report := do
  let duration := (← Act.clock) - started
  let report : Report :=
    { fetched := done.fetched, installed := done.installed, cleanup, duration }
  provisioner.tellCleanup spec cleanup
  tell provisioner.sink spec.source .completion (completionDetails report)
  return report

/-- End a run as its work ended. What is no failure of the run passes as it
is. -/
def conclude (provisioner : Provisioner) (spec : Spec) (started : Float)
    (cleanup : Option CleanupWarning) : Except Ending Done → Act Report
  | .error (.failed failure _) => provisioner.failRun spec failure cleanup
  | .error ending => throw ending
  | .ok done => provisioner.completeRun spec done cleanup started

/-- Run a specification. -/
def provision (provisioner : Provisioner) (spec : Spec) : Act Report := do
  let started ← Act.clock
  Act.log (startRecord spec)
  match ← Act.outcome (Workspace.within spec (provisioner.work spec)) with
  | .error ending => provisioner.conclude spec started none (.error ending)
  | .ok (workspace, ended) => provisioner.conclude spec started workspace.cleanup ended

end Provisioner

end Toolset
