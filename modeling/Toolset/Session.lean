import Toolset.CommandLine.Usage
import Toolset.Run
import Toolset.Settings
import Toolset.Text.Words

/-!
# A session

A session reads its settings from the command line and the environment, runs
the specification that they make, pushes the metrics if there is a gateway, and
ends with an exit code that tells what was done.
-/

namespace Toolset

/-- Why there is nothing to run. -/
inductive ConfigError where
  /-- The installer cannot be cut into words. -/
  | words (fault : Text.Words.Fault)
  /-- There are no settings. -/
  | settings (refusal : Settings.Refusal)
  /-- The settings make no specification. -/
  | spec (faults : List Fault)
  deriving DecidableEq, Repr

/-- How a session ends. -/
inductive SessionEnd where
  /-- The command line asks for help or is refused. -/
  | stopped (stop : CommandLine.Stop)
  /-- There is nothing to run. -/
  | misconfigured (error : ConfigError)
  /-- The run is over. -/
  | exited (code : Int)
  deriving DecidableEq, Repr

namespace Session

def logger : String := "src.provisioning.main"

/-- The exit code of a session that does not know what to run. -/
def misconfiguredCode : Int := 1

/-- The exit code of a run that was called off. -/
def interruptedCode : Int := 130

/-- The words of the installer; an empty text counts as none. -/
def installerWords (installer : Option String) :
    Except Text.Words.Fault (Option (List String)) :=
  match installer with
  | none => .ok none
  | some s => if s.isEmpty then .ok none else (Text.Words.split s).map some

/-- The values that the command line gives for settings. -/
def overrides (arguments : CommandLine.Arguments) (installer : Option (List String)) :
    List Field :=
  let list := fun (items : Option (List String)) => (items.map Value.texts).getD .null
  [("source_url", .optional arguments.sourceUrl), ("revision", .optional arguments.revision),
   ("clone_name", .optional arguments.cloneName), ("sub_tools", list arguments.subTools),
   ("workspace_root", .optional arguments.workspaceRoot), ("installer_command", list installer),
   ("git_path", .optional arguments.git),
   ("step_timeout_seconds", (arguments.timeout.map Value.real).getD .null),
   ("metrics_gateway_url", .optional arguments.metricsGateway),
   ("log_level", .optional arguments.logLevel),
   ("json_logs", if arguments.jsonLogs then .flag true else .null)]

/-- The settings by the command line and the environment. -/
def settingsOf (circumstances : Circumstances) (arguments : CommandLine.Arguments) :
    Except ConfigError Settings := do
  let installer ← (installerWords arguments.installer).mapError .words
  (Settings.read circumstances (overrides arguments installer)).mapError .settings

/-- The settings, and the specification that they make. -/
def configure (circumstances : Circumstances) (arguments : CommandLine.Arguments) :
    Except ConfigError (Settings × Spec) := do
  let settings ← settingsOf circumstances arguments
  let spec ← settings.toSpec.mapError .spec
  return (settings, spec)

/-- What runs the specification by the settings. -/
def provisionerOf (settings : Settings) : Provisioner where
  git := { program := settings.git, limit := settings.limit.map .real }
  installer := { command := settings.installer, limit := settings.limit.map .real }
  sink := .several [.logger none, .counter]

/-- What is logged before the run. -/
def configurationRecord (settings : Settings) (spec : Spec) : Log.Record where
  level := .info
  logger := logger
  message := "Provisioner configuration"
  fields := [("source_url", .text spec.source),
    ("revision", .text (spec.revision.getD "(unpinned)")),
    ("clone_path", .text spec.clonePath.toString), ("sub_tools", .texts spec.tools),
    ("installer", .text (" ".intercalate settings.installer)),
    ("step_timeout_seconds", (settings.limit.map Value.real).getD .null)]

/-- What is logged of a run that failed. -/
def failureRecord (failure : Failure) (cleanup : Option CleanupWarning) : Log.Record where
  level := .error
  logger := logger
  message := "Provisioning failed"
  fields := [("step", .text failure.step), ("error", .text failure.message)] ++
    (match failure with
      | .install tool _ => [("tool_path", .text tool)]
      | _ => []) ++
    (match cleanup with
      | some warning => [("cleanup_warning", .text warning.text)]
      | none => [])

/-- What is logged of a run that was called off. -/
def interruptedRecord : Log.Record where
  level := .warning
  logger := logger
  message := "Provisioning interrupted; workspace removed"

/-- What is logged of a complete run that left its workspace behind. -/
def leftRecord (warning : CleanupWarning) : Log.Record where
  level := .warning
  logger := logger
  message := "Provisioning succeeded but the workspace was not removed"
  fields := [("workspace", .text warning.path.toString), ("error", .text warning.cause)]

/-- What is logged of a complete run. -/
def completeRecord (report : Report) : Log.Record where
  level := .info
  logger := logger
  message := "Provisioning complete"
  fields := [("installed", .texts report.installed), ("fetched", .flag report.fetched),
    ("duration_seconds", .real (Decimal.rounded 2 report.duration))]

/-- Push the metrics to a gateway. That they cannot be pushed is logged and
changes nothing. -/
def push (gateway : String) : Act Unit := do
  Act.perform (.pushed gateway (← get).metrics.samples)
  match (← read).pushError with
  | none => Act.log {
      level := .debug
      logger := Sink.metricsLogger
      message := "Metrics pushed to gateway " ++ gateway }
  | some text => Act.log {
      level := .warning
      logger := Sink.metricsLogger
      message := "Failed to push metrics: " ++ text }

/-- Push the metrics if there is a gateway. -/
def pushIfSet (gateway : Option String) : Act Unit :=
  match gateway with
  | none => pure ()
  | some gateway => if gateway.isEmpty then pure () else push gateway

/-- End a session whose run is complete. -/
def conclude (report : Report) : Act Int := do
  match report.cleanup with
  | some warning =>
      Act.log (leftRecord warning)
      return CleanupWarning.exitCode
  | none =>
      Act.log (completeRecord report)
      return 0

/-- Run a specification with metrics of its own, push them, and tell what was done. -/
def provision (settings : Settings) (spec : Spec) : Act Int := do
  modify fun world => { world with metrics := {} }
  match ← Act.outcome ((provisionerOf settings).provision spec) with
  | .ok report =>
      pushIfSet settings.gateway
      conclude report
  | .error (.failed failure cleanup) =>
      Act.log (failureRecord failure cleanup)
      pushIfSet settings.gateway
      return failure.exitCode
  | .error (.cancelled _) =>
      Act.log interruptedRecord
      pushIfSet settings.gateway
      return interruptedCode
  | .error ending =>
      pushIfSet settings.gateway
      throw ending

/-- Log the settings and run the specification, at the level that is set. -/
def execute (settings : Settings) (spec : Spec) : Act Int :=
  withReader (fun host => { host with threshold := settings.level.rank }) do
    Act.log (configurationRecord settings spec)
    provision settings spec

def run (circumstances : Circumstances) (words : List String) : Act SessionEnd :=
  match CommandLine.read words with
  | .error stop => pure (.stopped stop)
  | .ok arguments =>
      match configure circumstances arguments with
      | .error error => pure (.misconfigured error)
      | .ok (settings, spec) => SessionEnd.exited <$> execute settings spec

end Session

namespace SessionEnd

def code : SessionEnd → Int
  | .stopped stop => stop.exitCode
  | .misconfigured _ => Session.misconfiguredCode
  | .exited code => code

end SessionEnd

end Toolset
