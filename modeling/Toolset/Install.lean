import Toolset.Decimal.Fixed
import Toolset.Launch
import Toolset.Text.Blank
import Toolset.Text.Line
import Toolset.Text.Utf8

/-!
# Installing a tool

The installer is run with the directory of the tool as its last argument.  Both
of its streams are read line by line and logged as they come.  A result tells
how the installer ended; a limit that passes and an error of the system make a
result of their own kind, and a line that is too long ends the reading.
-/

namespace Toolset

/-- How one installation ended. -/
structure InstallResult where
  /-- The tool is installed. -/
  success : Bool
  /-- The exit code; `-1` where there is none. -/
  code : Int
  output : String
  errors : String
  /-- How long it took, in seconds. -/
  duration : Float
  deriving DecidableEq, Repr

namespace InstallResult

/-- The last line that is not blank, or what is said of the exit code. -/
def reason (errors : String) (code : Int) : String :=
  match ((Text.lines errors.toList).filter fun line => !line.all Text.isBlank).getLast? with
  | some line => String.ofList (Text.trim line)
  | none => "installer exited with code " ++ toString code

/-- Why the installation failed. -/
def failureReason (result : InstallResult) : String := reason result.errors result.code

end InstallResult

/-- How the installer is run. -/
structure Installer where
  /-- The command, which is not empty. -/
  command : List String
  /-- The limit of each installation. -/
  limit : Option Seconds := none

namespace Installer

/-- What is said of an empty command. -/
def emptyMessage : String := "installer command cannot be empty"

/-- An installer with a command that is not empty. -/
def make? (command : List String) (limit : Option Seconds) : Option Installer :=
  if command.isEmpty then none else some { command, limit }

def logger : String := "src.provisioning.runner.installer"

/-- The most bytes of a line. -/
def longestLine : Nat := 65536

/-- Cut bytes into lines, without the line feeds. A line that is too long ends
the cutting; `some true` tells that its end was seen. `begun` holds the line
begun, last byte first. -/
def cutFrom (begun : List UInt8) : List UInt8 → List (List UInt8) × Option Bool
  | [] =>
      if begun.isEmpty then ([], none)
      else if longestLine < begun.length then ([], some false)
      else ([begun.reverse], none)
  | byte :: rest =>
      if byte = 10 then
        if longestLine < begun.length then ([], some true)
        else
          let (lines, overlong) := cutFrom [] rest
          (begun.reverse :: lines, overlong)
      else cutFrom (byte :: begun) rest

/-- What ends the reading of the streams before they run out. -/
inductive Break where
  | interrupted (interruption : Interruption)
  | overlong (ended : Bool)
  | silence
  deriving DecidableEq, Repr

/-- What is read from a stream: its lines, and what ends the reading early. -/
structure Reading where
  lines : List String
  ended : Option Break
  deriving DecidableEq, Repr

/-- What ends the reading of a stream whose bytes are all read. -/
def breakOf : Mishap → Break
  | .breaks interruption => .interrupted interruption
  | .silence => .silence

/-- Read a stream; one that is not there has no lines. -/
def read : Option Stream → Reading
  | none => ⟨[], none⟩
  | some stream =>
      match cutFrom [] stream.bytes with
      | (lines, some ended) => ⟨lines.map Text.decodeText, some (.overlong ended)⟩
      | (lines, none) => ⟨lines.map Text.decodeText, stream.mishap.map breakOf⟩

namespace Break

/-- The reading itself fails, or is cancelled from within. -/
def isError : Break → Bool
  | .overlong _ => true
  | .interrupted (.cancelled how) => how == .request
  | .interrupted _ => true
  | .silence => false

/-- The break asks from outside to stop, in a given way. -/
def asks (how : Cancellation) : Break → Bool
  | .interrupted (.cancelled asked) => asked == how && how != .request
  | _ => false

end Break

/-- How the wait for an installer comes out. -/
inductive Wait where
  | done
  | timedOut
  | failed (error : SystemError)
  | overlong (ended : Bool)
  | tooLarge
  | cancelled (how : Cancellation)
  /-- A second interruption leaves no time for anything. -/
  | abandoned
  deriving DecidableEq, Repr

/-- How the wait comes out if the reading fails in a given way. -/
def waitOfError : Break → Wait
  | .overlong ended => .overlong ended
  | .interrupted (.failed error) => if error.isTimeout then .timedOut else .failed error
  | .interrupted .timedOut => .timedOut
  | .interrupted (.cancelled how) => .cancelled how
  | .silence => .timedOut

/-- What breaks into the reading of both streams. -/
structure Breaks where
  output : Option Break
  errors : Option Break

namespace Breaks

/-- One of the breaks passes a test. -/
def any (breaks : Breaks) (passes : Break → Bool) : Bool :=
  breaks.output.any passes || breaks.errors.any passes

def asks (breaks : Breaks) (how : Cancellation) : Bool := breaks.any (·.asks how)

/-- A stream stays open. -/
def isSilent (breaks : Breaks) : Bool := breaks.any (· == .silence)

/-- The failure that counts: that of the output comes first. -/
def error? (breaks : Breaks) : Option Break :=
  (breaks.output.filter Break.isError).or (breaks.errors.filter Break.isError)

/-- The wait without a limit. An interruption of the output is felt before the
errors are read. An interruption that comes after a failure is too late, unless
the failure is a cancellation; a termination comes last, but the killing after a
timeout leaves time for it. -/
def waitForever (breaks : Breaks) : Wait :=
  if breaks.output.any (·.asks .interrupt) then .cancelled .interrupt
  else
    match breaks.error?.map waitOfError with
    | some (.cancelled how) =>
        .cancelled (if breaks.asks .interrupt then .interrupt else how)
    | some .timedOut => if breaks.asks .terminate then .cancelled .terminate else .timedOut
    | some wait => wait
    | none =>
        if breaks.asks .terminate then .cancelled .terminate
        else if breaks.asks .interrupt then .cancelled .interrupt
        else if breaks.isSilent then .cancelled .request
        else .done

/-- The wait if it was interrupted, which wins over all else. -/
def waitInterrupted? (breaks : Breaks) : Option Wait :=
  if !breaks.asks .interrupt then none
  else if breaks.asks .terminate then some (.cancelled .terminate)
  else if breaks.output.any (·.asks .interrupt) && breaks.errors.any (·.asks .interrupt) then
    some .abandoned
  else some (.cancelled .interrupt)

/-- The wait under a limit that leaves time for the reading. A failure comes
before a termination. -/
def waitUnderLimit (breaks : Breaks) : Wait :=
  match breaks.waitInterrupted?, breaks.error? with
  | some wait, _ => wait
  | none, some error => waitOfError error
  | none, none =>
      if breaks.asks .terminate then .cancelled .terminate
      else if breaks.isSilent then .timedOut
      else .done

/-- The wait under a limit that passes as soon as both streams are read. Only if
one of them stays open, a failure of the other is still felt. -/
def waitAtOnce (breaks : Breaks) : Wait :=
  match breaks.waitInterrupted? with
  | some wait => wait
  | none =>
      if breaks.asks .terminate then .cancelled .terminate
      else if !breaks.isSilent then .timedOut
      else
        match breaks.error?.map waitOfError with
        | some (.cancelled _) => .timedOut
        | some wait => wait
        | none => .timedOut

end Breaks

def wait (limit : Option Seconds) (breaks : Breaks) : Wait :=
  match limit with
  | none => breaks.waitForever
  | some limit => if limit.isMomentary then breaks.waitAtOnce else breaks.waitUnderLimit

/-- The errors are read, unless the reading of the output was interrupted with no
limit set. -/
def readsErrors (limit : Option Seconds) (breaks : Breaks) : Bool :=
  limit.isSome || !breaks.output.any (·.asks .interrupt)

/-- What is logged of a line. -/
def lineRecord (stream line : String) : Log.Record where
  level := .debug
  logger := logger
  message := "installer " ++ stream ++ ": " ++ line

def logLines (stream : String) : List String → Act Unit
  | [] => pure ()
  | line :: rest => do
      Act.log (lineRecord stream line)
      logLines stream rest

/-- Read both streams of a process under a limit. Under a limit that is over
nothing is read. -/
def collect (limit : Option Seconds) (process : Process) : Act Wait := do
  if limit.any Seconds.isOver then return .timedOut
  else if limit.any Seconds.isTooLarge then return .tooLarge
  else
    let output := read process.output
    let errors := read process.errors
    let breaks : Breaks := ⟨output.ended, errors.ended⟩
    logLines "stdout" output.lines
    if readsErrors limit breaks then logLines "stderr" errors.lines
    return wait limit breaks

/-- Lines as one text. -/
def joined (reading : Reading) : String := "\n".intercalate reading.lines

/-- What is logged before an installation. -/
def startRecord (installer : Installer) (tool : Path) : Log.Record where
  level := .info
  logger := logger
  message := "Starting installer"
  fields := [("tool_path", .text tool.toString),
    ("command", .text (" ".intercalate installer.command)),
    ("timeout", Seconds.optional installer.limit)]

/-- What is said when the limit has passed. -/
def timeoutMessage (limit : Option Seconds) : String :=
  "Installer timed out after " ++ Seconds.shown limit ++ "s"

/-- What is said of an error of the system. -/
def errorMessage (error : SystemError) : String := "Failed to start installer: " ++ error.text

/-- The result of an installation that has no exit code. -/
def without (message : String) (duration : Float) : InstallResult :=
  { success := false, code := -1, output := "", errors := message, duration }

/-- Log a message of trouble, after the clock was read, and make it the
result. -/
def giveUp (message : String) (started : Float) : Act InstallResult := do
  let duration := (← Act.clock) - started
  Act.log { level := .error, logger, message }
  return without message duration

/-- What is logged of an installation that ended by itself. -/
def endRecord (tool : Path) (result : InstallResult) : Log.Record :=
  let time := Decimal.fixed 1 result.duration ++ "s"
  if result.success then {
    level := .info
    logger
    message := "Installed " ++ tool.toString ++ " in " ++ time }
  else {
    level := .error
    logger
    message := "Installer failed for " ++ tool.toString ++ " with exit code " ++
      toString result.code ++ " in " ++ time }

/-- The result of a process that ended by itself. A process without an exit
code succeeded. -/
def finish (tool : Path) (process : Process) (started : Float) : Act InstallResult := do
  let duration := (← Act.clock) - started
  let code := process.code.getD 0
  let result : InstallResult := {
    success := code == 0
    code
    output := joined (read process.output)
    errors := joined (read process.errors)
    duration }
  Act.log (endRecord tool result)
  return result

/-- Await the end of a process, and kill it if the wait is called off or takes too
long. -/
def await (installer : Installer) (tool : Path) (started : Float) (running : Running) :
    Act InstallResult := do
  match ← collect installer.limit running.process with
  | .done =>
      Act.perform (.waited running.pid)
      finish tool running.process started
  | .timedOut =>
      kill running.pid
      giveUp (timeoutMessage installer.limit) started
  | .cancelled how =>
      kill running.pid
      throw (.cancelled how)
  | .abandoned => throw (.cancelled .interrupt)
  | .failed error => giveUp (errorMessage error) started
  | .overlong ended => throw (.overlong ended)
  | .tooLarge => throw .limitTooLarge

def start (installer : Installer) (tool : Path) (directory : Option Path) : Start :=
  { command := installer.command ++ [tool.toString], directory, ownSession := true }

/-- What comes of an installer that does not start. -/
def refuse (installer : Installer) (started : Float) : Interruption → Act InstallResult
  | .cancelled how => throw (.cancelled how)
  | .timedOut => giveUp (timeoutMessage installer.limit) started
  | .failed error =>
      giveUp
        (if error.isTimeout then timeoutMessage installer.limit else errorMessage error) started

/-- Install a tool. -/
def run (installer : Installer) (tool : Path) (directory : Option Path) : Act InstallResult := do
  let started ← Act.clock
  Act.log (installer.startRecord tool)
  match ← launch (installer.start tool directory) with
  | .error interruption => installer.refuse started interruption
  | .ok running => installer.await tool started running

end Installer

end Toolset
