import Toolset.Launch
import Toolset.Text.Blank
import Toolset.Text.Utf8

/-!
# Fetching a source

The source is cloned with git.  Without a revision the tip of the default branch
is cloned and nothing more.  With one, everything is cloned without a checkout,
the revision is resolved to a commit, first as it is and then as a branch of the
remote, and the commit is checked out.
-/

namespace Toolset

/-- How git is run. -/
structure Git where
  /-- The program. -/
  program : String := "git"
  /-- The limit of each command. -/
  limit : Option Seconds := none

namespace Git

def logger : String := "src.provisioning.provisioner.fetch"

/-- The name of the remote that a clone is made from. -/
def remote : String := "origin"

/-- The command that arguments ask for. -/
def subcommand? : List String → Option String
  | "-C" :: _ :: command :: _ => some command
  | command :: _ => some command
  | [] => none

/-- What a command answered. -/
structure Answer where
  code : Option Int
  output : String
  errors : String
  deriving DecidableEq, Repr

def Answer.succeeded (answer : Answer) : Bool := answer.code == some 0

def wholeText : Option Stream → String
  | none => ""
  | some stream => Text.decodeText stream.bytes

/-- How the wait for a process comes out. -/
inductive Wait where
  | done
  | timedOut
  | failed (error : SystemError)
  | tooLarge
  | cancelled (how : Cancellation)
  deriving DecidableEq, Repr

/-- How the wait for a process comes out under a limit. Silence without a limit
lasts until the work is called off. -/
def wait (limit : Option Seconds) (mishap : Option Mishap) : Wait :=
  if limit.any Seconds.isOver then .timedOut
  else if limit.any Seconds.isTooLarge then .tooLarge
  else
    match mishap with
    | none => .done
    | some (.breaks (.cancelled how)) => .cancelled how
    | some (.breaks .timedOut) => .timedOut
    | some (.breaks (.failed error)) => if error.isTimeout then .timedOut else .failed error
    | some .silence => if limit.isNone then .cancelled .request else .timedOut

def fail {α : Type} (source cause : String) : Act α := throw (.failed (.fetch source cause) none)

/-- What is said of a program that could not be started. -/
def startMessage (interruption : Interruption) : String :=
  "Failed to execute git: " ++
    match interruption with
    | .failed error => error.text
    | _ => ""

/-- What is said of a command that took too long. -/
def timeoutMessage (arguments : List String) (limit : Option Seconds) : String :=
  "git " ++ (subcommand? arguments).getD "" ++ " timed out after " ++ Seconds.shown limit ++ "s"

/-- How the wait for a process comes out. -/
def verdict (git : Git) (process : Process) : Wait :=
  wait git.limit (process.output.bind Stream.mishap)

/-- Await the end of a process, and kill it if the wait is over before. -/
def await (git : Git) (source : String) (arguments : List String) (running : Running) :
    Act Answer :=
  match git.verdict running.process with
  | .done => do
      Act.perform (.collected running.pid)
      return {
        code := running.process.code
        output := wholeText running.process.output
        errors := wholeText running.process.errors }
  | .timedOut => do
      kill running.pid
      fail source (timeoutMessage arguments git.limit)
  | .cancelled how => do
      kill running.pid
      throw (.cancelled how)
  | .failed error => throw (.system error)
  | .tooLarge => throw .limitTooLarge

def start (git : Git) (arguments : List String) : Start :=
  { command := git.program :: arguments, directory := none, ownSession := true }

/-- What is logged before a command. -/
def startRecord (start : Start) : Log.Record where
  level := .debug
  logger := logger
  message := "Running " ++ " ".intercalate start.command

/-- Run a command to its end. -/
def execute (git : Git) (source : String) (arguments : List String) : Act Answer := do
  Act.log (startRecord (git.start arguments))
  match ← launch (git.start arguments) with
  | .error (.cancelled how) => throw (.cancelled how)
  | .error interruption => fail source (startMessage interruption)
  | .ok running => git.await source arguments running

/-- What is said of a command that failed: what it said itself, or its code. -/
def failureMessage (answer : Answer) : String :=
  let said := Text.strip answer.errors
  if said.isEmpty then
    "git exited with " ++ (match answer.code with
      | none => Value.null.display
      | some code => toString code)
  else said

def succeed (git : Git) (source : String) (arguments : List String) : Act Unit := do
  let answer ← git.execute source arguments
  if answer.succeeded then return else fail source (failureMessage answer)

/-- The names under which a revision is looked for. A fresh clone has a branch
of its own only for the default branch; others are branches of the remote. -/
def candidates (revision : String) : List String := [revision, remote ++ "/" ++ revision]

def resolveCommand (target : Path) (name : String) : List String :=
  ["-C", target.toString, "rev-parse", "--verify", "--quiet", name ++ "^\x7bcommit\x7d"]

/-- The commit of the first name that has one. -/
def resolve (git : Git) (source : String) (target : Path) (revision : String) :
    List String → Act String
  | [] => fail source ("revision " ++ Text.quoted revision ++ " not found")
  | name :: others => do
      let answer ← git.execute source (resolveCommand target name)
      let commit := Text.strip answer.output
      if answer.succeeded && !commit.isEmpty then return commit
      else git.resolve source target revision others

/-- What is logged before the fetch of a source without a revision. -/
def unpinnedRecord (source : String) : Log.Record where
  level := .warning
  logger := logger
  message := "Fetching unpinned source; the default branch tip will be used"
  fields := [("source_url", .text source)]

/-- What is logged after a fetch. -/
def fetchedRecord (source : String) (target : Path) (revision commit : Option String) :
    Log.Record where
  level := .info
  logger := logger
  message := "Fetched source"
  fields := [("source_url", .text source), ("target", .text target.toString),
    ("revision", .optional revision), ("commit", .optional commit)]

/-- The command that clones the tip of the default branch. -/
def cloneTipCommand (source : String) (target : Path) : List String :=
  ["clone", "--depth", "1", source, target.toString]

/-- The command that clones everything without a checkout. -/
def cloneAllCommand (source : String) (target : Path) : List String :=
  ["clone", "--no-checkout", source, target.toString]

def checkoutCommand (target : Path) (commit : String) : List String :=
  ["-C", target.toString, "checkout", "--detach", commit]

/-- Fetch a source into a directory that does not exist yet. -/
def fetch (git : Git) (source : String) (target : Path) (revision : Option String) :
    Act Unit := do
  match revision with
  | none =>
      Act.log (unpinnedRecord source)
      git.succeed source (cloneTipCommand source target)
      Act.log (fetchedRecord source target none none)
  | some revision =>
      git.succeed source (cloneAllCommand source target)
      let commit ← git.resolve source target revision (candidates revision)
      git.succeed source (checkoutCommand target commit)
      Act.log (fetchedRecord source target (some revision) (some commit))

end Git

end Toolset
