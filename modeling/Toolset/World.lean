import Toolset.FileTree
import Toolset.Metrics
import Toolset.Report
import Toolset.Seconds

/-!
# The world of a run

A run acts on a tree of files, starts programs, reads a clock, and leaves a log,
events and metrics behind.  What it cannot decide is given by its host: what each
program does, how the clock ticks, whether a process group can be killed and a
tree be removed.  An action takes the host and the state of the world, and ends
with a value or with one of the endings below; the state it leaves is known in
both cases.
-/

namespace Toolset

/-- How work is called off. -/
inductive Cancellation where
  /-- The work itself is cancelled. -/
  | request
  /-- The program is told to terminate. -/
  | terminate
  /-- The program is interrupted at the keyboard. -/
  | interrupt
  deriving DecidableEq, Repr

/-- What breaks into a wait. -/
inductive Interruption where
  | timedOut
  | failed (error : SystemError)
  | cancelled (how : Cancellation)
  deriving DecidableEq, Repr

namespace Interruption

/-- Time ran out: by itself, or by the code of an error. -/
def isTimeout : Interruption → Bool
  | .timedOut => true
  | .failed error => error.isTimeout
  | .cancelled _ => false

end Interruption

/-- How a stream ends that does not just run out. -/
inductive Mishap where
  | breaks (interruption : Interruption)
  /-- Nothing more comes, and the stream stays open. -/
  | silence
  deriving DecidableEq, Repr

/-- What a process writes to one of its streams. -/
structure Stream where
  bytes : List UInt8
  mishap : Option Mishap := none
  deriving DecidableEq, Repr

/-- What a process does. -/
structure Process where
  /-- The changes it makes as long as the run attends to it, all as it starts. If one is
  refused, it has not started. -/
  changes : List Change := []
  /-- Its exit code, if it has one. -/
  code : Option Int := some 0
  output : Option Stream := some ⟨[], none⟩
  errors : Option Stream := some ⟨[], none⟩
  deriving DecidableEq, Repr

/-- The start of a program: its command, and the directory it works in. -/
structure Start where
  command : List String
  directory : Option Path
  /-- Whether it gets a session of its own, and with it a process group that can be
  killed as a whole. -/
  ownSession : Bool
  deriving DecidableEq, Repr

/-- What comes of a start. -/
inductive Behaviour where
  | refused (interruption : Interruption)
  | runs (process : Process)
  /-- The command or the directory holds a character that neither can hold. -/
  | nullCharacter
  deriving DecidableEq, Repr

/-- A program that was started, and what came of it. -/
structure Call where
  start : Start
  behaviour : Behaviour
  deriving DecidableEq, Repr

/-- What comes of killing a process group. -/
inductive KillAnswer where
  | killed
  | gone
  | denied
  deriving DecidableEq, Repr

/-- What a run cannot decide. -/
structure Host where
  /-- What comes of each start, by its number. -/
  program : Nat → Start → FileTree → Behaviour
  /-- By how much the clock moves on after each reading. -/
  tick : Nat → Float := fun _ => 1
  /-- When each event happens. -/
  moment : Nat → Instant := fun _ => default
  killing : KillAnswer := .killed
  /-- Why no tree can be removed, if that is so. -/
  removalError : Option String := none
  /-- What a removal leaves that breaks off for that reason. -/
  spared : Location → Bool := fun _ => true
  /-- The changes that processes make after the run, if any were left alone. -/
  lingering : List Change := []
  /-- Why metrics cannot be pushed, if that is so. -/
  pushError : Option String := none
  /-- The least level of the records that are made. -/
  threshold : Log.Threshold := Log.Level.debug.rank

/-- What a run did to the world outside, in order. -/
inductive Deed where
  | acquired (workspace : Path)
  | started (start : Start)
  | running (pid : Nat)
  /-- The end of a process was waited for together with its output. -/
  | collected (pid : Nat)
  | killed (pid : Nat)
  | waited (pid : Nat)
  | released (workspace : Path)
  | pushed (gateway : String) (samples : List Sample)
  deriving DecidableEq, Repr

/-- The deed is a start. -/
def Deed.isStart : Deed → Bool
  | .started _ => true
  | _ => false

/-- The processes that are alive after a deed, of those before. -/
def Deed.alive (pids : List Nat) : Deed → List Nat
  | .running pid => pid :: pids
  | .collected pid | .waited pid => pids.filter (· != pid)
  | _ => pids

/-- The processes that are alive after some deeds: they were started, and their
end was not awaited. -/
def alive (deeds : List Deed) : List Nat := deeds.foldl Deed.alive []

/-- The state of the world. -/
structure World where
  tree : FileTree := .empty
  time : Float := 0
  /-- How often the clock was read. -/
  readings : Nat := 0
  /-- The programs that were started, in order. -/
  calls : List Call := []
  /-- The events that were told, in order. -/
  told : List Event := []
  deeds : List Deed := []
  log : List Log.Record := []
  /-- The events that were recorded. -/
  heard : List Event := []
  metrics : Metrics := {}

/-- How an action ends that does not end with a value. -/
inductive Ending where
  /-- The run failed. -/
  | failed (failure : Failure) (cleanup : Option CleanupWarning)
  /-- An error of the system that nothing takes care of. -/
  | system (error : SystemError)
  /-- A line was longer than can be read; `ended` tells whether its end was
  seen. -/
  | overlong (ended : Bool)
  /-- A path holds a character that no path can hold. -/
  | nullCharacter
  /-- A limit is too large for the clock. -/
  | limitTooLarge
  /-- The work was called off. -/
  | cancelled (how : Cancellation)
  /-- Some other error. -/
  | raised (trouble : Log.Trouble)
  deriving DecidableEq, Repr

namespace Ending

/-- The work was called off, and nothing but the end of the work takes care of
that. -/
def isCancellation : Ending → Bool
  | .cancelled _ => true
  | _ => false

/-- What is said of a line that is too long. -/
def overlongMessage (ended : Bool) : String :=
  if ended then "Separator is found, but chunk is longer than limit"
  else "Separator is not found, and chunk exceed the limit"

/-- The kind and the text of an ending, as the log tells of it. -/
def trouble : Ending → Log.Trouble
  | .failed failure _ => ⟨failure.kind, failure.message⟩
  | .system error => ⟨"OSError", error.text⟩
  | .overlong ended => ⟨"ValueError", overlongMessage ended⟩
  | .nullCharacter => ⟨"ValueError", "embedded null byte"⟩
  | .limitTooLarge => ⟨"OverflowError", "int too large to convert to float"⟩
  | .cancelled _ => ⟨"CancelledError", ""⟩
  | .raised trouble => trouble

end Ending

abbrev Act (α : Type) := ReaderT Host (EStateM Ending World) α

namespace Act

def run {α : Type} (act : Act α) (host : Host) (world : World) : EStateM.Result Ending World α :=
  act host world

/-- Run an action and hand over how it ended. -/
def outcome {α : Type} (act : Act α) : Act (Except Ending α) := fun host world =>
  match act host world with
  | .ok a world => .ok (.ok a) world
  | .error ending world => .ok (.error ending) world

/-- End as an action ended before. -/
def resume {α : Type} : Except Ending α → Act α
  | .ok a => pure a
  | .error ending => throw ending

/-- Add a deed. -/
def perform (deed : Deed) : Act Unit :=
  modify fun world => { world with deeds := world.deeds ++ [deed] }

def log (record : Log.Record) : Act Unit := do
  if record.level.passes (← read).threshold then
    modify fun world => { world with log := world.log ++ [record] }

def clock : Act Float := do
  let world ← get
  set { world with
    time := world.time + (← read).tick world.readings, readings := world.readings + 1 }
  return world.time

/-- An answer about the tree, whose error ends the action. -/
def answer {α : Type} : Except SystemError α → Act α
  | .ok a => pure a
  | .error error => throw (.system error)

end Act

end Toolset
