import Toolset.World

/-!
# Starting and killing programs

Each program is started in a process group of its own, so that killing the group
stops all that the program started in turn.  After the killing the program is
waited for.  A process that is left alone goes on, and may change the tree after
the run that started it.
-/

namespace Toolset

/-- A process that is running. -/
structure Running where
  pid : Nat
  process : Process

/-- The number below all process numbers. -/
def pidBase : Nat := 1000

/-- The number of the process that was started last. -/
def lastPid (deeds : List Deed) : Nat := pidBase + (deeds.filter Deed.isStart).length

/-- What comes of a start on a tree: the process makes its changes, and has not
started if one of them is refused. -/
def Behaviour.settle (tree : FileTree) : Behaviour → FileTree × Behaviour
  | .runs process =>
      match tree.applyAll process.changes with
      | (tree, none) => (tree, .runs process)
      | (tree, some error) => (tree, .refused (.failed error))
  | behaviour => (tree, behaviour)

/-- Start a program. -/
def launch (start : Start) : Act (Except Interruption Running) := do
  let world ← get
  let answer := (← read).program world.calls.length start world.tree
  let (tree, behaviour) := answer.settle world.tree
  let call : Call := { start, behaviour }
  set { world with tree, calls := world.calls ++ [call] }
  Act.perform (.started start)
  match behaviour with
  | .refused interruption => return .error interruption
  | .nullCharacter => throw .nullCharacter
  | .runs process =>
      let pid := lastPid (← get).deeds
      Act.perform (.running pid)
      return .ok { pid, process }

def killLogger : String := "src.provisioning.runner.process"

/-- What is logged when a process group may not be killed. -/
def deniedRecord (pid : Nat) : Log.Record where
  level := .warning
  logger := killLogger
  message := "Failed to kill process group " ++ toString pid ++ ": " ++
    (SystemError.coded 1 "Operation not permitted" []).text

def kill (pid : Nat) : Act Unit := do
  Act.perform (.killed pid)
  if (← read).killing = .denied then Act.log (deniedRecord pid)
  Act.perform (.waited pid)

/-- The world when the next run begins: what was left alone has made its changes by then. If
no process is alive, nothing has changed. -/
def World.linger (world : World) (changes : List Change) : World :=
  if alive world.deeds = [] then world
  else { world with tree := (world.tree.applyAll changes).1 }

end Toolset
