import Toolset.Log.Console
import Toolset.Session
import Toolset.Shell

/-!
# The program

The program rehearses a session: the programs that a run starts are those of the
machine of scripts, on a tree that holds nothing but the root of the workspaces.
What the run would log is printed, and its exit code is that of the session.
-/

namespace Toolset.Main

/-- The variables of the environment that matter: the home directory, where
programs are looked for, and the settings. -/
def variableNames : List String :=
  ["HOME", "PATH"] ++ Settings.names.map fun name =>
    Environment.settingStart ++ name.1.toUpper

/-- The place of a fault, as a path of names and numbers. -/
def placeText (place : List Place) : String :=
  ".".intercalate (place.map fun step => match step with
    | .name name => name
    | .index n => toString n)

/-- What is said of a fault. -/
def faultText (fault : Fault) : String :=
  placeText fault.place ++ "\n  " ++ fault.complaint.message ++
    " [type=" ++ fault.complaint.code ++ "]"

/-- What is said of a configuration that cannot be run. -/
def configErrorText : ConfigError → String
  | .words fault => fault.message
  | .settings (.unreadable name) => Settings.unreadableMessage name
  | .settings (.invalid faults) => "\n".intercalate (faults.map faultText)
  | .spec faults => "\n".intercalate (faults.map faultText)

/-- A record as it is printed. -/
def recordText (json : Bool) (record : Log.Record) : String :=
  let fields := record.rendered true
  if json then Value.Json.write (.record (Log.jsonFields fields)) ++ "\n"
  else Log.Console.line (Instant.ofUnix 0 0).text fields

/-- What is said of a session that ends with an error of its own. -/
def endingText (ending : Ending) : String :=
  ending.trouble.kind ++ ": " ++ ending.trouble.text ++ "\n"

/-- The machine on which a session is rehearsed. -/
def hostOf (environment : Environment) : Host where
  program := fun _ start tree => Shell.Machine.program { environment } start tree

def printLog (words : List String) (world : World) : IO Unit := do
  let errors ← IO.getStderr
  for record in world.log do
    errors.putStr (recordText (words.contains "--json-logs") record)

/-- Rehearse a session, print what it says, and hand over its exit code. -/
def session (circumstances : Circumstances) (words : List String) : IO UInt32 := do
  let errors ← IO.getStderr
  let tree := (FileTree.empty.makeDirectories .root circumstances.defaultRoot.names).1
  match (Session.run circumstances words).run (hostOf circumstances.environment) { tree } with
  | .ok ended world =>
      printLog words world
      match ended with
      | .stopped stop =>
          (← IO.getStdout).putStr stop.output
          errors.putStr stop.errors
      | .misconfigured error =>
          errors.putStrLn ("Invalid configuration:\n" ++ configErrorText error)
      | .exited _ => pure ()
      return UInt32.ofNat ended.code.toNat
  | .error ending world =>
      printLog words world
      errors.putStr (endingText ending)
      return 1

end Toolset.Main

/-- Read the environment and rehearse the session that the words ask for. -/
def main (words : List String) : IO UInt32 := do
  let found ← Toolset.Main.variableNames.filterMapM fun name => do
    return (← IO.getEnv name).map fun value => (name, value)
  Toolset.Main.session { environment := found } words
