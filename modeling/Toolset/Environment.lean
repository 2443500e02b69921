import Toolset.Path
import Toolset.Text.Letter

/-!
# The environment

Settings are read from variables whose names start with `PROVISION_`, in any
case; of several spellings of one name the last counts.  The workspace is kept
in the home directory, if that is an absolute path, and else in the directory
for what need not last, whatever path that is.
-/

namespace Toolset

abbrev Environment := List (String × String)

namespace Environment

/-- The last value under a name that passes the test. -/
def find? (environment : Environment) (isMeant : String → Bool) : Option String :=
  (environment.reverse.find? fun entry => isMeant entry.1).map (·.2)

def settingStart : String := "PROVISION_"

/-- How settings are found in the environment. -/
structure Reading where
  /-- The start of the names of variables. -/
  start : String := settingStart
  /-- The case of the names of variables counts. -/
  exact : Bool := false
  /-- A variable that holds an empty text counts as absent. -/
  skipsEmpty : Bool := false
  /-- The text that stands for nothing. -/
  nothing : Option String := none
  /-- What comes between the name of a list and the name of a part of it. -/
  separator : Option String := none

/-- The name of a variable as names are compared. -/
def Reading.fold (reading : Reading) (name : String) : String :=
  if reading.exact then name else Text.smalls name

/-- The name of the variable of a setting, as names are compared. -/
def Reading.variableOf (reading : Reading) (name : String) : String :=
  reading.fold (reading.start ++ name)

def counted (environment : Environment) (reading : Reading) : Environment :=
  environment.filter fun entry => !(reading.skipsEmpty && entry.2.isEmpty)

def setting? (environment : Environment) (reading : Reading) (name : String) : Option String :=
  (environment.counted reading).find? fun given => reading.fold given == reading.variableOf name

/-- Whether a part of a setting is given by a variable of its own. -/
def hasPart (environment : Environment) (reading : Reading) (name : String) : Bool :=
  match reading.separator with
  | none => false
  | some separator =>
      let start := reading.variableOf name ++ separator
      (environment.counted reading).any fun entry =>
        start.toList.isPrefixOf (reading.fold entry.1).toList

/-- Where what need not last is kept if nothing says otherwise. -/
def usualTemporary : String := "/tmp"

/-- Where workspaces are kept: the home directory, or the temporary one. Only the former is
asked to be absolute. -/
def defaultRoot (environment : Environment) (temporary : String := usualTemporary) : Path :=
  match environment.find? (· == "HOME") with
  | none => Path.ofString temporary
  | some home =>
      if (Path.ofString home).isAbsolute then Path.ofString home else Path.ofString temporary

end Environment

/-- What a session finds. -/
structure Circumstances where
  environment : Environment := []
  /-- The directory that the system keeps for what need not last. It may be the one that
  the program is run in, and is then given as `.`. -/
  temporary : String := Environment.usualTemporary
  deriving DecidableEq, Repr

namespace Circumstances

/-- Variables alone stand for circumstances in which the temporary directory is the usual
one. -/
instance : Coe Environment Circumstances := ⟨fun environment => { environment }⟩

def defaultRoot (circumstances : Circumstances) : Path :=
  circumstances.environment.defaultRoot circumstances.temporary

end Circumstances

end Toolset
