import Toolset.CloneName
import Toolset.Environment
import Toolset.Spec
import Toolset.Value.Json

/-!
# Settings

Each setting is taken from the values given for the run, else from the
environment, else it has a default.  Lists in the environment are written in
JSON, everything else as it is.  A list that cannot be read ends the reading at
once; the faults of values are collected.
-/

namespace Toolset

/-- The settings of the program. -/
structure Settings where
  source : String
  revision : Option String
  cloneName : Option String
  tools : List String
  root : Path
  git : String
  installer : List String
  limit : Option Float
  gateway : Option String
  level : Log.Level
  jsonLogs : Bool
  deriving DecidableEq, Repr

namespace Settings

/-- Why there are no settings. -/
inductive Refusal where
  /-- The list of this name in the environment is no JSON. -/
  | unreadable (name : String)
  /-- Values are wrong. -/
  | invalid (faults : List Fault)
  deriving DecidableEq, Repr

/-- What is said of a list that cannot be read. -/
def unreadableMessage (name : String) : String :=
  "error parsing value for field \"" ++ name ++ "\" from source \"EnvSettingsSource\""

/-- The names of the settings in order, and whether each is a list. -/
def names : List (String × Bool) :=
  [("source_url", false), ("revision", false), ("clone_name", false), ("sub_tools", true),
   ("workspace_root", false), ("git_path", false), ("installer_command", true),
   ("step_timeout_seconds", false), ("metrics_gateway_url", false), ("log_level", false),
   ("json_logs", false)]

/-- The installer that is used when none is set. -/
def defaultInstaller : List String := ["cargo", "install", "--force", "--path"]

/-- The value of one setting in the environment. A list that is written as
nothing counts as absent, and one given in parts is no list. -/
def fromVariable (environment : Environment) (reading : Environment.Reading) (name : String)
    (isList : Bool) : Except Refusal (List Field) :=
  match environment.setting? reading name with
  | none => .ok (if isList && environment.hasPart reading name then [(name, .record [])] else [])
  | some s =>
      if reading.nothing == some s then .ok [(name, .null)]
      else if isList then
        match Value.Json.read? s with
        | none => .error (.unreadable name)
        | some .null => .ok []
        | some value => .ok [(name, value)]
      else .ok [(name, .text s)]

/-- The values of all settings in the environment. -/
def fromVariables (environment : Environment) (reading : Environment.Reading) :
    List (String × Bool) → Except Refusal (List Field)
  | [] => .ok []
  | (name, isList) :: rest => do
      let first ← fromVariable environment reading name isList
      let others ← fromVariables environment reading rest
      return first ++ others

/-- The names of values that are no settings, but may say how settings are
read. -/
def readingNames : List String :=
  ["_case_sensitive", "_nested_model_default_partial_update", "_env_prefix", "_env_file",
   "_env_file_encoding", "_env_ignore_empty", "_env_nested_delimiter", "_env_nested_max_split",
   "_env_parse_none_str", "_env_parse_enums", "_cli_prog_name", "_cli_parse_args",
   "_cli_settings_source", "_cli_parse_none_str", "_cli_hide_none_type", "_cli_avoid_json",
   "_cli_enforce_required", "_cli_use_class_docs_for_groups", "_cli_exit_on_error", "_cli_prefix",
   "_cli_flag_prefix_char", "_cli_implicit_flags", "_cli_ignore_unknown_args", "_cli_kebab_case",
   "_cli_shortcuts", "_secrets_dir", "_build_sources"]

/-- The text of a name among values. -/
def textOf? (fields : List Field) (name : String) : Option String :=
  match field? fields name with
  | some (.text s) => some s
  | _ => none

/-- How the values given say that settings are read. -/
def readingOf (overrides : List Field) : Environment.Reading where
  start := (textOf? overrides "_env_prefix").getD Environment.settingStart
  exact := (field? overrides "_case_sensitive").any Value.truth
  skipsEmpty := (field? overrides "_env_ignore_empty").any Value.truth
  nothing := textOf? overrides "_env_parse_none_str"
  separator := (textOf? overrides "_env_nested_delimiter").filter fun s => !s.isEmpty

/-- The values that are given: those that are not nothing. -/
def given (overrides : List Field) : List Field :=
  overrides.filter fun field => match field.2 with
    | .null => false
    | _ => true

/-- A limit in seconds: a number above zero. A number that is not comparable
with zero passes. -/
def limitRule (x : Float) : Checked (Option Float) :=
  if x ≤ 0 then Checked.reject (.broken .limitNotPositive) else .ok (some x)

/-- A number, or a text that is read as one. -/
def checkNumber : Value → Checked Float
  | .real x => .ok x
  | .whole n =>
      match Decimal.ofWhole? n with
      | some x => .ok x
      | none => Checked.reject .numberExpected
  | .flag b => .ok (if b then 1 else 0)
  | .text s =>
      match Decimal.settingNumber? s with
      | some x => .ok x
      | none => Checked.reject .numberUnreadable
  | _ => Checked.reject .numberExpected

/-- The limit of a step. -/
def checkLimit : Value → Checked (Option Float)
  | .null => .ok none
  | value => do limitRule (← checkNumber value)

/-- The texts that say yes or no, in small letters. -/
def flagWords : List (String × Bool) :=
  [("1", true), ("on", true), ("t", true), ("true", true), ("y", true), ("yes", true),
   ("0", false), ("off", false), ("f", false), ("false", false), ("n", false), ("no", false)]

/-- A number without a fraction, of at most sixty-three bits. -/
def isShortWhole (x : Float) : Bool :=
  x == x.floor && -9223372036854775808 < x && x < 9223372036854775808

/-- Yes or no. -/
def checkFlag : Value → Checked Bool
  | .flag b => .ok b
  | .whole n =>
      if n = 0 then .ok false else if n = 1 then .ok true
      else if n < -9223372036854775808 ∨ 9223372036854775807 < n then Checked.reject .flagExpected
      else Checked.reject .flagUnreadable
  | .real x =>
      if x == 0 then .ok false else if x == 1 then .ok true
      else if isShortWhole x then Checked.reject .flagUnreadable
      else Checked.reject .flagExpected
  | .text s =>
      match flagWords.lookup (String.ofList (s.toList.map Char.toLower)) with
      | some b => .ok b
      | none => Checked.reject .flagUnreadable
  | _ => Checked.reject .flagExpected

/-- The installer: a list of texts whose first is not blank. -/
def checkInstaller (value : Value) : Checked (List String) := do
  match ← checkTexts .listExpected value with
  | [] => Checked.reject (.broken .installerEmpty)
  | name :: arguments =>
      if Text.isBlankText name then Checked.reject (.broken .installerEmpty)
      else .ok (name :: arguments)

/-- The level of the log, in any case. -/
def checkLevel (value : Value) : Checked Log.Level := do
  match Log.Level.ofName? (Text.capitals (← checkText value)) with
  | some level => .ok level
  | none => Checked.reject (.broken .levelUnknown)

/-- The source: a text that is not blank. -/
def checkSource (value : Value) : Checked String := do
  sourceRule (← checkText value)

/-- Values under a name that is no setting. -/
def unknown (overrides : List Field) : Checked Unit :=
  match overrides.filter fun field => (names.lookup field.1).isNone with
  | [] => .ok ()
  | fields => .error (fields.map fun field => ⟨[.name field.1], .unknownName⟩)

/-- Check the values of all settings, given the default of the workspace
root. -/
def check (root : Path) (fields : List Field) : Checked Settings :=
  ((((((((((Checked.also (.ok Settings.mk)
    (Checked.field fields "source_url" none checkSource)).also
    (Checked.field fields "revision" (some none) checkOptionalText)).also
    (Checked.field fields "clone_name" (some none) checkOptionalText)).also
    (Checked.field fields "sub_tools" (some []) (checkTexts .listExpected))).also
    (Checked.field fields "workspace_root" (some root) checkAbsolutePath)).also
    (Checked.field fields "git_path" (some "git") checkText)).also
    (Checked.field fields "installer_command" (some defaultInstaller) checkInstaller)).also
    (Checked.field fields "step_timeout_seconds" (some none) checkLimit)).also
    (Checked.field fields "metrics_gateway_url" (some none) checkOptionalText)).also
    (Checked.field fields "log_level" (some .info) checkLevel)).also
    (Checked.field fields "json_logs" (some false) checkFlag)

/-- Read the settings from the environment and from the values given, which
win. -/
def read (circumstances : Circumstances) (overrides : List Field) : Except Refusal Settings := do
  let overrides := given overrides
  let set ← fromVariables circumstances.environment (readingOf overrides) names
  let overrides := overrides.filter fun field => !readingNames.contains field.1
  let settings := check circumstances.defaultRoot (overrides ++ set)
  match (Checked.also (.ok fun settings _ => settings) settings).also (unknown overrides) with
  | .ok settings => .ok settings
  | .error faults => .error (.invalid faults)

/-- The name of the clone: as set, unless that is empty, else that of the
source. -/
def chosenCloneName (settings : Settings) : String :=
  match settings.cloneName with
  | none => CloneName.ofSource settings.source
  | some name => if name.isEmpty then CloneName.ofSource settings.source else name

/-- What a run shall do by these settings. -/
def toSpec (settings : Settings) : Checked Spec :=
  Spec.ofFields
    [("source_url", .text settings.source), ("local_clone_name", .text settings.chosenCloneName),
     ("sub_tool_paths", .texts settings.tools), ("workspace_root", .text settings.root.toString),
     ("revision", .optional settings.revision)]

end Settings

end Toolset
