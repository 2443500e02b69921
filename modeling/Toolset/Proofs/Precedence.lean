import Toolset.Proofs.Entries
import Toolset.Session

/-!
# Values of the command line and of the environment

An option that is given leaves its variable in the environment without influence, with two
exceptions.  A list among the variables that cannot be read ends the reading of the
settings, even if the list was given on the command line as well; and an installer that is
given as an empty text counts as not given.
-/

namespace Toolset

namespace Environment

/-- The environments differ at most in the variable of one setting, in all its spellings. -/
def AgreeExcept (name : String) (first second : Environment) : Prop :=
  let isOther (entry : String × String) : Bool :=
    ({} : Reading).fold entry.1 != ({} : Reading).variableOf name
  first.filter isOther = second.filter isOther

variable {first second : Environment} {name : String}

theorem find?_eq_of_agreeExcept (agree : AgreeExcept name first second) {isMeant : String → Bool}
    (isOther : ∀ key, isMeant key = true →
      ({} : Reading).fold key ≠ ({} : Reading).variableOf name) :
    first.find? isMeant = second.find? isMeant := by
  have thinned (environment : Environment) :
      environment.find? isMeant = Environment.find? (environment.filter fun entry =>
        ({} : Reading).fold entry.1 != ({} : Reading).variableOf name) isMeant := by
    have isKept : (fun entry : String × String => isMeant entry.1) = fun entry =>
        decide ((({} : Reading).fold entry.1 != ({} : Reading).variableOf name) = true ∧
          isMeant entry.1 = true) := by
      funext entry
      cases meant : isMeant entry.1 with
      | false => simp
      | true => simp [isOther entry.1 meant]
    rw [find?, find?, ← List.filter_reverse, List.find?_filter, ← isKept]
  have same : List.filter _ first = List.filter _ second := agree
  rw [thinned first, thinned second, same]

theorem setting?_eq_of_agreeExcept (agree : AgreeExcept name first second) {other : String}
    (isOther : ({} : Reading).variableOf other ≠ ({} : Reading).variableOf name) :
    first.setting? {} other = second.setting? {} other := by
  have whole (environment : Environment) : environment.counted {} = environment :=
    List.filter_eq_self.2 fun _ _ => rfl
  rw [setting?, setting?, whole, whole]
  refine find?_eq_of_agreeExcept agree fun key meant => ?_
  rw [eq_of_beq meant]
  exact isOther

end Environment

namespace Circumstances

variable {first second : Circumstances} {name : String}

/-- Circumstances that differ at most in the variable of one setting. -/
structure AgreeExcept (name : String) (first second : Circumstances) : Prop where
  environment : first.environment.AgreeExcept name second.environment
  temporary : first.temporary = second.temporary

theorem AgreeExcept.defaultRoot_eq (agree : AgreeExcept name first second)
    (isOther : ({} : Environment.Reading).fold "HOME" ≠
      ({} : Environment.Reading).variableOf name) :
    first.defaultRoot = second.defaultRoot := by
  rw [defaultRoot, defaultRoot, Environment.defaultRoot, Environment.defaultRoot, agree.temporary,
    Environment.find?_eq_of_agreeExcept agree.environment fun key meant => ?_]
  rw [eq_of_beq meant]
  exact isOther

end Circumstances

theorem field?_append (first second : List Field) (name : String) :
    field? (first ++ second) name = (field? first name).or (field? second name) :=
  List.lookup_append

namespace Settings

variable {first second : Environment} {name : String}

/-- The variable of a setting holds a list that is no JSON. -/
def isUnreadable (environment : Environment) (setting : String × Bool) : Bool :=
  setting.2 && match environment.setting? {} setting.1 with
    | none => false
    | some text => (Value.Json.read? text).isNone

/-- The first list in the environment that is no JSON. -/
def unreadable? (environment : Environment) : Option String :=
  (names.find? (isUnreadable environment)).map Prod.fst

/-- The value of a setting in the environment, if it has one that can be read. -/
def found (environment : Environment) (setting : String × Bool) : List Field :=
  match environment.setting? {} setting.1 with
  | none => []
  | some text =>
      if setting.2 then
        match Value.Json.read? text with
        | none => []
        | some .null => []
        | some value => [(setting.1, value)]
      else [(setting.1, .text text)]

theorem fromVariable_eq (environment : Environment) (setting : String × Bool) :
    fromVariable environment {} setting.1 setting.2 =
      if isUnreadable environment setting then .error (.unreadable setting.1)
      else .ok (found environment setting) := by
  rw [fromVariable, isUnreadable, found]
  cases environment.setting? {} setting.1 with
  | none => simp [Environment.hasPart]
  | some text =>
      cases setting.2 with
      | false => simp
      | true => cases read : Value.Json.read? text with
        | none => simp [read]
        | some value => cases value <;> simp [read]

/-- The variables are read one after another, up to the first list that is no JSON. -/
theorem fromVariables_eq (environment : Environment) (settings : List (String × Bool)) :
    fromVariables environment {} settings =
      match settings.find? (isUnreadable environment) with
      | some setting => .error (.unreadable setting.1)
      | none => .ok (settings.flatMap (found environment)) := by
  induction settings with
  | nil => rfl
  | cons setting rest ih =>
      rw [fromVariables, fromVariable_eq, ih, List.find?_cons, List.flatMap_cons]
      cases isUnreadable environment setting with
      | true => rfl
      | false => cases rest.find? (isUnreadable environment) <;> rfl

/-- Where all lists can be read, the settings are what is given and what is found, checked. -/
theorem read_eq_of_found {circumstances : Circumstances} {overrides set : List Field}
    (found : fromVariables circumstances.environment (readingOf (given overrides)) names =
      .ok set) :
    read circumstances overrides =
      (((Checked.also (.ok fun settings _ => settings) (check circumstances.defaultRoot
        ((given overrides).filter (fun field => !readingNames.contains field.1) ++ set))).also
        (unknown ((given overrides).filter fun field =>
          !readingNames.contains field.1))).mapError Refusal.invalid) := by
  rw [read, found]
  dsimp only [bind, Except.bind]
  cases Checked.also _ (unknown _) <;> rfl

theorem field?_given_iff {fields : List Field} (distinct : (fields.map Prod.fst).Nodup)
    {value : Value} :
    field? (given fields) name = some value ↔ field? fields name = some value ∧ value ≠ .null := by
  have kept : ((given fields).map Prod.fst).Nodup :=
    distinct.sublist (List.filter_sublist.map Prod.fst)
  rw [field?, ← mem_entries_iff kept, field?, ← mem_entries_iff distinct, given, List.mem_filter]
  apply and_congr_right
  intro listed
  cases value <;> simp

theorem field?_given_congr {fields others : List Field}
    (distinct : (fields.map Prod.fst).Nodup) (distinctToo : (others.map Prod.fst).Nodup)
    (same : field? fields name = field? others name) :
    field? (given fields) name = field? (given others) name := by
  apply Option.ext
  intro value
  rw [field?_given_iff distinct, field?_given_iff distinctToo, same]

theorem field?_given {fields : List Field} (distinct : (fields.map Prod.fst).Nodup)
    {value : Value} (listed : (name, value) ∈ fields) (something : value ≠ .null) :
    field? (given fields) name = some value :=
  (field?_given_iff distinct).2 ⟨(mem_entries_iff distinct).1 listed, something⟩

/-- The settings that a value is read for are the only ones that are looked at. -/
theorem check_congr {root : Path} {fields others : List Field}
    (same : ∀ setting ∈ names, field? fields setting.1 = field? others setting.1) :
    check root fields = check root others := by
  simp only [names, List.forall_mem_cons] at same
  simp only [check, Checked.field, same]

theorem field?_found_of_ne {environment : Environment} {setting : String × Bool}
    (other : setting.1 ≠ name) : field? (found environment setting) name = none := by
  have single (value : Value) : field? [(setting.1, value)] name = none := by
    rw [field?, List.lookup_cons, beq_eq_false_iff_ne.2 other.symm]
    rfl
  rw [found]
  cases environment.setting? {} setting.1 with
  | none => rfl
  | some text =>
      cases setting.2 with
      | false => exact single _
      | true => cases read : Value.Json.read? text with
        | none => simp [read, field?]
        | some value =>
            simp only [read, if_true]
            cases value with
            | null => rfl
            | _ => exact single _

theorem field?_found_congr {settings : List (String × Bool)}
    (same : ∀ setting ∈ settings, setting.1 = name → found first setting = found second setting) :
    field? (settings.flatMap (found first)) name =
      field? (settings.flatMap (found second)) name := by
  induction settings with
  | nil => rfl
  | cons setting rest ih =>
      rw [List.forall_mem_cons] at same
      have step (environment : Environment) :
          field? ((setting :: rest).flatMap (found environment)) name =
            (field? (found environment setting) name).or
              (field? (rest.flatMap (found environment)) name) := by
        rw [List.flatMap_cons, field?_append]
      rw [step, step, ih same.2]
      by_cases meant : setting.1 = name
      · rw [same.1 meant]
      · rw [field?_found_of_ne meant, field?_found_of_ne meant]

end Settings

namespace CommandLine

/-- The setting that an option gives a value. -/
def Opt.setting? : Opt → Option String
  | .help => none
  | .sourceUrl => some "source_url"
  | .revision => some "revision"
  | .cloneName => some "clone_name"
  | .subTool => some "sub_tools"
  | .workspaceRoot => some "workspace_root"
  | .installer => some "installer_command"
  | .git => some "git_path"
  | .timeout => some "step_timeout_seconds"
  | .metricsGateway => some "metrics_gateway_url"
  | .logLevel => some "log_level"
  | .jsonLogs => some "json_logs"

/-- The command line gave the option. -/
def Arguments.Give (arguments : Arguments) : Opt → Prop
  | .help => False
  | .sourceUrl => arguments.sourceUrl.isSome
  | .revision => arguments.revision.isSome
  | .cloneName => arguments.cloneName.isSome
  | .subTool => arguments.subTools.isSome
  | .workspaceRoot => arguments.workspaceRoot.isSome
  | .installer => arguments.installer.isSome
  | .git => arguments.git.isSome
  | .timeout => arguments.timeout.isSome
  | .metricsGateway => arguments.metricsGateway.isSome
  | .logLevel => arguments.logLevel.isSome
  | .jsonLogs => arguments.jsonLogs = true

end CommandLine

namespace Session

open CommandLine (Arguments Opt)

variable {arguments : Arguments} {installer : Option (List String)}

/-- The values of the command line are those of the settings, in an order of their own. -/
theorem map_fst_overrides (arguments : Arguments) (installer : Option (List String)) :
    (overrides arguments installer).map Prod.fst =
      ["source_url", "revision", "clone_name", "sub_tools", "workspace_root",
        "installer_command", "git_path", "step_timeout_seconds", "metrics_gateway_url",
        "log_level", "json_logs"] := rfl

theorem nodup_overrides (arguments : Arguments) (installer : Option (List String)) :
    ((overrides arguments installer).map Prod.fst).Nodup := by
  rw [map_fst_overrides]
  decide

theorem mem_names_of_given {field : Field}
    (member : field ∈ Settings.given (overrides arguments installer)) :
    (Settings.names.lookup field.1).isSome ∧ field.1 ∉ Settings.readingNames := by
  have listed : field.1 ∈ (overrides arguments installer).map Prod.fst :=
    List.mem_map_of_mem (List.mem_filter.1 member).1
  rw [map_fst_overrides] at listed
  revert listed
  generalize field.1 = name
  revert name
  decide

theorem readingOf_overrides (arguments : Arguments) (installer : Option (List String)) :
    Settings.readingOf (Settings.given (overrides arguments installer)) = {} := by
  have absent {name : String} (special : name ∈ Settings.readingNames) :
      field? (Settings.given (overrides arguments installer)) name = none := by
    rw [field?, List.lookup_eq_none_iff]
    intro field member
    rw [bne_iff_ne]
    rintro rfl
    exact (mem_names_of_given member).2 special
  rw [Settings.readingOf, Settings.textOf?, Settings.textOf?, Settings.textOf?,
    absent (by decide), absent (by decide), absent (by decide), absent (by decide),
    absent (by decide)]
  rfl

/-- The settings of a session: the first list in the environment that is no JSON ends the
reading, else the values of the command line stand before those of the environment. -/
theorem read_overrides (circumstances : Circumstances) (arguments : Arguments)
    (installer : Option (List String)) :
    Settings.read circumstances (overrides arguments installer) =
      match Settings.unreadable? circumstances.environment with
      | some name => .error (.unreadable name)
      | none => (Settings.check circumstances.defaultRoot
          (Settings.given (overrides arguments installer) ++
            Settings.names.flatMap (Settings.found circumstances.environment))).mapError
              Settings.Refusal.invalid := by
  have listed : Settings.unknown (Settings.given (overrides arguments installer)) = .ok () := by
    have none : (Settings.given (overrides arguments installer)).filter (fun field =>
        (Settings.names.lookup field.1).isNone) = [] := List.filter_eq_nil_iff.2 fun field member =>
      by simpa [Option.isSome_iff_ne_none] using (mem_names_of_given member).1
    rw [Settings.unknown, none]
  have kept : (Settings.given (overrides arguments installer)).filter (fun field =>
      !Settings.readingNames.contains field.1) = Settings.given (overrides arguments installer) :=
    List.filter_eq_self.2 fun field member => by simpa using (mem_names_of_given member).2
  have found := Settings.fromVariables_eq circumstances.environment Settings.names
  rw [← readingOf_overrides arguments installer] at found
  rw [Settings.unreadable?]
  cases first : Settings.names.find? (Settings.isUnreadable circumstances.environment) with
  | some setting =>
      rw [first] at found
      rw [Settings.read, found]
      rfl
  | none =>
      rw [first] at found
      rw [Settings.read_eq_of_found found, kept, listed]
      cases Settings.check circumstances.defaultRoot _ <;> rfl

/-- What the command line says of the setting of an option. -/
def overrideOf (arguments : Arguments) (installer : Option (List String)) : Opt → Value
  | .help => .null
  | .sourceUrl => .optional arguments.sourceUrl
  | .revision => .optional arguments.revision
  | .cloneName => .optional arguments.cloneName
  | .subTool => (arguments.subTools.map Value.texts).getD .null
  | .workspaceRoot => .optional arguments.workspaceRoot
  | .installer => (installer.map Value.texts).getD .null
  | .git => .optional arguments.git
  | .timeout => (arguments.timeout.map Value.real).getD .null
  | .metricsGateway => .optional arguments.metricsGateway
  | .logLevel => .optional arguments.logLevel
  | .jsonLogs => if arguments.jsonLogs then .flag true else .null

theorem mem_overrides {option : Opt} {name : String} (named : option.setting? = some name) :
    (name, overrideOf arguments installer option) ∈ overrides arguments installer := by
  cases option <;> cases named <;> simp [overrides, overrideOf]

/-- An option that is given says something, unless it is an installer without any text. -/
theorem overrideOf_ne_null {option : Opt} (given : arguments.Give option)
    (worded : installerWords arguments.installer = .ok installer)
    (something : option = .installer → arguments.installer ≠ some "") :
    overrideOf arguments installer option ≠ .null := by
  have text {field : Option String} (isSome : field.isSome) : Value.optional field ≠ .null := by
    cases field with
    | none => cases isSome
    | some text => nofun
  cases option with
  | help => cases given
  | subTool =>
      rcases Option.isSome_iff_exists.1 given with ⟨tools, gave⟩
      simp [overrideOf, gave, Value.texts]
  | timeout =>
      rcases Option.isSome_iff_exists.1 given with ⟨limit, gave⟩
      simp [overrideOf, gave]
  | jsonLogs =>
      have gave : arguments.jsonLogs = true := given
      simp [overrideOf, gave]
  | installer =>
      rcases Option.isSome_iff_exists.1 given with ⟨command, gave⟩
      have isText : command ≠ "" := fun empty => something rfl (empty ▸ gave)
      rw [gave, installerWords, if_neg (by simpa using isText)] at worded
      cases split : Text.Words.split command with
      | error fault =>
          rw [split] at worded
          cases worded
      | ok words =>
          rw [split] at worded
          cases worded
          nofun
  | _ => exact text given

variable {first second : Circumstances} {option : Opt} {name : String}

/-- The variable of a setting is no other variable that is looked at. -/
theorem variables_distinct (named : option.setting? = some name) :
    ({} : Environment.Reading).fold "HOME" ≠ ({} : Environment.Reading).variableOf name ∧
      ∀ setting ∈ Settings.names, setting.1 ≠ name →
        ({} : Environment.Reading).variableOf setting.1 ≠
          ({} : Environment.Reading).variableOf name := by
  have listed : name ∈ Settings.names.map Prod.fst := by
    cases option <;> cases named <;> decide
  clear named
  revert listed
  revert name
  decide +kernel

/-- A value of the command line is checked in place of that of the environment. -/
theorem check_eq_of_agreeExcept (named : option.setting? = some name)
    (agree : first.AgreeExcept name second) {fields : List Field} {value : Value}
    (gave : field? fields name = some value) :
    Settings.check first.defaultRoot
        (fields ++ Settings.names.flatMap (Settings.found first.environment)) =
      Settings.check second.defaultRoot
        (fields ++ Settings.names.flatMap (Settings.found second.environment)) := by
  have distinct := variables_distinct named
  rw [agree.defaultRoot_eq distinct.1]
  refine Settings.check_congr fun setting member => ?_
  rw [field?_append, field?_append]
  by_cases meant : setting.1 = name
  · rw [meant, gave]
    rfl
  · congr 1
    refine Settings.field?_found_congr fun other _ same => ?_
    rw [Settings.found, Settings.found, same,
      Environment.setting?_eq_of_agreeExcept agree.environment (distinct.2 setting member meant)]

theorem unreadable?_eq_of_agreeExcept (named : option.setting? = some name)
    (agree : first.AgreeExcept name second) (single : Settings.names.lookup name = some false) :
    Settings.unreadable? first.environment = Settings.unreadable? second.environment := by
  have same {setting : String × Bool} (member : setting ∈ Settings.names) :
      Settings.isUnreadable first.environment setting =
        Settings.isUnreadable second.environment setting := by
    rw [Settings.isUnreadable, Settings.isUnreadable]
    by_cases meant : setting.1 = name
    · have isSingle : ∀ setting ∈ Settings.names,
          Settings.names.lookup setting.1 = some false → setting.2 = false := by decide
      have isSingle := isSingle setting member (meant ▸ single)
      rw [isSingle, Bool.false_and, Bool.false_and]
    · rw [Environment.setting?_eq_of_agreeExcept agree.environment
        ((variables_distinct named).2 setting member meant)]
  rw [Settings.unreadable?, Settings.unreadable?, ← List.head?_filter, ← List.head?_filter,
    List.filter_congr fun _ => same]

/-- The words of the installer are cut before anything else, then the settings are read. -/
theorem settingsOf_eq (circumstances : Circumstances)
    (worded : installerWords arguments.installer = .ok installer) :
    settingsOf circumstances arguments =
      match Settings.unreadable? circumstances.environment with
      | some name => .error (.settings (.unreadable name))
      | none => (Settings.check circumstances.defaultRoot
          (Settings.given (overrides arguments installer) ++
            Settings.names.flatMap (Settings.found circumstances.environment))).mapError
              fun faults => .settings (.invalid faults) := by
  rw [settingsOf, worded]
  change (Settings.read circumstances (overrides arguments installer)).mapError _ = _
  rw [read_overrides]
  cases Settings.unreadable? circumstances.environment with
  | some name => rfl
  | none => cases Settings.check circumstances.defaultRoot _ <;> rfl

/-- Of a setting whose option is given, the variable in the environment makes no
difference to the settings or to what is said against them, other than by being the first
list that is no JSON.  An installer that is given as an empty text is as good as none. -/
theorem settingsOf_given (named : option.setting? = some name) (given : arguments.Give option)
    (agree : first.AgreeExcept name second) :
    ((option = .installer → arguments.installer ≠ some "") →
      (settingsOf first arguments = settingsOf second arguments ↔
        (∃ fault, installerWords arguments.installer = .error fault) ∨
          Settings.unreadable? first.environment = Settings.unreadable? second.environment) ∧
      (Settings.names.lookup name = some false →
        settingsOf first arguments = settingsOf second arguments)) ∧
    (arguments.installer = some "" → ∀ circumstances,
      settingsOf circumstances arguments =
        settingsOf circumstances { arguments with installer := none }) := by
  refine ⟨fun something => ?_, fun empty circumstances => ?_⟩
  · have decided : settingsOf first arguments = settingsOf second arguments ↔
        (∃ fault, installerWords arguments.installer = .error fault) ∨
          Settings.unreadable? first.environment = Settings.unreadable? second.environment := by
      cases worded : installerWords arguments.installer with
      | error fault =>
          rw [settingsOf, settingsOf, worded]
          exact iff_of_true rfl (.inl ⟨fault, rfl⟩)
      | ok installer =>
          have gave := Settings.field?_given (nodup_overrides arguments installer)
            (mem_overrides named) (overrideOf_ne_null given worded something)
          rw [settingsOf_eq first worded, settingsOf_eq second worded,
            check_eq_of_agreeExcept named agree gave]
          generalize Settings.check second.defaultRoot _ = checked
          constructor
          · intro same
            right
            -- what is said of an unreadable list is said of nothing else
            revert same
            cases Settings.unreadable? first.environment <;>
              cases Settings.unreadable? second.environment <;> cases checked <;>
              simp [Except.mapError]
          · rintro (⟨_, none⟩ | same)
            · cases none
            · rw [same]
    exact ⟨decided, fun single =>
      decided.2 (.inr (unreadable?_eq_of_agreeExcept named agree single))⟩
  · rw [settingsOf, settingsOf, empty]
    rfl

/-- Tools on the command line do not make up for a list of tools in the environment that is
no JSON. -/
theorem settingsOf_given_unreadable :
    let words := ["provision", "--source-url", "https://example.test/a.git", "--sub-tool", "a"]
    let arguments : Arguments :=
      { sourceUrl := some "https://example.test/a.git", subTools := some ["a"] }
    let circumstances : Circumstances := { environment := [("PROVISION_SUB_TOOLS", "not json")] }
    (CommandLine.read words).toOption = some arguments ∧ arguments.Give .subTool ∧
      Circumstances.AgreeExcept "sub_tools" circumstances {} ∧
      settingsOf circumstances arguments ≠ settingsOf {} arguments := by
  intro words arguments circumstances
  have given : arguments.Give .subTool := rfl
  have agree : Circumstances.AgreeExcept "sub_tools" circumstances {} := by
    refine ⟨?_, rfl⟩
    rw [Environment.AgreeExcept]
    decide +kernel
  refine ⟨by decide +kernel, given, agree, fun same => ?_⟩
  rcases ((settingsOf_given rfl given agree).1 nofun).1.1 same with ⟨fault, none⟩ | unreadable
  · cases none
  · revert unreadable
    decide +kernel

end Session

end Toolset
