import Toolset.Proofs.Options
import Toolset.Proofs.Precedence
import Toolset.Proofs.Quoting
import Toolset.Proofs.Sessions

/-!
# Options and variables that say the same

What is to be run can be said by options or by variables of the environment.  They are written
differently: the installer is one text that is cut into words or a list in JSON, tools are
given one after another or as a list.  But what is said counts, and not how: the same choices
make the same settings and the same specification, or the same is wrong with them.
-/

namespace Toolset

open CommandLine (Arguments Opt Gift valuesOf commandName)

/-- What is chosen for a session; nothing is chosen for anything else.  A list that is chosen
is not empty. -/
structure Choices where
  source : Option String := none
  revision : Option String := none
  cloneName : Option String := none
  root : Option String := none
  git : Option String := none
  gateway : Option String := none
  tools : Option (List String) := none
  installer : Option (List String) := none
  someTool : tools ≠ some [] := by simp
  someWord : installer ≠ some [] := by simp

/-- A variable of a setting holds a list in JSON, or is not there. -/
def Environment.HoldsList (environment : Environment) (name : String) :
    Option (List String) → Prop
  | none => environment.setting? {} name = none
  | some items => ∃ text, environment.setting? {} name = some text ∧
      Value.Json.read? text = some (.texts items)

/-- An installer is given as a text that is cut into words, or not given. -/
def CommandLine.GivesInstaller (gifts : List Gift) : Option (List String) → Prop
  | none => valuesOf gifts .installer = []
  | some words => ∃ text, valuesOf gifts .installer = [text] ∧ Text.Words.split text = .ok words

theorem Environment.holdsList_of_read {environment : Environment} {name : String}
    {items : List String} (text : String) (set : environment.setting? {} name = some text)
    (read : (Value.Json.read? text).map (checkTexts .listExpected) = some (.ok items)) :
    environment.HoldsList name (some items) := by
  rcases Option.map_eq_some_iff.1 read with ⟨value, decoded, listed⟩
  rw [checkTexts_eq_ok_iff.1 listed] at decoded
  exact ⟨text, set, decoded⟩

namespace Choices

variable {choices : Choices} {environment : Environment} {gifts : List Gift}

/-- What is chosen for an option that is a text. -/
def text? (choices : Choices) : Opt → Option String
  | .sourceUrl => choices.source
  | .revision => choices.revision
  | .cloneName => choices.cloneName
  | .workspaceRoot => choices.root
  | .git => choices.git
  | .metricsGateway => choices.gateway
  | _ => none

/-- The options that take texts give what is chosen, tools are given one by one, and the
installer as a text that is cut into its words.  Nothing else is given. -/
structure ByOptions (choices : Choices) (gifts : List Gift) : Prop where
  texts : ∀ option, option ≠ .subTool → option ≠ .installer →
    valuesOf gifts option = (choices.text? option).toList
  tools : valuesOf gifts .subTool = choices.tools.getD []
  installer : CommandLine.GivesInstaller gifts choices.installer

/-- The variables of settings hold what is chosen, lists in JSON.  Nothing else is set. -/
structure ByVariables (choices : Choices) (environment : Environment) : Prop where
  texts : ∀ option name, option ≠ .subTool → option ≠ .installer → option.setting? = some name →
    environment.setting? {} name = choices.text? option
  tools : environment.HoldsList "sub_tools" choices.tools
  installer : environment.HoldsList "installer_command" choices.installer

/-- The value of the setting of an option. -/
def value? (choices : Choices) : Opt → Option Value
  | .subTool => choices.tools.map .texts
  | .installer => choices.installer.map .texts
  | option => (choices.text? option).map .text

theorem value?_ne_null {option : Opt} : choices.value? option ≠ some .null := by
  cases option <;> simp [value?, text?, Value.texts]

/-! ## Variables -/

theorem field?_found_text (environment : Environment) (name : String) :
    field? (Settings.found environment (name, false)) name =
      (environment.setting? {} name).map .text := by
  rw [Settings.found]
  cases environment.setting? {} name with
  | none => rfl
  | some text => exact List.lookup_cons_self

theorem field?_found_list {name : String} {list : Option (List String)}
    (holds : environment.HoldsList name list) :
    field? (Settings.found environment (name, true)) name = list.map .texts := by
  rw [Settings.found]
  cases list with
  | none =>
      rw [Environment.HoldsList] at holds
      rw [holds]
      rfl
  | some items =>
      rcases holds with ⟨text, set, read⟩
      simp only [set, read]
      exact List.lookup_cons_self

theorem not_isUnreadable {name : String} {list : Option (List String)}
    (holds : environment.HoldsList name list) :
    Settings.isUnreadable environment (name, true) = false := by
  rw [Settings.isUnreadable]
  cases list with
  | none =>
      rw [Environment.HoldsList] at holds
      rw [holds]
      rfl
  | some items =>
      rcases holds with ⟨text, set, read⟩
      simp only [set, read]
      rfl

theorem field?_flatMap_of_notMem (environment : Environment) {settings : List (String × Bool)}
    {name : String} (absent : name ∉ settings.map Prod.fst) :
    field? (settings.flatMap (Settings.found environment)) name = none := by
  induction settings with
  | nil => rfl
  | cons first rest ih =>
      rw [List.map_cons, List.mem_cons, not_or] at absent
      rw [List.flatMap_cons, field?_append, Settings.field?_found_of_ne (Ne.symm absent.1),
        ih absent.2]
      rfl

/-- Of distinct settings each is found under its own name only. -/
theorem field?_flatMap_found (environment : Environment) {settings : List (String × Bool)}
    (distinct : (settings.map Prod.fst).Nodup) {setting : String × Bool}
    (member : setting ∈ settings) :
    field? (settings.flatMap (Settings.found environment)) setting.1 =
      field? (Settings.found environment setting) setting.1 := by
  induction settings with
  | nil => cases member
  | cons first rest ih =>
      rw [List.map_cons, List.nodup_cons] at distinct
      rw [List.flatMap_cons, field?_append]
      cases member with
      | head => rw [field?_flatMap_of_notMem environment distinct.1, Option.or_none]
      | tail _ member =>
          have other : first.1 ≠ setting.1 := fun same =>
            distinct.1 (same ▸ List.mem_map_of_mem member)
          rw [Settings.field?_found_of_ne other, Option.none_or, ih distinct.2 member]

/-- The setting of an option, and whether it is a list. -/
theorem mem_names {option : Opt} {name : String} (named : option.setting? = some name) :
    (name, option == .subTool || option == .installer) ∈ Settings.names := by
  cases option <;> cases named <;> decide

theorem exists_option : ∀ setting ∈ Settings.names, ∃ option : Opt,
    option.setting? = some setting.1 := by
  simp only [Settings.names, List.forall_mem_cons]
  exact ⟨⟨.sourceUrl, rfl⟩, ⟨.revision, rfl⟩, ⟨.cloneName, rfl⟩, ⟨.subTool, rfl⟩,
    ⟨.workspaceRoot, rfl⟩, ⟨.git, rfl⟩, ⟨.installer, rfl⟩, ⟨.timeout, rfl⟩,
    ⟨.metricsGateway, rfl⟩, ⟨.logLevel, rfl⟩, ⟨.jsonLogs, rfl⟩, List.forall_mem_nil _⟩

namespace ByVariables

/-- What is found in the environment is what is chosen. -/
theorem field?_found (set : choices.ByVariables environment) {option : Opt} {name : String}
    (named : option.setting? = some name) :
    field? (Settings.names.flatMap (Settings.found environment)) name =
      choices.value? option := by
  rw [field?_flatMap_found environment (by decide) (mem_names named)]
  by_cases tools : option = .subTool
  · subst tools
    cases named
    exact field?_found_list set.tools
  · by_cases installer : option = .installer
    · subst installer
      cases named
      exact field?_found_list set.installer
    · have single : (option == .subTool || option == .installer) = false := by
        simp [tools, installer]
      rw [single, field?_found_text, set.texts option name tools installer named]
      cases option with
      | subTool => exact absurd rfl tools
      | installer => exact absurd rfl installer
      | _ => rfl

theorem unreadable?_eq_none (set : choices.ByVariables environment) :
    Settings.unreadable? environment = none := by
  rw [Settings.unreadable?, Option.map_eq_none_iff, List.find?_eq_none]
  have single (name : String) : Settings.isUnreadable environment (name, false) = false := rfl
  simp only [Settings.names, List.forall_mem_cons, not_isUnreadable set.tools,
    not_isUnreadable set.installer, single]
  simp

end ByVariables

/-! ## Options -/

theorem getLast?_toList (text : Option String) : text.toList.getLast? = text := by
  cases text <;> rfl

theorem optional_eq (text : Option String) :
    Value.optional text = (text.map .text).getD .null := by
  cases text <;> rfl

theorem collected_getD (some : choices.tools ≠ some []) :
    CommandLine.collected (choices.tools.getD []) = choices.tools := by
  cases given : choices.tools with
  | none => rfl
  | some tools =>
      apply CommandLine.collected_of_ne_nil
      rintro rfl
      exact some given

namespace ByOptions

theorem overrideOf_eq (given : choices.ByOptions gifts) (option : Opt) :
    Session.overrideOf (.ofGifts gifts) choices.installer option =
      (choices.value? option).getD .null := by
  have texts := given.texts option
  cases option with
  | help => rfl
  | installer => rfl
  | subTool =>
      rw [Session.overrideOf, Arguments.ofGifts, given.tools, collected_getD choices.someTool]
      rfl
  | timeout =>
      rw [Session.overrideOf, Arguments.ofGifts, texts (by decide) (by decide)]
      rfl
  | jsonLogs =>
      rw [Session.overrideOf, Arguments.ofGifts, texts (by decide) (by decide)]
      rfl
  | _ =>
      rw [Session.overrideOf, Arguments.ofGifts, texts (by decide) (by decide), getLast?_toList,
        optional_eq]
      rfl

theorem installerWords_eq (given : choices.ByOptions gifts) :
    Session.installerWords (Arguments.ofGifts gifts).installer = .ok choices.installer := by
  have installer := given.installer
  rw [Arguments.ofGifts]
  cases chosen : choices.installer with
  | none =>
      rw [chosen, CommandLine.GivesInstaller] at installer
      rw [installer]
      rfl
  | some words =>
      rw [chosen] at installer
      rcases installer with ⟨text, gave, cut⟩
      -- no words are cut out of an empty text, so the text is not taken for none
      have something : ¬text.isEmpty = true := by
        rw [String.isEmpty_iff]
        rintro rfl
        rw [Text.Words.split_empty] at cut
        cases cut
        exact choices.someWord chosen
      rw [gave, List.getLast?_singleton, Session.installerWords, if_neg something, cut]
      rfl

theorem field?_given (given : choices.ByOptions gifts) {option : Opt} {name : String}
    (named : option.setting? = some name) :
    field? (Settings.given (Session.overrides (.ofGifts gifts) choices.installer)) name =
      choices.value? option := by
  have distinct := Session.nodup_overrides (.ofGifts gifts) choices.installer
  have listed : field? (Session.overrides (.ofGifts gifts) choices.installer) name =
      some ((choices.value? option).getD .null) := by
    rw [← given.overrideOf_eq]
    exact (mem_entries_iff distinct).1 (Session.mem_overrides named)
  apply Option.ext
  intro value
  rw [Settings.field?_given_iff distinct, listed]
  cases chosen : choices.value? option with
  | none => simp [eq_comm]
  | some content =>
      have something : content ≠ .null := fun null => value?_ne_null (null ▸ chosen)
      rw [Option.getD_some, Option.some.injEq]
      constructor
      · intro both
        exact both.1
      · rintro rfl
        exact ⟨rfl, something⟩

theorem isChosen (given : choices.ByOptions gifts) {option : Opt} {value : String}
    (member : (option, value) ∈ gifts) :
    option.takesArgument = true ∧ Gift.fits (option, value) = true := by
  have absent (notTools : option ≠ .subTool) (notInstaller : option ≠ .installer) :
      choices.text? option ≠ none := by
    intro none
    have nothing := given.texts option notTools notInstaller
    rw [none] at nothing
    exact CommandLine.ne_of_valuesOf_eq_nil nothing _ member rfl
  cases option with
  | help => exact absurd rfl (absent (by decide) (by decide))
  | timeout => exact absurd rfl (absent (by decide) (by decide))
  | logLevel => exact absurd rfl (absent (by decide) (by decide))
  | jsonLogs => exact absurd rfl (absent (by decide) (by decide))
  | _ => exact ⟨rfl, rfl⟩

/-- The words that give the options are read. -/
theorem read_eq_ok (given : choices.ByOptions gifts) :
    CommandLine.read (commandName :: gifts.map fun gift => gift.1.word gift.2) =
      .ok (.ofGifts gifts) := by
  apply CommandLine.read_provision.2
  apply CommandLine.readCommand_eq_ok_iff.2
  refine ⟨gifts, CommandLine.offers_words ?_, ?_, rfl⟩
  · intro gift member
    exact (given.isChosen member).1
  · intro gift member
    exact (given.isChosen member).2

end ByOptions

/-- No list is unreadable, so that values are wrong is all that can be said. -/
theorem ByOptions.invalid_of_settingsOf {bare : Circumstances} {error : ConfigError}
    (given : choices.ByOptions gifts) (unset : ByVariables {} bare.environment)
    (failed : Session.settingsOf bare (.ofGifts gifts) = .error error) :
    ∃ faults, error = .settings (.invalid faults) := by
  rw [Session.settingsOf_eq bare given.installerWords_eq, unset.unreadable?_eq_none] at failed
  dsimp only at failed
  cases checked : Settings.check bare.defaultRoot
      (Settings.given (Session.overrides (.ofGifts gifts) choices.installer) ++
        Settings.names.flatMap (Settings.found bare.environment)) with
  | ok settings =>
      rw [checked] at failed
      cases failed
  | error faults =>
      rw [checked] at failed
      cases failed
      exact ⟨faults, rfl⟩

/-! ## The same choices -/

theorem settingsOf_eq {bare full : Circumstances} (given : choices.ByOptions gifts)
    (unset : ByVariables {} bare.environment) (set : choices.ByVariables full.environment)
    (sameRoot : bare.defaultRoot = full.defaultRoot) :
    Session.settingsOf bare (.ofGifts gifts) = Session.settingsOf full {} := by
  rw [Session.settingsOf_eq bare given.installerWords_eq, Session.settingsOf_eq full rfl,
    unset.unreadable?_eq_none, set.unreadable?_eq_none, sameRoot]
  dsimp only
  apply congrArg (Except.mapError _)
  apply Settings.check_congr
  intro setting member
  rcases exists_option setting member with ⟨option, named⟩
  have nothing : Settings.given (Session.overrides {} none) = [] := rfl
  have absent : value? {} option = none := by
    cases option <;> rfl
  rw [field?_append, field?_append, nothing, given.field?_given named, unset.field?_found named,
    set.field?_found named, absent, Option.or_none]
  rfl

/-- Whatever is chosen, it makes no difference whether it is said by options or by variables:
the settings and the specification are the same, or the same values are said to be wrong. -/
theorem configure_eq {bare full : Circumstances} (given : choices.ByOptions gifts)
    (unset : ByVariables {} bare.environment) (set : choices.ByVariables full.environment)
    (sameRoot : bare.defaultRoot = full.defaultRoot) :
    ∃ arguments,
      CommandLine.read (commandName :: gifts.map fun gift => gift.1.word gift.2) =
        .ok arguments ∧
      CommandLine.read [commandName] = .ok {} ∧
      Session.settingsOf bare arguments = Session.settingsOf full {} ∧
      Session.configure bare arguments = Session.configure full {} ∧
      ∀ error, Session.configure bare arguments = .error error →
        (∃ faults, error = .settings (.invalid faults)) ∨ ∃ faults, error = .spec faults := by
  have same := settingsOf_eq given unset set sameRoot
  refine ⟨_, given.read_eq_ok, rfl, same, ?_, ?_⟩
  · rw [Session.configure, Session.configure, same]
  · intro error failed
    rcases Session.configure_error failed with failed | wrong
    · exact .inl (given.invalid_of_settingsOf unset failed)
    · exact .inr wrong

/-- An installer between apostrophes and tools that are given one by one say the same as lists
in JSON, and an empty name is an empty name. -/
theorem configure_eq_lists :
    let words := ["provision", "--installer='make it' -v", "--sub-tool=a b", "--clone-name=",
      "--source-url=https://example.test/t.git", "--sub-tool=-c"]
    let tools := "[\"a\\u0020b\", \"-c\"]"
    let installer := "[\"make it\",\"-v\"]"
    let environment := [("PROVISION_SUB_TOOLS", tools), ("provision_clone_name", ""),
      ("PROVISION_SOURCE_URL", "https://example.test/t.git"),
      ("PROVISION_INSTALLER_COMMAND", installer)]
    ∃ arguments, CommandLine.read words = .ok arguments ∧
      CommandLine.read [commandName] = .ok {} ∧
      Session.configure {} arguments = Session.configure { environment } {} := by
  intro words tools installer environment
  let choices : Choices := {
    source := some "https://example.test/t.git", cloneName := some "",
    tools := some ["a b", "-c"], installer := some ["make it", "-v"] }
  let gifts : List Gift := [(.installer, "'make it' -v"), (.subTool, "a b"), (.cloneName, ""),
    (.sourceUrl, "https://example.test/t.git"), (.subTool, "-c")]
  have given : choices.ByOptions gifts := {
    texts := by
      intro option notTools notInstaller
      cases option with
      | subTool => exact absurd rfl notTools
      | installer => exact absurd rfl notInstaller
      | _ => decide +kernel
    tools := by decide +kernel
    installer := ⟨"'make it' -v", by decide +kernel, by decide +kernel⟩ }
  have unset : ByVariables {} [] := {
    texts := by
      intro option name _ _ _
      cases option <;> rfl
    tools := rfl
    installer := rfl }
  have set : choices.ByVariables environment := {
    texts := by
      intro option name notTools notInstaller named
      cases option with
      | subTool => exact absurd rfl notTools
      | installer => exact absurd rfl notInstaller
      | help => cases named
      | _ =>
          cases named
          decide +kernel
    tools := Environment.holdsList_of_read tools (by decide +kernel) (by decide +kernel)
    installer := Environment.holdsList_of_read installer (by decide +kernel) (by decide +kernel) }
  have written : (commandName :: gifts.map fun gift => gift.1.word gift.2) = words := by
    decide +kernel
  rcases @configure_eq choices gifts {} { environment } given unset set rfl with
    ⟨arguments, read, bare, _, same, _⟩
  exact ⟨arguments, written ▸ read, bare, same⟩

end Choices

end Toolset
