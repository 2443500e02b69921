import Toolset.Proofs.ExitCodes
import Toolset.Proofs.Options
import Toolset.Proofs.Precedence
import Toolset.Proofs.Quoting
import Toolset.Proofs.Specifying

/-!
# From the command line to the installer

The words of the installer and the paths of the tools pass through the reading of the command
line, the cutting of words, the settings and the specification before an installer is started.
None of these changes them: whatever the words and the paths are made of, each installer is
started with just these words, followed by the path of its tool in the clone.
-/

namespace Toolset

theorem Checked.field_congr {α : Type} {fields others : List Field} {name : String}
    {default : Option α} {check : Value → Checked α}
    (same : field? others name = field? fields name) :
    Checked.field others name default check = Checked.field fields name default check := by
  rw [Checked.field.eq_def, Checked.field.eq_def, same]

namespace Settings

/-! ## Other tools and another installer -/

theorem checkInstaller_texts {name : String} {rest : List String}
    (named : Text.isBlankText name = false) :
    checkInstaller (.texts (name :: rest)) = .ok (name :: rest) := by
  rw [checkInstaller, checkTexts_eq_ok_iff.2 rfl]
  change (if Text.isBlankText name then _ else _) = _
  rw [named]
  rfl

/-- Where only the tools and the installer differ, and are right, the other settings pass as
before. -/
theorem Passed.replaced {root : Path} {fields others : List Field} {settings : Settings}
    {name : String} {rest tools : List String} (passed : Passed root fields settings)
    (same : ∀ key, key ≠ "sub_tools" → key ≠ "installer_command" →
      field? others key = field? fields key)
    (listed : field? others "sub_tools" = some (.texts tools))
    (worded : field? others "installer_command" = some (.texts (name :: rest)))
    (named : Text.isBlankText name = false) :
    Passed root others { settings with tools, installer := name :: rest } where
  source := (Checked.field_congr (same _ (by decide) (by decide))).trans passed.source
  revision := (Checked.field_congr (same _ (by decide) (by decide))).trans passed.revision
  cloneName := (Checked.field_congr (same _ (by decide) (by decide))).trans passed.cloneName
  tools := Checked.field_eq_ok_iff.2 (.inl ⟨_, listed, checkTexts_eq_ok_iff.2 rfl⟩)
  root := (Checked.field_congr (same _ (by decide) (by decide))).trans passed.root
  git := (Checked.field_congr (same _ (by decide) (by decide))).trans passed.git
  installer := Checked.field_eq_ok_iff.2 (.inl ⟨_, worded, checkInstaller_texts named⟩)
  limit := (Checked.field_congr (same _ (by decide) (by decide))).trans passed.limit
  gateway := (Checked.field_congr (same _ (by decide) (by decide))).trans passed.gateway
  level := (Checked.field_congr (same _ (by decide) (by decide))).trans passed.level
  jsonLogs := (Checked.field_congr (same _ (by decide) (by decide))).trans passed.jsonLogs

theorem Passed.toSpec_replaced {circumstances : Circumstances} {fields others : List Field}
    {settings : Settings} {spec : Spec} {installer tools : List String}
    (passed : Passed circumstances.defaultRoot fields settings)
    (again : Passed circumstances.defaultRoot others { settings with tools, installer })
    (made : settings.toSpec = .ok spec) (lead : ∀ tool ∈ tools, Spec.LeadsInside tool) :
    toSpec { settings with tools, installer } = .ok { spec with tools } := by
  rcases passed.toSpec_eq_ok_iff.1 made with ⟨called, _, absolute, rfl⟩
  exact again.toSpec_eq_ok_iff.2 ⟨called, lead, absolute, rfl⟩

end Settings

namespace Session

open CommandLine (Arguments Opt Gift Offers valuesOf readCommand commandName)

/-! ## The configuration -/

variable {circumstances : Circumstances} {arguments : Arguments} {set : Settings} {spec : Spec}
  {subTools : Option (List String)} {spelled : Option String} {tools : List String}

/-- The values of the command line, other than the tools and the installer, do not depend on
these. -/
theorem field?_given_overrides {installer : Option (List String)} {key : String}
    (notTools : key ≠ "sub_tools") (notInstaller : key ≠ "installer_command") :
    field? (Settings.given (overrides { arguments with subTools, installer := spelled }
      installer)) key = field? (Settings.given (overrides arguments none)) key := by
  apply Settings.field?_given_congr (nodup_overrides _ _) (nodup_overrides _ _)
  simp only [overrides, field?, List.lookup_cons, beq_eq_false_iff_ne.2 notTools,
    beq_eq_false_iff_ne.2 notInstaller]

theorem field?_given_append {installer : Option (List String)} {key : String} {value : Value}
    (found : List Field) (listed : (key, value) ∈ overrides arguments installer)
    (something : value ≠ .null) :
    field? (Settings.given (overrides arguments installer) ++ found) key = some value := by
  rw [field?_append, Settings.field?_given (nodup_overrides arguments installer) listed something]
  rfl

theorem settingsOf_eq_ok_iff {installer : Option (List String)}
    (worded : installerWords arguments.installer = .ok installer) :
    settingsOf circumstances arguments = .ok set ↔
      Settings.unreadable? circumstances.environment = none ∧
        Settings.Passed circumstances.defaultRoot
          (Settings.given (overrides arguments installer) ++
            Settings.names.flatMap (Settings.found circumstances.environment)) set := by
  rw [settingsOf_eq circumstances worded, ← Settings.check_eq_ok_iff]
  cases Settings.unreadable? circumstances.environment with
  | some name => simp
  | none => cases Settings.check circumstances.defaultRoot _ <;> simp [Except.mapError]

/-- An installer and tools that are given in place of others, and are right, are those of the
settings and of the specification. -/
theorem configure_replaced {name : String} (rest : List String)
    (known : configure circumstances { arguments with subTools, installer := spelled } =
      .ok (set, spec))
    (named : Text.isBlankText name = false) (lead : ∀ tool ∈ tools, Spec.LeadsInside tool) :
    configure circumstances { arguments with
      subTools := some tools, installer := some (Text.Words.join (name :: rest)) } =
        .ok ({ set with tools, installer := name :: rest }, { spec with tools }) := by
  rcases configure_eq_ok_iff.1 known with ⟨read, made⟩
  have worded : installerWords (some (Text.Words.join (name :: rest))) =
      .ok (some (name :: rest)) := by
    rw [installerWords, if_neg, Text.Words.split_join]
    · rfl
    · simpa using Text.Words.join_ne_empty (List.cons_ne_nil name rest)
  cases before : installerWords spelled with
  | error fault =>
      rw [settingsOf, before] at read
      cases read
  | ok words =>
      rcases (settingsOf_eq_ok_iff before).1 read with ⟨readable, passed⟩
      have again : Settings.Passed circumstances.defaultRoot
          (Settings.given (overrides { arguments with
            subTools := some tools, installer := some (Text.Words.join (name :: rest)) }
              (some (name :: rest))) ++
            Settings.names.flatMap (Settings.found circumstances.environment))
          { set with tools, installer := name :: rest } := by
        apply passed.replaced _ _ _ named
        · intro key notTools notInstaller
          rw [field?_append, field?_append]
          exact congrArg₂ Option.or ((field?_given_overrides notTools notInstaller).trans
            (field?_given_overrides notTools notInstaller).symm) rfl
        · exact field?_given_append _ (by simp [overrides]) (by simp [Value.texts])
        · exact field?_given_append _ (by simp [overrides]) (by simp [Value.texts])
      apply configure_eq_ok_iff.2
      constructor
      · exact (settingsOf_eq_ok_iff worded).2 ⟨readable, again⟩
      · exact passed.toSpec_replaced again made lead

/-! ## The command line -/

/-- A part of a command line: the installer, a tool, or words of other options. -/
inductive Part where
  | installer
  | tool (path : String)
  | other (words : List String)

namespace Part

/-- How a part is written, given the words of the installer. -/
def written (installer : List String) : Part → List String
  | .installer => ["--installer=" ++ Text.Words.join installer]
  | .tool path => ["--sub-tool=" ++ path]
  | .other words => words

def tool? : Part → Option String
  | .tool path => some path
  | _ => none

def otherWords : Part → List String
  | .other words => words
  | _ => []

/-- The part gives other options only: if it is words, these are read by themselves and say
nothing of the installer and of tools. -/
def IsApart : Part → Prop
  | .other words => ∃ given, readCommand words = .ok (given, []) ∧
      given.installer = none ∧ given.subTools = none
  | _ => True

end Part

/-- A command line of some parts. -/
def commandLine (installer : List String) (parts : List Part) : List String :=
  commandName :: parts.flatMap (Part.written installer)

/-- What is left of a command line without the installer and the tools. -/
def remainder (parts : List Part) : List String :=
  commandName :: parts.flatMap Part.otherWords

/-- What the parts of a command line give: the installer and the tools as they are, and
otherwise what is given without them. -/
structure GivesParts (installer : List String) (parts : List Part) (gifts others : List Gift) :
    Prop where
  whole : Offers (parts.flatMap (Part.written installer)) gifts
  left : Offers (parts.flatMap Part.otherWords) others
  fit : ∀ gift ∈ gifts, gift.fits = true
  fitToo : ∀ gift ∈ others, gift.fits = true
  installers : ∀ value ∈ valuesOf gifts .installer, value = Text.Words.join installer
  installs : Part.installer ∈ parts → valuesOf gifts .installer ≠ []
  tools : valuesOf gifts .subTool = parts.filterMap Part.tool?
  noInstaller : valuesOf others .installer = []
  noTools : valuesOf others .subTool = []
  same : ∀ option, option ≠ .installer → option ≠ .subTool →
    valuesOf gifts option = valuesOf others option

namespace GivesParts

variable {installer : List String} {parts more : List Part} {gifts others later left : List Gift}

theorem append (first : GivesParts installer parts gifts others)
    (second : GivesParts installer more later left) :
    GivesParts installer (parts ++ more) (gifts ++ later) (others ++ left) where
  whole := by
    rw [List.flatMap_append]
    exact first.whole.append second.whole
  left := by
    rw [List.flatMap_append]
    exact first.left.append second.left
  fit := List.forall_mem_append.2 ⟨first.fit, second.fit⟩
  fitToo := List.forall_mem_append.2 ⟨first.fitToo, second.fitToo⟩
  installers := by
    rw [CommandLine.valuesOf_append, List.forall_mem_append]
    exact ⟨first.installers, second.installers⟩
  installs := by
    intro member
    rw [CommandLine.valuesOf_append]
    rcases List.mem_append.1 member with member | member
    · exact List.append_ne_nil_of_left_ne_nil (first.installs member) _
    · exact List.append_ne_nil_of_right_ne_nil _ (second.installs member)
  tools := by
    rw [CommandLine.valuesOf_append, List.filterMap_append, first.tools, second.tools]
  noInstaller := by
    rw [CommandLine.valuesOf_append, first.noInstaller, second.noInstaller, List.append_nil]
  noTools := by
    rw [CommandLine.valuesOf_append, first.noTools, second.noTools, List.append_nil]
  same := by
    intro option notInstaller notTools
    rw [CommandLine.valuesOf_append, CommandLine.valuesOf_append,
      first.same option notInstaller notTools, second.same option notInstaller notTools]

theorem nil : GivesParts installer [] [] [] :=
  ⟨CommandLine.offers_nil, CommandLine.offers_nil, by simp, by simp, by simp [valuesOf], by simp,
    rfl, rfl, rfl, fun _ _ _ => rfl⟩

theorem word_installer (value : String) : Opt.installer.word value = "--installer=" ++ value :=
  congrArg (· ++ value) (by decide)

theorem word_subTool (value : String) : Opt.subTool.word value = "--sub-tool=" ++ value :=
  congrArg (· ++ value) (by decide)

theorem of_isApart {part : Part} (apart : part.IsApart) :
    ∃ gifts others, GivesParts installer [part] gifts others := by
  cases part with
  | installer =>
      have whole : Offers ["--installer=" ++ Text.Words.join installer]
          [(.installer, Text.Words.join installer)] := by
        rw [← word_installer]
        exact CommandLine.offers_word rfl _
      exact ⟨[(.installer, Text.Words.join installer)], [], whole, CommandLine.offers_nil,
        by simp [Gift.fits], by simp, by simp [valuesOf], by simp [valuesOf], rfl, rfl, rfl,
        fun option notInstaller _ => by simp [valuesOf, notInstaller.symm]⟩
  | tool path =>
      have whole : Offers ["--sub-tool=" ++ path] [(.subTool, path)] := by
        rw [← word_subTool]
        exact CommandLine.offers_word rfl _
      exact ⟨[(.subTool, path)], [], whole, CommandLine.offers_nil, by simp [Gift.fits], by simp,
        by simp [valuesOf], by simp, rfl, rfl, rfl,
        fun option _ notTools => by simp [valuesOf, notTools.symm]⟩
  | other words =>
      rcases apart with ⟨given, read, noInstaller, noTools⟩
      rcases CommandLine.readCommand_eq_ok_iff.1 read with ⟨gifts, offers, fit, rfl⟩
      have none : valuesOf gifts .installer = [] := List.getLast?_eq_none_iff.1 noInstaller
      have few : valuesOf gifts .subTool = [] := CommandLine.collected_eq_none_iff.1 noTools
      have alone : [Part.other words].flatMap Part.otherWords = words := by simp [Part.otherWords]
      have whole : [Part.other words].flatMap (Part.written installer) = words := by
        simp [Part.written]
      exact ⟨gifts, gifts, whole.symm ▸ offers, alone.symm ▸ offers, fit, fit, by simp [none],
        by simp, by simp [few, Part.tool?], none, few, fun _ _ _ => rfl⟩

end GivesParts

theorem exists_givesParts (installer : List String) {parts : List Part}
    (apart : ∀ part ∈ parts, part.IsApart) :
    ∃ gifts others, GivesParts installer parts gifts others := by
  induction parts with
  | nil => exact ⟨[], [], .nil⟩
  | cons part rest ih =>
      rw [List.forall_mem_cons] at apart
      rcases GivesParts.of_isApart apart.1 with ⟨gifts, others, first⟩
      rcases ih apart.2 with ⟨later, left, second⟩
      exact ⟨_, _, first.append second⟩

/-- A command line is read as what is left of it, with the installer and the tools. -/
theorem read_commandLine (installer : List String) {parts : List Part}
    (apart : ∀ part ∈ parts, part.IsApart) (installs : .installer ∈ parts)
    (some : parts.filterMap Part.tool? ≠ [])
    (read : CommandLine.read (remainder parts) = .ok arguments) :
    CommandLine.read (commandLine installer parts) = .ok { arguments with
      subTools := .some (parts.filterMap Part.tool?)
      installer := .some (Text.Words.join installer) } := by
  rcases exists_givesParts installer apart with ⟨gifts, others, given⟩
  have left : readCommand (parts.flatMap Part.otherWords) = .ok (.ofGifts others, []) :=
    CommandLine.readCommand_eq_ok_iff.2 ⟨others, given.left, given.fitToo, rfl⟩
  have whole : readCommand (parts.flatMap (Part.written installer)) = .ok (.ofGifts gifts, []) :=
    CommandLine.readCommand_eq_ok_iff.2 ⟨gifts, given.whole, given.fit, rfl⟩
  have alike : arguments = .ofGifts others := by
    have again := CommandLine.read_provision.1 read
    rw [left] at again
    cases again
    rfl
  have last : (valuesOf gifts .installer).getLast? = .some (Text.Words.join installer) := by
    have notNone := given.installs installs
    rw [List.getLast?_eq_some_getLast notNone,
      given.installers _ (List.getLast_mem notNone)]
  rw [commandLine, CommandLine.read_provision, whole, alike]
  simp only [Arguments.ofGifts, given.same, given.tools, last, ne_eq, reduceCtorEq,
    not_false_eq_true, CommandLine.collected_of_ne_nil some]

/-! ## The installers of a session -/

/-- The start of an installer of some words for a tool in a clone. -/
def startOf (installer : List String) (clone : Path) (tool : String) : Start where
  command := installer ++ [(clone / Path.ofString tool).toString]
  directory := some clone
  ownSession := true

/-- What a session started: git, and then installers, which were given their words and the path
of a tool in the clone.  These are all tools if there is a workspace and no process fails. -/
structure HandsOver (settings : Settings) (spec : Spec) (before after : World)
    (fetching : List Call) (attempts : List Attempt) : Prop where
  calls : after.calls = before.calls ++ (fetching ++ attempts.map Attempt.call)
  issued : ∀ call ∈ fetching, ∃ arguments,
    call.start = (provisionerOf settings).git.start arguments
  starts : (attempts.map fun attempt => attempt.call.start) =
    (settings.tools.take attempts.length).map (startOf settings.installer spec.clonePath)
  complete : (∃ preexisting, (Workspace.survey before.tree spec).2 = .ok preexisting) →
    (∀ call ∈ fetching, (provisionerOf settings).git.Serves spec.clonePath call) →
    (∀ attempt ∈ attempts, attempt.succeeded = true) →
    (attempts.map fun attempt => attempt.call.start) =
      settings.tools.map (startOf settings.installer spec.clonePath)

/-- Every session that knows what to run hands over the installer and the tools of its
settings. -/
theorem run_handsOver_of_configure {words : List String} {given : Arguments}
    (read : CommandLine.read words = .ok given)
    (known : configure circumstances given = .ok (set, spec)) (host : Host) (before : World) :
    ∃ fetching attempts outcome after,
      (run circumstances words).Leads host before outcome after ∧
      HandsOver set spec before after fetching attempts := by
  rcases (run circumstances words).exists_leads host before with ⟨outcome, after, ran⟩
  cases run_went ran with
  | stopped stopped => cases read.symm.trans stopped
  | misconfigured other misconfigured =>
      cases read.symm.trans other
      cases known.symm.trans misconfigured
  | ran other again provisioned closes =>
      cases read.symm.trans other
      cases known.symm.trans again
      rcases Provisioner.provision_ended (isQuiet_sink set) provisioned with
        ⟨fetching, attempts, ended⟩
      have same := sameDeeds_configured set spec host before
      have tools := Settings.tools_of_toSpec (toSpec_of_configure known)
      refine ⟨fetching, attempts, _, after, ran, ?_⟩
      exact {
        calls := by
          rw [closes.calls, ended.inOrder.calls, same.calls]
        issued := ended.inOrder.issued
        starts := by
          rw [ended.starts, tools]
          rfl
        complete := by
          rintro ⟨preexisting, surveyed⟩ serve succeeded
          rw [← same.tree] at surveyed
          have all := ended.attempted preexisting surveyed serve succeeded
          have long : attempts.length = spec.tools.length := by
            rw [← all, List.length_map]
          rw [ended.starts, long, List.take_length, tools]
          rfl }

/-- Whatever the words of an installer and the paths of tools are made of, they reach the
settings, and from there the installers, as they are. -/
theorem run_commandLine_handsOver {parts : List Part} {name : String} (rest : List String)
    (named : Text.isBlankText name = false) (installs : .installer ∈ parts)
    (some : parts.filterMap Part.tool? ≠ [])
    (lead : ∀ tool ∈ parts.filterMap Part.tool?, Spec.LeadsInside tool)
    (apart : ∀ part ∈ parts, part.IsApart)
    (read : CommandLine.read (remainder parts) = .ok arguments)
    (known : configure circumstances { arguments with subTools, installer := spelled } =
      .ok (set, spec)) (host : Host) (before : World) :
    let words := commandLine (name :: rest) parts
    let tools := parts.filterMap Part.tool?
    let settings := { set with tools, installer := name :: rest }
    let planned := { spec with tools }
    ∃ given fetching attempts outcome after,
      CommandLine.read words = .ok given ∧
      configure circumstances given = .ok (settings, planned) ∧
      (run circumstances words).Leads host before outcome after ∧
      HandsOver settings planned before after fetching attempts := by
  intro words tools settings planned
  have whole := read_commandLine (name :: rest) apart installs some read
  have configured := configure_replaced rest known named lead
  rcases run_handsOver_of_configure whole configured host before with
    ⟨fetching, attempts, outcome, after, ran, handed⟩
  exact ⟨_, fetching, attempts, outcome, after, whole, configured, ran, handed⟩

/-- Words with an apostrophe, with nothing in them and with a dash in front reach the
installers, and so do paths with blanks and equals signs. -/
theorem run_commandLine_handsOver_quoted :
    let parts : List Part := [.tool "--a=b", .other ["--source-url", "https://example.test/t.git"],
      .installer, .tool "c d\n"]
    let words := ["provision", "--sub-tool=--a=b", "--source-url", "https://example.test/t.git",
      "--installer='make it' 'it'\"'\"'s' '' '-p\\'", "--sub-tool=c d\n"]
    let installer := ["make it", "it's", "", "-p\\"]
    commandLine installer parts = words ∧
      ∃ settings spec fetching attempts outcome after,
        settings.installer = installer ∧ settings.tools = ["--a=b", "c d\n"] ∧
        spec.clonePath = (⟨.root, ["tmp"]⟩ : Path) / Path.ofString "t" ∧
        (run {} words).Leads .quiet {} outcome after ∧
        HandsOver settings spec {} after fetching attempts := by
  intro parts words installer
  have written : commandLine installer parts = words := by decide +kernel
  have lead : ∀ tool ∈ parts.filterMap Part.tool?, Spec.LeadsInside tool := by
    simp only [← Spec.staysInside_iff]
    decide +kernel
  have apart : ∀ part ∈ parts, part.IsApart := by
    simp only [parts, List.forall_mem_cons]
    refine ⟨trivial, ⟨{ sourceUrl := some "https://example.test/t.git" }, ?_, rfl, rfl⟩, trivial,
      trivial, List.forall_mem_nil _⟩
    decide +kernel
  let arguments : Arguments := { sourceUrl := some "https://example.test/t.git" }
  have read : CommandLine.read (remainder parts) = .ok arguments := by decide +kernel
  let set : Settings := {
    source := "https://example.test/t.git", revision := none, cloneName := none, tools := [],
    root := ⟨.root, ["tmp"]⟩, git := "git", installer := Settings.defaultInstaller,
    limit := none, gateway := none, level := .info, jsonLogs := false }
  let spec : Spec := {
    source := "https://example.test/t.git", cloneName := "t", tools := [],
    root := ⟨.root, ["tmp"]⟩, revision := none }
  have known : configure {} { arguments with subTools := none, installer := none } =
      .ok (set, spec) := by decide +kernel
  have named : Text.isBlankText "make it" = false := by decide +kernel
  rcases run_commandLine_handsOver ["it's", "", "-p\\"] named (by simp [parts])
    (by simp [parts, Part.tool?]) lead apart read known .quiet {} with
    ⟨given, fetching, attempts, outcome, after, _, _, ran, handed⟩
  rw [← written]
  refine ⟨written, _, _, fetching, attempts, outcome, after, ?_, ?_, ?_, ran, handed⟩
  · rfl
  · rfl
  · rfl

end Session

end Toolset
