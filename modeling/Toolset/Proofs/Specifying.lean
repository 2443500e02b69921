import Toolset.Proofs.Containment
import Toolset.Proofs.InForce
import Toolset.Proofs.NormalForms

/-!
# From settings to a specification

Settings that are accepted passed the checks of their own, and a specification is checked
again when it is made from them.  The two layers agree on what is trimmed, what is blank
and what is absolute, but a default is checked by the second one alone.  So the name of the
clone and the paths of the tools can still be wrong, and so can the workspace root, if it is
the default and the directory for what need not last is given as a relative path.  Nothing
else of the settings is changed.
-/

namespace Toolset

namespace Settings

/-! ## Accepted settings -/

/-- Each of the settings passed its check, or has its default. -/
structure Passed (root : Path) (fields : List Field) (settings : Settings) : Prop where
  source : Checked.field fields "source_url" none checkSource = .ok settings.source
  revision : Checked.field fields "revision" (some none) checkOptionalText = .ok settings.revision
  cloneName : Checked.field fields "clone_name" (some none) checkOptionalText =
    .ok settings.cloneName
  tools : Checked.field fields "sub_tools" (some []) (checkTexts .listExpected) =
    .ok settings.tools
  root : Checked.field fields "workspace_root" (some root) checkAbsolutePath = .ok settings.root
  git : Checked.field fields "git_path" (some "git") checkText = .ok settings.git
  installer : Checked.field fields "installer_command" (some defaultInstaller) checkInstaller =
    .ok settings.installer
  limit : Checked.field fields "step_timeout_seconds" (some none) checkLimit = .ok settings.limit
  gateway : Checked.field fields "metrics_gateway_url" (some none) checkOptionalText =
    .ok settings.gateway
  level : Checked.field fields "log_level" (some .info) checkLevel = .ok settings.level
  jsonLogs : Checked.field fields "json_logs" (some false) checkFlag = .ok settings.jsonLogs

theorem check_eq_ok_iff {root : Path} {fields : List Field} {settings : Settings} :
    check root fields = .ok settings ↔ Passed root fields settings := by
  constructor
  · intro accepted
    simp only [check, Checked.also_eq_ok_iff, Except.ok.injEq] at accepted
    obtain ⟨_, jsonLogs, ⟨_, level, ⟨_, gateway, ⟨_, limit, ⟨_, installer, ⟨_, git, ⟨_, root,
      ⟨_, tools, ⟨_, cloneName, ⟨_, revision, ⟨_, source, rfl, sourcePassed, rfl⟩, revisionPassed,
      rfl⟩, cloneNamePassed, rfl⟩, toolsPassed, rfl⟩, rootPassed, rfl⟩, gitPassed, rfl⟩,
      installerPassed, rfl⟩, limitPassed, rfl⟩, gatewayPassed, rfl⟩, levelPassed, rfl⟩,
      jsonLogsPassed, rfl⟩ := accepted
    exact ⟨sourcePassed, revisionPassed, cloneNamePassed, toolsPassed, rootPassed, gitPassed,
      installerPassed, limitPassed, gatewayPassed, levelPassed, jsonLogsPassed⟩
  · intro passed
    rw [check, passed.source, passed.revision, passed.cloneName, passed.tools, passed.root,
      passed.git, passed.installer, passed.limit, passed.gateway, passed.level, passed.jsonLogs]
    rfl

/-- Settings that were read are what is given and what is found in the environment, and passed
their checks. -/
theorem found_of_read {circumstances : Circumstances} {overrides : List Field}
    {settings : Settings} (accepted : read circumstances overrides = .ok settings) :
    ∃ set, fromVariables circumstances.environment (readingOf (given overrides)) names = .ok set ∧
      Passed circumstances.defaultRoot
        ((given overrides).filter (fun field => !readingNames.contains field.1) ++ set)
        settings := by
  cases found : fromVariables circumstances.environment (readingOf (given overrides)) names with
  | error refusal =>
      rw [read, found] at accepted
      cases accepted
  | ok set =>
      refine ⟨set, rfl, check_eq_ok_iff.1 ?_⟩
      rw [read_eq_of_found found] at accepted
      let kept := (given overrides).filter fun field => !readingNames.contains field.1
      cases checked : (Checked.also (.ok fun settings _ => settings)
          (check circumstances.defaultRoot (kept ++ set))).also (unknown kept) with
      | error faults =>
          rw [checked] at accepted
          cases accepted
      | ok others =>
          rw [checked] at accepted
          cases accepted
          simp only [Checked.also_eq_ok_iff, Except.ok.injEq] at checked
          rcases checked with ⟨_, _, ⟨_, _, rfl, passed, rfl⟩, _, rfl⟩
          exact passed

variable {root : Path} {fields : List Field} {settings : Settings}

theorem Passed.source_said (passed : Passed root fields settings) :
    Text.isBlankText settings.source = false ∧ Text.strip settings.source = settings.source := by
  rcases Checked.field_eq_ok passed.source with ⟨value, _, accepted⟩
  rcases Checked.bind_eq_ok_iff.1 accepted with ⟨text, _, accepted⟩
  rw [sourceRule] at accepted
  split at accepted
  · cases accepted
  · rename_i said
    rw [← Except.ok.inj accepted, Text.isBlankText_strip, Text.strip_strip]
    exact ⟨by simpa using said, rfl⟩

/-- The home directory is an absolute path. -/
def HasHome (environment : Environment) : Prop :=
  ∃ home, environment.find? (· == "HOME") = some home ∧ (Path.ofString home).isAbsolute = true

/-- The default workspace root is the path that some text spells.  It is relative if neither
the home directory nor the temporary one is absolute. -/
theorem defaultRoot_read (circumstances : Circumstances) :
    (∃ text, circumstances.defaultRoot = Path.ofString text) ∧
      (circumstances.defaultRoot.isAbsolute = false ↔ ¬HasHome circumstances.environment ∧
        (Path.ofString circumstances.temporary).isAbsolute = false) := by
  rw [Circumstances.defaultRoot, Environment.defaultRoot, HasHome]
  cases circumstances.environment.find? (· == "HOME") with
  | none => exact ⟨⟨_, rfl⟩, by simp⟩
  | some home =>
      dsimp only
      cases absolute : (Path.ofString home).isAbsolute with
      | false =>
          rw [if_neg (by simp)]
          exact ⟨⟨_, rfl⟩, by simp [absolute]⟩
      | true =>
          rw [if_pos rfl]
          exact ⟨⟨_, rfl⟩, by simp [absolute]⟩

/-- An accepted workspace root is the path that some text spells.  It is relative only if it
is the default. -/
theorem Passed.root_read {circumstances : Circumstances}
    (passed : Passed circumstances.defaultRoot fields settings) :
    (∃ text, settings.root = Path.ofString text) ∧
      (settings.root.isAbsolute = false ↔ field? fields "workspace_root" = none ∧
        ¬HasHome circumstances.environment ∧
        (Path.ofString circumstances.temporary).isAbsolute = false) := by
  rcases Checked.field_eq_ok_iff.1 passed.root with ⟨value, found, accepted⟩ | ⟨absent, default⟩
  · rcases checkAbsolutePath_eq_ok_iff.1 accepted with ⟨text, rfl, absolute, same⟩
    rw [← Path.isAbsolute_ofString_iff, ← same] at absolute
    exact ⟨⟨text, same⟩, iff_of_false (by simp [absolute]) (by simp [found])⟩
  · rw [← Option.some.inj default, absent]
    simpa using defaultRoot_read circumstances

end Settings

/-! ## What is wrong with a field -/

namespace Checked

variable {α : Type} {result : Checked α}

/-- There is nothing wrong, or one thing with the value as a whole. -/
def IsSimple (result : Checked α) : Prop :=
  ∀ faults, result = .error faults → ∃ complaint, faults = [⟨[], complaint⟩]

theorem IsSimple.bind {β : Type} {next : α → Checked β} (simple : result.IsSimple)
    (rest : ∀ a, (next a).IsSimple) : (result >>= next).IsSimple := by
  cases result with
  | ok a => exact rest a
  | error inner =>
      intro faults equal
      cases equal
      exact simple inner rfl

/-- If anything is wrong, something is said, and all that is said passes a test. -/
def Blames (result : Checked α) (test : Fault → Prop) : Prop :=
  ∀ faults, result = .error faults → faults ≠ [] ∧ ∀ fault ∈ faults, test fault

theorem Blames.also {β : Type} {make : Checked (α → β)} {test : Fault → Prop}
    (first : make.Blames test) (second : result.Blames test) : (make.also result).Blames test := by
  intro faults equal
  cases make with
  | ok f =>
      cases result with
      | ok a => cases equal
      | error more =>
          cases equal
          exact second _ rfl
  | error some =>
      cases result with
      | ok a =>
          cases equal
          exact first _ rfl
      | error more =>
          cases equal
          refine ⟨List.append_ne_nil_of_left_ne_nil (first some rfl).1 _, ?_⟩
          intro fault member
          rcases List.mem_append.1 member with member | member
          · exact (first some rfl).2 fault member
          · exact (second more rfl).2 fault member

end Checked

namespace Spec

end Spec

/-! ## The specification of settings -/

namespace Settings

open Spec (checkCloneName checkTools IsCloneName LeadsInside)

variable {fields : List Field} {settings : Settings} {circumstances : Circumstances}

/-- The revision as it is fetched: without blanks at its ends, and none if it is blank. -/
def pinned (settings : Settings) : Option String :=
  (settings.revision.filter fun revision => !Text.isBlankText revision).map Text.strip

/-- What is to be run with a clone of some name and some tools. -/
def specOf (settings : Settings) (name : String) (tools : List String) : Spec where
  source := settings.source
  cloneName := name
  tools
  root := settings.root
  revision := settings.pinned

/-- The check that the workspace root of settings has to pass in a specification. -/
def checkRoot (settings : Settings) : Checked Unit :=
  if settings.root.isAbsolute then .ok () else Checked.reject (.broken .rootRelative)

/-- Of accepted settings only the name of the clone, the tools and the workspace root can be
refused when they are checked again. -/
theorem Passed.toSpec_eq (passed : Passed circumstances.defaultRoot fields settings) :
    settings.toSpec =
      ((Checked.also (.ok fun name tools _ => settings.specOf name tools)
        (Checked.within (.name "local_clone_name")
          (checkCloneName (.text settings.chosenCloneName)))).also
        (Checked.within (.name "sub_tool_paths") (checkTools (.texts settings.tools)))).also
        (Checked.within (.name "workspace_root") settings.checkRoot) := by
  rcases passed.source_said with ⟨said, stripped⟩
  rcases passed.root_read with ⟨⟨text, read⟩, _⟩
  have source : Spec.checkSource (.text settings.source) = .ok settings.source :=
    Spec.checkSource_eq_ok_iff.2 ⟨_, rfl, Text.isBlankText_eq_false_iff.1 said, stripped.symm⟩
  have again : Path.ofString settings.root.toString = settings.root := by
    rw [read, Path.ofString_toString_ofString]
  have root : checkAbsolutePath (.text settings.root.toString) =
      if settings.root.isAbsolute then .ok settings.root
      else Checked.reject (.broken .rootRelative) := by
    change (if (Path.ofString settings.root.toString).isAbsolute then
      Except.ok (Path.ofString settings.root.toString) else _) = _
    rw [again]
  have revision : Spec.checkRevision (.optional settings.revision) = .ok settings.pinned := by
    rw [pinned]
    cases settings.revision with
    | none => rfl
    | some revision =>
        change Except.ok
          (if Text.isBlankText revision then none else some (Text.strip revision)) = _
        cases blank : Text.isBlankText revision <;> simp [Option.filter, blank]
  simp only [toSpec, Spec.ofFields, Checked.field, field?, List.lookup_cons, String.reduceBEq,
    beq_self_eq_true, source, root, revision, checkRoot]
  cases checkCloneName (.text settings.chosenCloneName) <;>
    cases checkTools (.texts settings.tools) <;> cases settings.root.isAbsolute <;> rfl

theorem Passed.toSpec_eq_ok_iff (passed : Passed circumstances.defaultRoot fields settings)
    {spec : Spec} :
    settings.toSpec = .ok spec ↔
      IsCloneName settings.chosenCloneName ∧ (∀ tool ∈ settings.tools, LeadsInside tool) ∧
        settings.root.isAbsolute = true ∧
        spec = settings.specOf (Text.strip settings.chosenCloneName) settings.tools := by
  have rooted {done : Unit} : settings.checkRoot = .ok done ↔ settings.root.isAbsolute = true := by
    rw [checkRoot]
    cases settings.root.isAbsolute <;> simp [Checked.reject]
  rw [passed.toSpec_eq]
  simp only [Checked.also_eq_ok_iff, Checked.within_eq_ok_iff, Spec.checkCloneName_eq_ok_iff,
    Spec.checkTools_eq_ok_iff, rooted]
  constructor
  · rintro ⟨_, done, ⟨_, tools, ⟨_, _, made, ⟨text, isText, named, rfl⟩, rfl⟩,
      ⟨listed, lead⟩, rfl⟩, absolute, rfl⟩
    cases made
    cases isText
    rw [← Value.texts_injective listed] at lead ⊢
    exact ⟨named, lead, absolute, rfl⟩
  · rintro ⟨named, lead, absolute, rfl⟩
    exact ⟨_, (), ⟨_, _, ⟨_, _, rfl, ⟨_, rfl, named, rfl⟩, rfl⟩, ⟨rfl, lead⟩, rfl⟩, absolute, rfl⟩

end Settings

end Toolset
