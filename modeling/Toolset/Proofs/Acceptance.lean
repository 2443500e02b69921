import Toolset.Proofs.Removal
import Toolset.Workspace

/-!
# Accepted specifications

A specification that is accepted passed the check of each of its fields.  In
particular the clone is a step down from the workspace root: it is never the root
of the file system, however the workspace root is written.
-/

namespace Toolset

namespace Checked

variable {α β : Type}

theorem also_eq_ok_iff {function : Checked (α → β)} {argument : Checked α} {b : β} :
    function.also argument = .ok b ↔ ∃ f a, function = .ok f ∧ argument = .ok a ∧ f a = b := by
  cases function <;> cases argument <;> simp [also]

theorem bind_eq_ok_iff {checked : Checked α} {next : α → Checked β} {b : β} :
    checked >>= next = .ok b ↔ ∃ a, checked = .ok a ∧ next a = .ok b := by
  constructor
  · intro passed
    cases checked with
    | ok a => exact ⟨a, rfl, passed⟩
    | error faults => cases passed
  · rintro ⟨a, rfl, passed⟩
    exact passed

theorem within_eq_ok_iff {place : Place} {checked : Checked α} {a : α} :
    within place checked = .ok a ↔ checked = .ok a := by
  cases checked <;> simp [within]

theorem field_eq_ok_iff {fields : List Field} {name : String} {default : Option α}
    {check : Value → Checked α} {a : α} :
    field fields name default check = .ok a ↔
      (∃ value, field? fields name = some value ∧ check value = .ok a) ∨
        field? fields name = none ∧ default = some a := by
  rw [field.eq_def, within_eq_ok_iff]
  cases field? fields name with
  | some value => simp
  | none => cases default <;> simp [reject]

theorem field_eq_ok {fields : List Field} {name : String} {check : Value → Checked α} {a : α}
    (passed : field fields name none check = .ok a) :
    ∃ value, field? fields name = some value ∧ check value = .ok a := by
  simpa [field_eq_ok_iff] using passed

end Checked

namespace Spec

/-- Each field of an accepted specification passed its check. -/
structure Accepted (fields : List Field) (spec : Spec) : Prop where
  source : ∃ value, field? fields "source_url" = some value ∧ checkSource value = .ok spec.source
  cloneName : ∃ value, field? fields "local_clone_name" = some value ∧
    checkCloneName value = .ok spec.cloneName
  tools : Checked.field fields "sub_tool_paths" (some []) checkTools = .ok spec.tools
  root : ∃ value, field? fields "workspace_root" = some value ∧
    checkAbsolutePath value = .ok spec.root
  revision : Checked.field fields "revision" (some none) checkRevision = .ok spec.revision

theorem accepted_of_ofFields {fields : List Field} {spec : Spec}
    (accepted : ofFields fields = .ok spec) : Accepted fields spec := by
  simp only [ofFields, Checked.also_eq_ok_iff, Except.ok.injEq] at accepted
  obtain ⟨_, revision, ⟨_, root, ⟨_, tools, ⟨_, name, ⟨_, source, rfl, sourcePassed, rfl⟩,
    namePassed, rfl⟩, toolsPassed, rfl⟩, rootPassed, rfl⟩, revisionPassed, rfl⟩ := accepted
  exact ⟨Checked.field_eq_ok sourcePassed, Checked.field_eq_ok namePassed, toolsPassed,
    Checked.field_eq_ok rootPassed, revisionPassed⟩

/-- A specification of one tool. -/
def sample : Spec where
  source := "https://example.test/tools.git"
  cloneName := "tools"
  tools := ["fuzz"]
  root := ⟨.root, ["work"]⟩
  revision := none

theorem ofFields_sample : ofFields sample.fields = .ok sample := rfl

theorem single_of_checkCloneName {value : Value} {name : String}
    (passed : checkCloneName value = .ok name) : name ≠ "" ∧ isSingle name = true := by
  rcases Checked.bind_eq_ok_iff.1 passed with ⟨text, _, passed⟩
  dsimp only at passed
  by_cases empty : (Text.strip text).isEmpty = true
  · rw [if_pos empty] at passed
    cases passed
  · rw [if_neg empty] at passed
    by_cases single : isSingle (Text.strip text) = true
    · rw [if_pos single] at passed
      cases passed
      exact ⟨by simpa using empty, single⟩
    · rw [if_neg single] at passed
      cases passed

theorem ofString_of_single {name : String} (notEmpty : name ≠ "") (single : isSingle name = true) :
    Path.ofString name = ⟨.here, [name]⟩ := by
  simp only [isSingle, Bool.not_eq_eq_eq_not, Bool.not_true, Bool.or_eq_false_iff,
    List.contains_eq_mem, decide_eq_false_iff_not, beq_eq_false_iff_ne] at single
  rcases single with ⟨⟨⟨noSlash, _⟩, notHere⟩, _⟩
  have split : name.toList.splitOn '/' = [name.toList] := by
    apply List.splitOnP_eq_singleton
    intro c member
    rw [beq_eq_false_iff_ne]
    rintro rfl
    exact noSlash member
  have isName : Path.isName name.toList = true := by
    have notPoint : name.toList ≠ ['.'] := fun equal => notHere (String.toList_inj.1 equal)
    simp [Path.isName, notEmpty, notPoint]
  have anchor : Path.anchorOf name.toList = .here := by
    rw [Path.anchorOf.eq_def]
    split <;> simp_all
  rw [Path.ofString, Path.ofChars, Path.splitNames, split, anchor]
  simp [isName]

/-- An accepted clone lies one step down from the workspace root. -/
theorem Accepted.clonePath_eq {fields : List Field} {spec : Spec}
    (accepted : Accepted fields spec) :
    spec.clonePath = ⟨spec.root.anchor, spec.root.names ++ [spec.cloneName]⟩ := by
  rcases accepted.cloneName with ⟨value, _, passed⟩
  rcases single_of_checkCloneName passed with ⟨notEmpty, single⟩
  rw [clonePath, Path.div_def, ofString_of_single notEmpty single]
  exact Path.join_of_relative rfl

theorem Accepted.isStepDown {fields : List Field} {spec : Spec}
    (accepted : Accepted fields spec) : FileTree.IsStepDown spec.cloneName := by
  rcases accepted.cloneName with ⟨value, _, passed⟩
  rcases single_of_checkCloneName passed with ⟨_, single⟩
  constructor
  · intro equal
    rw [equal] at single
    exact absurd single (by decide)
  · intro equal
    rw [equal] at single
    exact absurd single (by decide)

theorem exists?_clonePath_of_removeTree {fields : List Field} {spec : Spec}
    {tree after : FileTree} (accepted : ofFields fields = .ok spec)
    (removed : tree.removeTree spec.clonePath = .ok after) :
    after.exists? spec.clonePath = .ok false := by
  have checked := accepted_of_ofFields accepted
  refine FileTree.exists?_of_removeTree checked.isStepDown ?_ removed
  rw [checked.clonePath_eq]
  exact List.getLast?_concat

/-! ## Trees of the sample -/

theorem utf8ByteSize_work : "work".utf8ByteSize = 4 := rfl

theorem utf8ByteSize_tools : "tools".utf8ByteSize = 5 := rfl

theorem clonePath_sample : sample.clonePath = ⟨.root, ["work", "tools"]⟩ := rfl

/-- The tree that holds the workspace root of the sample. -/
def withRoot : FileTree := ⟨[(["work"], .directory 0o755)]⟩

/-- The tree that holds the clone of the sample as well. -/
def withClone : FileTree := withRoot.put ["work", "tools"] (.directory 0o755)

theorem find_withRoot (follow : Bool) :
    withRoot.find follow sample.clonePath = .ok (.free ["work", "tools"]) := by
  have root : withRoot.get? ["work"] = some (.directory 0o755) := by decide
  have absent : withRoot.get? ["work", "tools"] = none := by decide
  rw [FileTree.find, if_neg (by decide)]
  simp [clonePath_sample, FileTree.walk, root, absent, FileTree.longestName, utf8ByteSize_work,
    utf8ByteSize_tools]

theorem find_withClone (follow : Bool) :
    withClone.find follow sample.clonePath = .ok (.found ["work", "tools"] (.directory 0o755)) := by
  have root : withClone.get? ["work"] = some (.directory 0o755) := by decide
  have there : withClone.get? ["work", "tools"] = some (.directory 0o755) := by decide
  rw [FileTree.find, if_neg (by decide)]
  simp [clonePath_sample, FileTree.walk, root, there, FileTree.longestName, utf8ByteSize_work,
    utf8ByteSize_tools]

theorem exists?_withRoot : withRoot.exists? sample.clonePath = .ok false := by
  rw [FileTree.exists?, FileTree.test, if_neg (by decide), find_withRoot]

theorem exists?_withClone : withClone.exists? sample.clonePath = .ok true := by
  rw [FileTree.exists?, FileTree.test, if_neg (by decide), find_withClone]

/-- Where its root is there, the survey of the sample leaves the tree as it is. -/
theorem survey_sample {tree : FileTree} (root : tree.get? ["work"] = some (.directory 0o755)) :
    Workspace.survey tree sample = (tree, (tree.exists? sample.clonePath).mapError .system) := by
  have there : tree.isDirectory? sample.root = .ok true := by
    rw [FileTree.isDirectory?, FileTree.test, if_neg (by decide), FileTree.find,
      if_neg (by decide)]
    simp [sample, FileTree.walk, root, FileTree.longestName, utf8ByteSize_work,
      FileTree.isDirectoryEntry]
  rw [Workspace.survey, Workspace.prepare, there]

/-- The change that makes the clone of the sample. -/
def cloning : Change := .makeDirectory sample.clonePath

theorem apply_cloning : withRoot.apply cloning = (withClone, none) := by
  have made : withRoot.makeDirectory ⟨sample.clonePath.anchor, sample.clonePath.names⟩ =
      .ok withClone := by
    rw [FileTree.makeDirectory, find_withRoot]
    rfl
  rw [cloning, FileTree.apply, FileTree.makeDirectories]
  simp only [made, FileTree.ensureDirectory]

theorem apply_cloning_withClone : withClone.apply cloning = (withClone, none) := by
  have there : withClone.makeDirectory ⟨sample.clonePath.anchor, sample.clonePath.names⟩ =
      .error .exists := by
    rw [FileTree.makeDirectory, find_withClone]
  have holds : withClone.holdsDirectory sample.clonePath = true := by
    rw [FileTree.holdsDirectory, FileTree.isDirectory?, FileTree.test, if_neg (by decide),
      find_withClone]
    rfl
  rw [cloning, FileTree.apply, FileTree.makeDirectories]
  simp [there, FileTree.ensureDirectory, holds]

/-- The change that removes the clone of the sample. -/
def emptying : Change := .remove sample.clonePath

theorem apply_emptying : withClone.apply emptying = (withRoot, none) := by
  have pruned : withClone.prune ["work", "tools"] = withRoot := by decide
  rw [emptying, FileTree.apply, FileTree.remove.eq_def, find_withClone]
  simp only [pruned, FileTree.attempt]

end Spec

end Toolset
