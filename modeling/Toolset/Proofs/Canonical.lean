import Toolset.Proofs.Containment
import Toolset.Proofs.NormalForms

/-!
# Canonical specifications

A specification is written in many ways: with blanks around its texts, with a blank revision or
none, and with empty steps and steps to here in the path of its workspace root.  None of that
changes what is accepted or what is made of it, and a specification that was made once is made
again from what it says itself.
-/

namespace Toolset

/-! ## Ways to write the same -/

/-- Two texts that differ in the blanks at their ends only. -/
def Text.SameWithin (first second : String) : Prop :=
  ∃ core before after before' after' : List Char,
    first.toList = before ++ core ++ after ∧ second.toList = before' ++ core ++ after' ∧
      ∀ c ∈ before ++ after ++ before' ++ after', Text.isBlank c = true

/-- Two absolute paths that differ in empty steps and in steps to here only.  The slashes at the
front are as many. -/
structure Path.SameSteps (first second : String) : Prop where
  absolute : first.toList.head? = some '/'
  slashes : first.toList.takeWhile (· == '/') = second.toList.takeWhile (· == '/')
  steps : (first.toList.splitOn '/').filter (fun step => step ≠ [] ∧ step ≠ ['.']) =
    (second.toList.splitOn '/').filter (fun step => step ≠ [] ∧ step ≠ ['.'])

/-- Two fields that are the same, or texts that are alike in some way. -/
inductive AlikeBy (alike : String → String → Prop) : Option Value → Option Value → Prop where
  | same (value : Option Value) : AlikeBy alike value value
  | texts {first second : String} (given : alike first second) :
      AlikeBy alike (some (.text first)) (some (.text second))

namespace Text

variable {before core after : List Char} {first second : String}

theorem trim_append (blankBefore : ∀ c ∈ before, isBlank c = true)
    (blankAfter : ∀ c ∈ after, isBlank c = true) :
    trim (before ++ core ++ after) = trim core := by
  have front : trimFront (before ++ core ++ after) = trimFront (core ++ after) := by
    rw [trimFront, List.append_assoc, List.dropWhile_append_of_pos blankBefore, trimFront]
  by_cases blank : ∀ c ∈ core, isBlank c = true
  · have all : ∀ c ∈ before ++ core ++ after, isBlank c = true := by
      simpa only [List.forall_mem_append] using ⟨⟨blankBefore, blank⟩, blankAfter⟩
    rw [trim_eq_nil_iff.2 all, trim_eq_nil_iff.2 blank]
  · -- Something of the core is left at the front, and the blanks after it are dropped at the back.
    have left : (core.dropWhile isBlank).isEmpty = false := by
      rw [← Bool.not_eq_true, List.isEmpty_iff, List.dropWhile_eq_nil_iff]
      exact blank
    have blankBack : ∀ c ∈ after.reverse, isBlank c = true := by
      simpa only [List.mem_reverse] using blankAfter
    rw [trim, front, trimFront, List.dropWhile_append, if_neg (by rw [left]; simp), trimBack,
      List.reverse_append, List.dropWhile_append_of_pos blankBack]
    rfl

theorem SameWithin.strip_eq (same : SameWithin first second) : strip first = strip second := by
  rcases same with ⟨core, before, after, before', after', spelled, spelled', blank⟩
  simp only [List.forall_mem_append] at blank
  rcases blank with ⟨⟨⟨blankBefore, blankAfter⟩, blankBefore'⟩, blankAfter'⟩
  rw [strip, strip, spelled, spelled', trim_append blankBefore blankAfter,
    trim_append blankBefore' blankAfter']

theorem SameWithin.symm (same : SameWithin first second) : SameWithin second first := by
  rcases same with ⟨core, before, after, before', after', spelled, spelled', blank⟩
  refine ⟨core, before', after', before, after, spelled', spelled, fun c member => blank c ?_⟩
  simp only [List.mem_append] at member ⊢
  tauto

end Text

namespace Path

variable {first second : String}

theorem takeWhile_slash_eq_nil_iff {cs : List Char} :
    cs.takeWhile (· == '/') = [] ↔ cs.head? ≠ some '/' := by
  cases cs <;> simp

theorem anchorOf_takeWhile (cs : List Char) : anchorOf (cs.takeWhile (· == '/')) = anchorOf cs := by
  have none {cs : List Char} (other : ∀ rest, cs ≠ '/' :: rest) : cs.takeWhile (· == '/') = [] := by
    rw [takeWhile_slash_eq_nil_iff, ne_eq, List.head?_eq_some_iff, not_exists]
    exact other
  rw [anchorOf.eq_def cs]
  split
  · simp [anchorOf]
  · rename_i rest other
    simp [none other, anchorOf]
  · rename_i rest _ other
    simp [none other, anchorOf]
  · rename_i other
    rw [none other, anchorOf.eq_def]

theorem SameSteps.ofString_eq (same : SameSteps first second) :
    ofString first = ofString second := by
  have anchor : anchorOf first.toList = anchorOf second.toList := by
    rw [← anchorOf_takeWhile, same.slashes, anchorOf_takeWhile]
  have kept : isName = fun step => decide (step ≠ [] ∧ step ≠ ['.']) := by
    funext step
    rw [Bool.eq_iff_iff]
    simp [isName]
  have names : splitNames first.toList = splitNames second.toList := by
    rw [splitNames, splitNames, kept, same.steps]
  rw [ofString, ofString, ofChars, ofChars, anchor, names]

theorem SameSteps.symm (same : SameSteps first second) : SameSteps second first where
  absolute := by
    by_contra relative
    have none := same.slashes.trans (takeWhile_slash_eq_nil_iff.2 relative)
    exact takeWhile_slash_eq_nil_iff.1 none same.absolute
  slashes := same.slashes.symm
  steps := same.steps.symm

end Path

theorem AlikeBy.symm {alike : String → String → Prop}
    (back : ∀ first second, alike first second → alike second first) {first second : Option Value}
    (related : AlikeBy alike first second) : AlikeBy alike second first := by
  cases related with
  | same => exact .same _
  | texts given => exact .texts (back _ _ given)

namespace Spec

/-- A revision that pins nothing: it is missing, nothing or a blank text. -/
inductive IsUnpinned : Option Value → Prop where
  | missing : IsUnpinned none
  | nothing : IsUnpinned (some .null)
  | blank {text : String} (said : ∀ c ∈ text.toList, Text.isBlank c = true) :
      IsUnpinned (some (.text text))

/-- Fields of two specifications that differ only in blanks around the texts, in how it is said
that nothing is pinned, and in empty steps and steps to here in the path of the workspace root. -/
structure SayTheSame (fields others : List Field) : Prop where
  source : AlikeBy Text.SameWithin (field? fields "source_url") (field? others "source_url")
  cloneName : AlikeBy Text.SameWithin (field? fields "local_clone_name")
    (field? others "local_clone_name")
  tools : field? fields "sub_tool_paths" = field? others "sub_tool_paths"
  root : AlikeBy Path.SameSteps (field? fields "workspace_root") (field? others "workspace_root")
  revision : AlikeBy Text.SameWithin (field? fields "revision") (field? others "revision") ∨
    IsUnpinned (field? fields "revision") ∧ IsUnpinned (field? others "revision")

variable {fields others : List Field} {spec : Spec}

theorem SayTheSame.symm (same : SayTheSame fields others) : SayTheSame others fields where
  source := same.source.symm fun _ _ => Text.SameWithin.symm
  cloneName := same.cloneName.symm fun _ _ => Text.SameWithin.symm
  tools := same.tools.symm
  root := same.root.symm fun _ _ => Path.SameSteps.symm
  revision := same.revision.imp (AlikeBy.symm fun _ _ => Text.SameWithin.symm) And.symm

/-! ## What is checked of texts that are alike -/

/-- A check that sees no difference between texts that are alike sees none between fields that
are. -/
theorem checked_of_alikeBy {α : Type} {alike : String → String → Prop} {check : Value → Checked α}
    {a : α} (sees : ∀ first second, alike first second → check (.text first) = .ok a →
      check (.text second) = .ok a)
    {first second : Option Value} (related : AlikeBy alike first second)
    (passed : ∃ value, first = some value ∧ check value = .ok a) :
    ∃ value, second = some value ∧ check value = .ok a := by
  cases related with
  | same => exact passed
  | texts given =>
      simp only [Option.some.injEq, exists_eq_left'] at passed ⊢
      exact sees _ _ given passed

variable {first second : String}

theorem checkSource_sameWithin {source : String} (same : Text.SameWithin first second)
    (passed : checkSource (.text first) = .ok source) :
    checkSource (.text second) = .ok source := by
  simp only [checkSource_eq_ok_iff, Value.text.injEq, exists_eq_left',
    ← Text.isBlankText_eq_false_iff] at passed ⊢
  rwa [← Text.isBlankText_strip, ← same.strip_eq, Text.isBlankText_strip]

theorem checkCloneName_sameWithin {name : String} (same : Text.SameWithin first second)
    (passed : checkCloneName (.text first) = .ok name) :
    checkCloneName (.text second) = .ok name := by
  simp only [checkCloneName_eq_ok_iff, Value.text.injEq, exists_eq_left', isCloneName_iff]
    at passed ⊢
  rwa [← same.strip_eq]

theorem checkAbsolutePath_sameSteps {root : Path} (same : Path.SameSteps first second)
    (passed : checkAbsolutePath (.text first) = .ok root) :
    checkAbsolutePath (.text second) = .ok root := by
  simp only [checkAbsolutePath_eq_ok_iff, Value.text.injEq, exists_eq_left'] at passed ⊢
  exact ⟨same.symm.absolute, passed.2.trans same.ofString_eq⟩

theorem checkRevision_text (text : String) : checkRevision (.text text) =
    .ok (if Text.isBlankText text then none else some (Text.strip text)) := rfl

theorem checkRevision_sameWithin (same : Text.SameWithin first second) :
    checkRevision (.text first) = checkRevision (.text second) := by
  rw [checkRevision_text, checkRevision_text, ← Text.isBlankText_strip first, same.strip_eq,
    Text.isBlankText_strip]

theorem revision_of_isUnpinned (unpinned : IsUnpinned (field? fields "revision")) :
    Checked.field fields "revision" (some none) checkRevision = .ok none := by
  rw [Checked.field_eq_ok_iff]
  generalize field? fields "revision" = given at unpinned
  cases unpinned with
  | missing => exact .inr ⟨rfl, rfl⟩
  | nothing => exact .inl ⟨_, rfl, rfl⟩
  | blank said =>
      refine .inl ⟨_, rfl, ?_⟩
      have blank : Text.isBlankText _ = true := List.all_eq_true.2 said
      rw [checkRevision_text, if_pos blank]

theorem SayTheSame.revision_eq (same : SayTheSame fields others) :
    Checked.field fields "revision" (some none) checkRevision =
      Checked.field others "revision" (some none) checkRevision := by
  rcases same.revision with alike | ⟨unpinned, unpinned'⟩
  · rw [Checked.field.eq_def, Checked.field.eq_def]
    generalize field? fields "revision" = given, field? others "revision" = given' at alike
    cases alike with
    | same => rfl
    | texts given => simp only [checkRevision_sameWithin given]
  · rw [revision_of_isUnpinned unpinned, revision_of_isUnpinned unpinned']

theorem SayTheSame.accepted (same : SayTheSame fields others) (accepted : Accepted fields spec) :
    Accepted others spec where
  source := checked_of_alikeBy (fun _ _ => checkSource_sameWithin) same.source accepted.source
  cloneName := checked_of_alikeBy (fun _ _ => checkCloneName_sameWithin) same.cloneName
    accepted.cloneName
  tools := by
    rw [Checked.field.eq_def, ← same.tools, ← Checked.field.eq_def]
    exact accepted.tools
  root := checked_of_alikeBy (fun _ _ => checkAbsolutePath_sameSteps) same.root accepted.root
  revision := by
    rw [← same.revision_eq]
    exact accepted.revision

/-! ## Specifications made again -/

theorem IsCloneName.strip {text : String} (named : IsCloneName text) :
    IsCloneName (Text.strip text) := by
  rw [isCloneName_iff] at named ⊢
  rwa [Text.strip_strip]

theorem checkRevision_optional {value : Value} {revision : Option String}
    (passed : checkRevision value = .ok revision) :
    checkRevision (.optional revision) = .ok revision := by
  cases revision with
  | none => rfl
  | some kept =>
      rcases checkRevision_isOk_iff.1 ⟨_, passed⟩ with rfl | ⟨text, rfl⟩
      · cases passed
      · rw [checkRevision_text] at passed
        split at passed
        · cases passed
        · rename_i said
          cases passed
          rw [Value.optional, checkRevision_text, Text.isBlankText_strip, if_neg said,
            Text.strip_strip]

/-- What an accepted specification says of itself is accepted, and makes it again. -/
theorem Accepted.again (accepted : Accepted fields spec) : Accepted spec.fields spec where
  source := by
    rcases accepted.source with ⟨_, _, passed⟩
    rcases checkSource_eq_ok_iff.1 passed with ⟨text, _, said, same⟩
    rw [← Text.isBlankText_eq_false_iff, ← Text.isBlankText_strip, ← same,
      Text.isBlankText_eq_false_iff] at said
    exact ⟨_, rfl, checkSource_eq_ok_iff.2 ⟨_, rfl, said, by rw [same, Text.strip_strip]⟩⟩
  cloneName := by
    rcases accepted.cloneName with ⟨_, _, passed⟩
    rcases checkCloneName_eq_ok_iff.1 passed with ⟨text, _, named, same⟩
    exact ⟨_, rfl, checkCloneName_eq_ok_iff.2
      ⟨_, rfl, same ▸ named.strip, by rw [same, Text.strip_strip]⟩⟩
  tools := Checked.field_eq_ok_iff.2
    (.inl ⟨_, rfl, checkTools_eq_ok_iff.2 ⟨rfl, accepted.tools_lead.2⟩⟩)
  root := by
    rcases accepted.root with ⟨_, _, passed⟩
    rcases checkAbsolutePath_eq_ok_iff.1 passed with ⟨text, _, absolute, same⟩
    have read : Path.ofString spec.root.toString = spec.root := by
      rw [same, Path.ofString_toString_ofString]
    refine ⟨_, rfl, checkAbsolutePath_eq_ok_iff.2 ⟨_, rfl, ?_, read.symm⟩⟩
    rw [← Path.isAbsolute_ofString_iff, read, same, Path.isAbsolute_ofString_iff]
    exact absolute
  revision := by
    refine Checked.field_eq_ok_iff.2 (.inl ⟨_, rfl, ?_⟩)
    rcases Checked.field_eq_ok_iff.1 accepted.revision with ⟨_, _, passed⟩ | ⟨_, default⟩
    · exact checkRevision_optional passed
    · rw [← Option.some.inj default]
      rfl

/-- A specification that was made is made again from what it says itself, and nothing is changed
by that.  Fields that say the same are accepted both or neither, and make one specification. -/
theorem ofFields_canonical (fields : List Field) :
    (∀ spec, ofFields fields = .ok spec →
      ∃ again, ofFields spec.fields = .ok again ∧ again = spec ∧ hash again = hash spec ∧
        again.clonePath = spec.clonePath ∧ again.isPinned = spec.isPinned) ∧
      ∀ others, SayTheSame fields others →
        ∀ spec, ofFields fields = .ok spec ↔ ofFields others = .ok spec := by
  simp only [ofFields_eq_ok_iff]
  exact ⟨fun spec accepted => ⟨spec, accepted.again, rfl, rfl, rfl, rfl⟩,
    fun others same spec => ⟨same.accepted, same.symm.accepted⟩⟩

/-- The fields of the sample in other words. -/
def reworded : List Field :=
  [("revision", .text " \t"), ("workspace_root", .text "/.//work/"),
   ("sub_tool_paths", .texts sample.tools), ("source_url", .text ("\n" ++ sample.source ++ "  ")),
   ("local_clone_name", .text (" " ++ sample.cloneName))]

theorem sayTheSame_reworded : SayTheSame sample.fields reworded where
  source := .texts
    ⟨sample.source.toList, [], [], ['\n'], [' ', ' '], rfl, rfl, List.all_eq_true.1 rfl⟩
  cloneName := .texts ⟨sample.cloneName.toList, [], [], [' '], [], rfl, rfl, List.all_eq_true.1 rfl⟩
  tools := rfl
  root := .texts ⟨rfl, rfl, rfl⟩
  revision := .inr ⟨.nothing, .blank (List.all_eq_true.1 rfl)⟩

theorem ofFields_canonical_reworded :
    SayTheSame sample.fields reworded ∧ ofFields reworded = .ok sample ∧
      ∃ again, ofFields sample.fields = .ok again ∧ again = sample ∧ hash again = hash sample ∧
        again.clonePath = sample.clonePath ∧ again.isPinned = sample.isPinned := by
  have made : ofFields reworded = .ok sample :=
    ((ofFields_canonical sample.fields).2 reworded sayTheSame_reworded sample).1 ofFields_sample
  exact ⟨sayTheSame_reworded, made, (ofFields_canonical reworded).1 sample made⟩

end Spec

end Toolset
