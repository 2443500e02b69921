import Toolset.Proofs.Acceptance

/-!
# Where the clone and the tools lie

A specification is accepted exactly if its fields say what they have to.  The clone is then
one step below the workspace root, which is absolute, and each tool lies in the clone or
below it: the names that lead to it go down only.
-/

namespace Toolset

/-- The parts of a path: its anchor, if it has one, and its names. -/
def Path.parts (path : Path) : List String :=
  match path.anchor with
  | .here => path.names
  | .root => "/" :: path.names
  | .doubleRoot => "//" :: path.names

theorem Path.parts_append (anchor : Anchor) (names more : List String) :
    Path.parts ⟨anchor, names ++ more⟩ = Path.parts ⟨anchor, names⟩ ++ more := by
  cases anchor <;> rfl

theorem Path.isAbsolute_ofString_iff {text : String} :
    (Path.ofString text).isAbsolute = true ↔ text.toList.head? = some '/' := by
  rw [isAbsolute, ofString, ofChars, anchorOf.eq_def]
  split <;> simp_all [List.head?_eq_some_iff]

/-- A path goes up exactly if a double point stands between its slashes. -/
theorem Path.climbs_ofString_iff {text : String} :
    (Path.ofString text).climbs = true ↔ ['.', '.'] ∈ text.toList.splitOn '/' := by
  have up : ".." = String.ofList ['.', '.'] := rfl
  rw [climbs, List.contains_iff_mem, ofString, ofChars, splitNames, up, List.mem_map]
  constructor
  · rintro ⟨name, member, same⟩
    rw [← String.ofList_injective same]
    exact (List.mem_filter.1 member).1
  · intro member
    exact ⟨_, List.mem_filter.2 ⟨member, rfl⟩, rfl⟩

theorem Text.isBlankText_eq_false_iff {text : String} :
    Text.isBlankText text = false ↔ ∃ c ∈ text.toList, Text.isBlank c = false := by
  simp [isBlankText]

/-! ## Checks that pass -/

namespace Checked

variable {α : Type}

theorem items_eq_ok_iff {check : Value → Checked α} {values : List Value} {results : List α} :
    items check values = .ok results ↔
      List.Forall₂ (fun value result => check value = .ok result) values results := by
  suffices numbered : ∀ n, all ((values.zipIdx n).map fun entry =>
      within (.index entry.2) (check entry.1)) = .ok results ↔
        List.Forall₂ (fun value result => check value = .ok result) values results from numbered 0
  induction values generalizing results with
  | nil => intro n; cases results <;> simp [all]
  | cons first rest ih =>
      intro n
      simp only [List.zipIdx_cons, List.map_cons, all, also_eq_ok_iff, within_eq_ok_iff,
        Except.ok.injEq, ih]
      constructor
      · rintro ⟨_, others, ⟨_, value, rfl, passed, rfl⟩, later, rfl⟩
        exact .cons passed later
      · intro passed
        cases passed with
        | cons passed later => exact ⟨_, _, ⟨_, _, rfl, passed, rfl⟩, later, rfl⟩

end Checked

theorem checkText_eq_ok_iff {value : Value} {text : String} :
    checkText value = .ok text ↔ value = .text text := by
  cases value <;> simp [checkText, Checked.reject]

theorem checkSomeText_eq_ok_iff {value : Value} {text : String} :
    checkSomeText value = .ok text ↔ value = .text text ∧ text ≠ "" := by
  cases value with
  | text given =>
      rw [checkSomeText]
      split <;> simp_all [Checked.reject]
      rintro rfl
      assumption
  | _ => simp [checkSomeText, Checked.reject]

theorem Value.texts_injective : Function.Injective Value.texts := by
  intro first second same
  rw [Value.texts, Value.texts, Value.list.injEq] at same
  exact List.map_injective_iff.2 (fun _ _ => Value.text.inj) same

/-- A list of texts is read as it is, and nothing else is. -/
theorem checkTexts_eq_ok_iff {complaint : Complaint} {value : Value} {texts : List String} :
    checkTexts complaint value = .ok texts ↔ value = .texts texts := by
  cases value with
  | list values =>
      rw [checkTexts, Checked.items_eq_ok_iff, Value.texts, Value.list.injEq,
        ← List.forall₂_eq_eq_eq, List.forall₂_map_right_iff]
      simp only [checkText_eq_ok_iff]
  | _ => simp [checkTexts, Checked.reject, Value.texts]

theorem checkAbsolutePath_eq_ok_iff {value : Value} {root : Path} :
    checkAbsolutePath value = .ok root ↔ ∃ text, value = .text text ∧
      text.toList.head? = some '/' ∧ root = Path.ofString text := by
  cases value with
  | text given =>
      change (if (Path.ofString given).isAbsolute then .ok (Path.ofString given)
        else Checked.reject _) = _ ↔ _
      simp only [Path.isAbsolute_ofString_iff]
      split <;> simp_all [Checked.reject, eq_comm (a := root)]
  | _ => simp [checkAbsolutePath, checkPath, Checked.reject, bind, Except.bind]

namespace Spec

/-- The text, without the blanks around it, names an entry of a directory. -/
structure IsCloneName (text : String) : Prop where
  notEmpty : Text.strip text ≠ ""
  noSlash : '/' ∉ (Text.strip text).toList
  noBackslash : '\\' ∉ (Text.strip text).toList
  notHere : Text.strip text ≠ "."
  notUp : Text.strip text ≠ ".."

theorem isCloneName_iff {text : String} :
    IsCloneName text ↔ Text.strip text ≠ "" ∧ isSingle (Text.strip text) = true := by
  simp only [isSingle, Bool.not_eq_true', Bool.or_eq_false_iff, List.contains_eq_mem,
    decide_eq_false_iff_not, beq_eq_false_iff_ne]
  constructor
  · intro name
    exact ⟨name.notEmpty, ⟨⟨name.noSlash, name.noBackslash⟩, name.notHere⟩, name.notUp⟩
  · rintro ⟨notEmpty, ⟨⟨noSlash, noBackslash⟩, notHere⟩, notUp⟩
    exact ⟨notEmpty, noSlash, noBackslash, notHere, notUp⟩

/-- The text is the path of something inside a directory. -/
structure LeadsInside (text : String) : Prop where
  notBlank : ∃ c ∈ text.toList, Text.isBlank c = false
  relative : text.toList.head? ≠ some '/'
  downward : ['.', '.'] ∉ text.toList.splitOn '/'

theorem staysInside_iff {tool : String} : staysInside tool = true ↔ LeadsInside tool := by
  rw [staysInside, Bool.not_eq_true', Bool.or_eq_false_iff, Bool.or_eq_false_iff,
    Text.isBlankText_eq_false_iff, ← Bool.not_eq_true, ← Bool.not_eq_true,
    Path.isAbsolute_ofString_iff, Path.climbs_ofString_iff]
  exact ⟨fun ⟨⟨notBlank, relative⟩, downward⟩ => ⟨notBlank, relative, downward⟩,
    fun inside => ⟨⟨inside.notBlank, inside.relative⟩, inside.downward⟩⟩

theorem checkSource_eq_ok_iff {value : Value} {source : String} :
    checkSource value = .ok source ↔ ∃ text, value = .text text ∧
      (∃ c ∈ text.toList, Text.isBlank c = false) ∧ source = Text.strip text := by
  rw [checkSource, Checked.bind_eq_ok_iff]
  refine exists_congr fun text => ?_
  rw [checkSomeText_eq_ok_iff, sourceRule, and_assoc, ← Text.isBlankText_eq_false_iff]
  refine and_congr_right fun _ => ?_
  by_cases blank : Text.isBlankText text = true
  · simp [blank, Checked.reject]
  · have notEmpty : text ≠ "" := by
      rintro rfl
      exact blank rfl
    simp [blank, notEmpty, eq_comm]

theorem checkCloneName_eq_ok_iff {value : Value} {name : String} :
    checkCloneName value = .ok name ↔
      ∃ text, value = .text text ∧ IsCloneName text ∧ name = Text.strip text := by
  rw [checkCloneName, Checked.bind_eq_ok_iff]
  refine exists_congr fun text => ?_
  rw [checkSomeText_eq_ok_iff, and_assoc, isCloneName_iff]
  refine and_congr_right fun _ => ?_
  have empty : text = "" → Text.strip text = "" := by
    rintro rfl
    rfl
  by_cases blank : Text.strip text = ""
  · simp [blank, Checked.reject]
  · have notEmpty : text ≠ "" := fun none => blank (empty none)
    by_cases single : isSingle (Text.strip text) = true <;>
      simp [blank, single, notEmpty, Checked.reject, eq_comm (a := name)]

theorem checkTools_eq_ok_iff {value : Value} {tools : List String} :
    checkTools value = .ok tools ↔ value = .texts tools ∧ ∀ tool ∈ tools, LeadsInside tool := by
  rw [checkTools, Checked.bind_eq_ok_iff]
  simp only [checkTexts_eq_ok_iff, ← staysInside_iff]
  constructor
  · rintro ⟨given, rfl, passed⟩
    cases found : given.find? fun tool => !staysInside tool with
    | some tool =>
        rw [found] at passed
        cases passed
    | none =>
        rw [found] at passed
        cases passed
        exact ⟨rfl, by simpa using found⟩
  · rintro ⟨rfl, inside⟩
    refine ⟨tools, rfl, ?_⟩
    rw [List.find?_eq_none.2 (by simpa using inside)]

theorem checkRevision_isOk_iff {value : Value} :
    (∃ revision, checkRevision value = .ok revision) ↔
      value = .null ∨ ∃ text, value = .text text := by
  cases value <;> simp [checkRevision, checkOptionalText, Checked.reject, bind, Except.bind]

/-- What the fields of a specification have to say. Other fields do not matter. -/
structure Acceptable (fields : List Field) : Prop where
  source : ∃ text, field? fields "source_url" = some (.text text) ∧
    ∃ c ∈ text.toList, Text.isBlank c = false
  cloneName : ∃ text, field? fields "local_clone_name" = some (.text text) ∧ IsCloneName text
  tools : field? fields "sub_tool_paths" = none ∨
    ∃ tools, field? fields "sub_tool_paths" = some (.texts tools) ∧
      ∀ tool ∈ tools, LeadsInside tool
  root : ∃ text, field? fields "workspace_root" = some (.text text) ∧
    text.toList.head? = some '/'
  revision : field? fields "revision" = none ∨ field? fields "revision" = some .null ∨
    ∃ text, field? fields "revision" = some (.text text)

/-- What is removed and what is installed lies where it belongs. -/
structure Contained (spec : Spec) : Prop where
  absolute : spec.root.isAbsolute = true
  /-- The clone is one step below the workspace root. -/
  clone : spec.clonePath.parts = spec.root.parts ++ [spec.cloneName]
  below : spec.clonePath.parent = spec.root ∧ spec.clonePath ≠ spec.root
  /-- The way from the clone to a tool goes down only. -/
  tools : ∀ tool ∈ spec.tools, ∃ names,
    (spec.toolPath tool).parts = spec.clonePath.parts ++ names ∧ ".." ∉ names

theorem ofFields_eq_ok_iff {fields : List Field} {spec : Spec} :
    ofFields fields = .ok spec ↔ Accepted fields spec := by
  refine ⟨accepted_of_ofFields, fun accepted => ?_⟩
  rw [ofFields, Checked.field_eq_ok_iff.2 (.inl accepted.source),
    Checked.field_eq_ok_iff.2 (.inl accepted.cloneName), accepted.tools,
    Checked.field_eq_ok_iff.2 (.inl accepted.root), accepted.revision]
  rfl

theorem Accepted.acceptable {fields : List Field} {spec : Spec} (accepted : Accepted fields spec) :
    Acceptable fields where
  source := by
    rcases accepted.source with ⟨value, there, passed⟩
    rcases checkSource_eq_ok_iff.1 passed with ⟨text, rfl, notBlank, _⟩
    exact ⟨text, there, notBlank⟩
  cloneName := by
    rcases accepted.cloneName with ⟨value, there, passed⟩
    rcases checkCloneName_eq_ok_iff.1 passed with ⟨text, rfl, named, _⟩
    exact ⟨text, there, named⟩
  tools := by
    rcases Checked.field_eq_ok_iff.1 accepted.tools with ⟨value, there, passed⟩ | ⟨absent, _⟩
    · rcases checkTools_eq_ok_iff.1 passed with ⟨rfl, inside⟩
      exact .inr ⟨_, there, inside⟩
    · exact .inl absent
  root := by
    rcases accepted.root with ⟨value, there, passed⟩
    rcases checkAbsolutePath_eq_ok_iff.1 passed with ⟨text, rfl, absolute, _⟩
    exact ⟨text, there, absolute⟩
  revision := by
    rcases Checked.field_eq_ok_iff.1 accepted.revision with ⟨value, there, passed⟩ | ⟨absent, _⟩
    · rcases checkRevision_isOk_iff.1 ⟨_, passed⟩ with rfl | ⟨text, rfl⟩
      · exact .inr (.inl there)
      · exact .inr (.inr ⟨text, there⟩)
    · exact .inl absent

theorem exists_accepted_iff {fields : List Field} :
    (∃ spec, Accepted fields spec) ↔ Acceptable fields := by
  refine ⟨fun ⟨_, accepted⟩ => accepted.acceptable, fun acceptable => ?_⟩
  rcases acceptable.source with ⟨source, sourceThere, notBlank⟩
  rcases acceptable.cloneName with ⟨name, nameThere, named⟩
  rcases acceptable.root with ⟨root, rootThere, absolute⟩
  have tools : ∃ tools, Checked.field fields "sub_tool_paths" (some []) checkTools = .ok tools := by
    rcases acceptable.tools with absent | ⟨tools, there, inside⟩
    · exact ⟨[], Checked.field_eq_ok_iff.2 (.inr ⟨absent, rfl⟩)⟩
    · exact ⟨tools, Checked.field_eq_ok_iff.2
        (.inl ⟨_, there, checkTools_eq_ok_iff.2 ⟨rfl, inside⟩⟩)⟩
  have revision : ∃ revision,
      Checked.field fields "revision" (some none) checkRevision = .ok revision := by
    have passes {value : Value} (there : field? fields "revision" = some value)
        (isText : value = .null ∨ ∃ text, value = .text text) : ∃ revision,
        Checked.field fields "revision" (some none) checkRevision = .ok revision := by
      rcases checkRevision_isOk_iff.2 isText with ⟨revision, passed⟩
      exact ⟨revision, Checked.field_eq_ok_iff.2 (.inl ⟨value, there, passed⟩)⟩
    rcases acceptable.revision with absent | there | ⟨text, there⟩
    · exact ⟨none, Checked.field_eq_ok_iff.2 (.inr ⟨absent, rfl⟩)⟩
    · exact passes there (.inl rfl)
    · exact passes there (.inr ⟨text, rfl⟩)
  rcases tools with ⟨tools, toolsPassed⟩
  rcases revision with ⟨revision, revisionPassed⟩
  exact ⟨⟨Text.strip source, Text.strip name, tools, Path.ofString root, revision⟩,
    ⟨_, sourceThere, checkSource_eq_ok_iff.2 ⟨source, rfl, notBlank, rfl⟩⟩,
    ⟨_, nameThere, checkCloneName_eq_ok_iff.2 ⟨name, rfl, named, rfl⟩⟩, toolsPassed,
    ⟨_, rootThere, checkAbsolutePath_eq_ok_iff.2 ⟨root, rfl, absolute, rfl⟩⟩, revisionPassed⟩

/-- The tools of an accepted specification are those that its fields list, if they list any,
and each leads inside. -/
theorem Accepted.tools_lead {fields : List Field} {spec : Spec} (accepted : Accepted fields spec) :
    (field? fields "sub_tool_paths" = some (.texts spec.tools) ∨
      field? fields "sub_tool_paths" = none ∧ spec.tools = []) ∧
      ∀ tool ∈ spec.tools, LeadsInside tool := by
  rcases Checked.field_eq_ok_iff.1 accepted.tools with ⟨value, there, passed⟩ | ⟨absent, none⟩
  · rcases checkTools_eq_ok_iff.1 passed with ⟨rfl, inside⟩
    exact ⟨.inl there, inside⟩
  · rw [← Option.some.inj none]
    exact ⟨.inr ⟨absent, rfl⟩, nofun⟩

theorem Accepted.contained {fields : List Field} {spec : Spec} (accepted : Accepted fields spec) :
    Contained spec where
  absolute := by
    rcases accepted.root with ⟨_, _, passed⟩
    rcases checkAbsolutePath_eq_ok_iff.1 passed with ⟨text, _, absolute, same⟩
    rw [same]
    exact Path.isAbsolute_ofString_iff.2 absolute
  clone := by rw [accepted.clonePath_eq, Path.parts_append]
  below := by
    rw [accepted.clonePath_eq]
    refine ⟨by rw [Path.parent, List.dropLast_concat], fun same => ?_⟩
    have longer := congrArg (fun path : Path => path.names.length) same
    simp at longer
  tools := by
    intro tool member
    have inside := accepted.tools_lead.2 tool member
    have relative : (Path.ofString tool).isAbsolute = false := by
      rw [← Bool.not_eq_true, Path.isAbsolute_ofString_iff]
      exact inside.relative
    refine ⟨(Path.ofString tool).names, ?_, fun up => ?_⟩
    · rw [toolPath, Path.div_def, Path.join_of_relative relative, Path.parts_append]
    · exact inside.downward (Path.climbs_ofString_iff.1 (List.contains_iff_mem.2 up))

/-- What is accepted, and where it lies. -/
theorem ofFields_contained (fields : List Field) :
    ((∃ spec, ofFields fields = .ok spec) ↔ Acceptable fields) ∧
      ∀ spec, ofFields fields = .ok spec →
        (∃ text, field? fields "local_clone_name" = some (.text text) ∧
          spec.cloneName = Text.strip text) ∧
        (field? fields "sub_tool_paths" = some (.texts spec.tools) ∨
          field? fields "sub_tool_paths" = none ∧ spec.tools = []) ∧
        Contained spec := by
  simp only [ofFields_eq_ok_iff]
  refine ⟨exists_accepted_iff, fun spec accepted => ⟨?_, accepted.tools_lead.1, accepted.contained⟩⟩
  rcases accepted.cloneName with ⟨value, there, passed⟩
  rcases checkCloneName_eq_ok_iff.1 passed with ⟨text, rfl, _, same⟩
  exact ⟨text, there, same⟩

theorem ofFields_contained_sample : ofFields sample.fields = .ok sample ∧ Contained sample :=
  ⟨ofFields_sample, ((ofFields_contained sample.fields).2 sample ofFields_sample).2.2⟩

end Spec

end Toolset
