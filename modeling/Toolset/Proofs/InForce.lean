import Toolset.Proofs.Precedence

/-!
# The value in force

A setting that is no list has the value that is given for it, else the one that its variable
holds.  This is what the fields are looked up for from which settings are checked, however
many variables there are besides and however settings are said to be read.
-/

namespace Toolset

namespace Settings

variable {environment : Environment} {reading : Environment.Reading} {name : String}

/-- The value of a setting that is no list, as the environment has it. -/
def inEnvironment? (environment : Environment) (reading : Environment.Reading) (name : String) :
    Option Value :=
  (environment.setting? reading name).map fun text =>
    if reading.nothing == some text then .null else .text text

/-- The value that counts for a setting that is no list: the one that is given, else that of the
environment. -/
def inForce? (environment : Environment) (overrides : List Field) (name : String) :
    Option Value :=
  (field? (given overrides) name).or
    (inEnvironment? environment (readingOf (given overrides)) name)

theorem fromVariable_single : fromVariable environment reading name false =
    .ok ((inEnvironment? environment reading name).map fun value => (name, value)).toList := by
  rw [fromVariable, inEnvironment?]
  cases environment.setting? reading name with
  | none => rfl
  | some text => by_cases nothing : reading.nothing = some text <;> simp [nothing]

theorem fst_of_mem_fromVariable {isList : Bool} {set : List Field}
    (read : fromVariable environment reading name isList = .ok set) :
    ∀ field ∈ set, field.1 = name := by
  intro field member
  rw [fromVariable] at read
  split at read
  · cases read
    split at member
    · rw [List.mem_singleton.1 member]
    · cases member
  · split at read
    · cases read
      rw [List.mem_singleton.1 member]
    · split at read
      · split at read <;> cases read
        · cases member
        · rw [List.mem_singleton.1 member]
      · cases read
        rw [List.mem_singleton.1 member]

theorem fromVariables_cons_iff {setting : String × Bool} {rest : List (String × Bool)}
    {set : List Field} :
    fromVariables environment reading (setting :: rest) = .ok set ↔
      ∃ first others, fromVariable environment reading setting.1 setting.2 = .ok first ∧
        fromVariables environment reading rest = .ok others ∧ first ++ others = set := by
  rw [fromVariables]
  cases fromVariable environment reading setting.1 setting.2 with
  | error refusal => simp [bind, Except.bind]
  | ok first =>
      cases fromVariables environment reading rest with
      | error refusal => simp [bind, Except.bind]
      | ok others => simp [bind, Except.bind, pure, Except.pure]

/-- What the variables say is said of their own settings. -/
theorem fst_of_mem_fromVariables {settings : List (String × Bool)} {set : List Field}
    (read : fromVariables environment reading settings = .ok set) :
    ∀ field ∈ set, field.1 ∈ settings.map Prod.fst := by
  induction settings generalizing set with
  | nil =>
      cases read
      nofun
  | cons setting rest ih =>
      rcases fromVariables_cons_iff.1 read with ⟨first, others, single, readRest, rfl⟩
      intro field member
      rw [List.map_cons, List.mem_cons]
      rcases List.mem_append.1 member with member | member
      · exact .inl (fst_of_mem_fromVariable single field member)
      · exact .inr (ih readRest field member)

theorem field?_eq_none {fields : List Field} (absent : ∀ field ∈ fields, field.1 ≠ name) :
    field? fields name = none := by
  rw [field?, List.lookup_eq_none_iff]
  intro field member
  rw [bne_iff_ne]
  exact (absent field member).symm

/-- Of distinct settings each that is no list is found as its variable has it. -/
theorem field?_fromVariables {settings : List (String × Bool)} {set : List Field}
    (read : fromVariables environment reading settings = .ok set)
    (distinct : (settings.map Prod.fst).Nodup) (member : (name, false) ∈ settings) :
    field? set name = inEnvironment? environment reading name := by
  induction settings generalizing set with
  | nil => cases member
  | cons setting rest ih =>
      rw [List.map_cons, List.nodup_cons] at distinct
      rcases fromVariables_cons_iff.1 read with ⟨first, others, single, readRest, rfl⟩
      rw [field?_append]
      cases member with
      | head =>
          have absent : field? others name = none := field?_eq_none fun field member same =>
            distinct.1 (same ▸ fst_of_mem_fromVariables readRest field member)
          rw [fromVariable_single, Except.ok.injEq] at single
          rw [absent, Option.or_none, ← single]
          cases inEnvironment? environment reading name with
          | none => rfl
          | some value => exact List.lookup_cons_self
      | tail _ member =>
          have absent : field? first name = none := field?_eq_none fun field listed same =>
            distinct.1 (fst_of_mem_fromVariable single field listed ▸ same ▸
              List.mem_map_of_mem member)
          rw [absent, Option.none_or, ih readRest distinct.2 member]

/-- Settings that were read have what counts for a setting that is no list. -/
theorem field?_inForce {overrides set : List Field}
    (read : fromVariables environment (readingOf (given overrides)) names = .ok set)
    (isSingle : (name, false) ∈ names) :
    field? ((given overrides).filter (fun field => !readingNames.contains field.1) ++ set) name =
      inForce? environment overrides name := by
  have apart : ∀ setting ∈ names, readingNames.contains setting.1 = false := by decide
  have kept : readingNames.contains name = false := apart _ isSingle
  rw [field?_append, field?_fromVariables read (by decide) isSingle, inForce?, field?,
    lookup_filter (fun key => !readingNames.contains key), kept]
  rfl

end Settings

end Toolset
