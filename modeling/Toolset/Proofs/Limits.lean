import Toolset.Proofs.Comparing
import Toolset.Proofs.Options
import Toolset.Proofs.Specifying

/-!
# The limit of a step

The limit of the steps is given on the command line, in the environment or as a value of its
own, and each place reads numbers in its own way.  However it is given, a limit is accepted if
it is not at most zero.  So it is above zero whenever it is a number; what is not a number is
accepted as well.  No accepted limit is over before a step starts.
-/

namespace Toolset

namespace Settings

/-! ## Numbers that are accepted -/

/-- A number is accepted as a limit if it is above zero, or no number at all. -/
theorem checkLimit_eq_ok_iff {value : Value} {limit : Option Float} :
    checkLimit value = .ok limit ↔ value = .null ∧ limit = none ∨
      ∃ x, checkNumber value = .ok x ∧ ¬x ≤ 0 ∧ limit = some x := by
  have rule {value : Value} (some : value ≠ .null) :
      checkLimit value = (checkNumber value >>= limitRule) := by
    cases value <;> first | rfl | exact absurd rfl some
  by_cases nothing : value = .null
  · subst nothing
    simp [checkLimit, checkNumber, Checked.reject, eq_comm]
  · rw [rule nothing, Checked.bind_eq_ok_iff]
    simp only [nothing, false_and, false_or]
    refine exists_congr fun x => and_congr_right fun _ => ?_
    rw [limitRule]
    by_cases refused : x ≤ 0 <;> simp [refused, Checked.reject, eq_comm]

end Settings

theorem Decimal.zero_lt_iff_of_not_le {x : Float} (above : ¬x ≤ 0) : 0 < x ↔ x.isNaN = false := by
  rw [Decimal.lt_iff_not_le rfl]
  exact and_iff_left above

namespace Session

/-- What counts as the limit of the steps, and what is made of it. -/
structure Limited (settings : Settings) (value : Option Value) : Prop where
  /-- There is no limit if nothing is said of one, else there is the number that is read. -/
  made : settings.limit = none ∧ (value = none ∨ value = some .null) ∨
    ∃ given x, value = some given ∧ Settings.checkNumber given = .ok x ∧ settings.limit = some x
  positive_iff : ∀ x, settings.limit = some x → (0 < x ↔ x.isNaN = false)
  /-- No step of a run starts with a limit that is over. -/
  begins : ∀ limit, (provisionerOf settings).git.limit = some limit ∨
    (provisionerOf settings).installer.limit = some limit → limit.isOver = false

theorem limited_of_read {circumstances : Circumstances} {overrides : List Field}
    {settings : Settings} (accepted : Settings.read circumstances overrides = .ok settings) :
    Limited settings
      (Settings.inForce? circumstances.environment overrides "step_timeout_seconds") := by
  rcases Settings.found_of_read accepted with ⟨set, read, passed⟩
  have limited := passed.limit
  rw [Checked.field_eq_ok_iff, Settings.field?_inForce read (by decide)] at limited
  -- a limit that is there passed the rule, so it is not at most zero
  have above : ∀ x, settings.limit = some x → ¬x ≤ 0 := by
    intro x there
    rw [there] at limited
    rcases limited with ⟨value, _, checked⟩ | ⟨_, default⟩
    · rcases Settings.checkLimit_eq_ok_iff.1 checked with ⟨_, none⟩ | ⟨y, _, above, same⟩
      · cases none
      · rw [Option.some.inj same]
        exact above
    · cases default
  refine ⟨?_, fun x there => Decimal.zero_lt_iff_of_not_le (above x there), fun limit there => ?_⟩
  · rcases limited with ⟨value, found, checked⟩ | ⟨absent, default⟩
    · rcases Settings.checkLimit_eq_ok_iff.1 checked with ⟨rfl, none⟩ | ⟨x, number, _, there⟩
      · exact .inl ⟨none, .inr found⟩
      · exact .inr ⟨value, x, found, number, there⟩
    · exact .inl ⟨(Option.some.inj default).symm, .inl absent⟩
  · have given : settings.limit.map Seconds.real = some limit := there.elim id id
    rcases Option.map_eq_some_iff.1 given with ⟨x, isSet, rfl⟩
    exact decide_eq_false (above x isSet)

/-- On the command line a number counts before that of the environment. -/
theorem inForce?_overrides (environment : Environment) (arguments : CommandLine.Arguments)
    (installer : Option (List String)) :
    Settings.inForce? environment (overrides arguments installer) "step_timeout_seconds" =
      (arguments.timeout.map Value.real).or
        ((environment.setting? {} "step_timeout_seconds").map .text) := by
  have distinct := nodup_overrides arguments installer
  have listed : field? (overrides arguments installer) "step_timeout_seconds" =
      some ((arguments.timeout.map Value.real).getD .null) := rfl
  have given : field? (Settings.given (overrides arguments installer)) "step_timeout_seconds" =
      arguments.timeout.map Value.real := by
    apply Option.ext
    intro value
    rw [Settings.field?_given_iff distinct, listed]
    cases arguments.timeout with
    | none => simp [eq_comm]
    | some x =>
        simp only [Option.map_some, Option.getD_some, Option.some.injEq, and_iff_left_iff_imp]
        rintro rfl
        nofun
  rw [Settings.inForce?, given, readingOf_overrides]
  rfl

/-- However a limit is given, as a value, by a variable or on the command line: where the
settings are accepted, it is the number that is read, and above zero unless it is no number.
The last text on the command line counts. -/
theorem limit_positive_iff (circumstances : Circumstances) :
    (∀ overrides settings, Settings.read circumstances overrides = .ok settings →
      Limited settings
        (Settings.inForce? circumstances.environment overrides "step_timeout_seconds")) ∧
    ∀ arguments settings, settingsOf circumstances arguments = .ok settings →
      Limited settings ((arguments.timeout.map Value.real).or
        ((circumstances.environment.setting? {} "step_timeout_seconds").map .text)) ∧
      ∀ words, CommandLine.read (CommandLine.commandName :: words) = .ok arguments →
        ∃ gifts, CommandLine.Offers words gifts ∧ arguments.timeout =
          (CommandLine.valuesOf gifts .timeout).getLast?.bind Decimal.givenNumber? := by
  refine ⟨fun overrides settings => limited_of_read, fun arguments settings accepted => ⟨?_, ?_⟩⟩
  · cases worded : installerWords arguments.installer with
    | error fault =>
        rw [settingsOf, worded] at accepted
        cases accepted
    | ok installer =>
        rw [← inForce?_overrides circumstances.environment arguments installer]
        apply limited_of_read
        rw [settingsOf, worded] at accepted
        change Except.mapError _ (Settings.read circumstances (overrides arguments installer)) = _
          at accepted
        cases read : Settings.read circumstances (overrides arguments installer) with
        | error refusal =>
            rw [read] at accepted
            cases accepted
        | ok others =>
            rw [read] at accepted
            cases accepted
            rfl
  · intro words read
    rcases CommandLine.readCommand_eq_ok_iff.1 (CommandLine.read_provision.1 read) with
      ⟨gifts, offers, _, rfl⟩
    exact ⟨gifts, offers, rfl⟩

/-- A variable that says that the limit is no number is accepted, and the limit is not above
zero. -/
theorem limit_positive_iff_nan :
    let circumstances : Circumstances := {
      environment := [("PROVISION_SOURCE_URL", "https://example.test/a.git"),
        ("PROVISION_STEP_TIMEOUT_SECONDS", "nan")] }
    ∃ settings x, Settings.read circumstances [] = .ok settings ∧ settings.limit = some x ∧
      ¬0 < x := by
  intro circumstances
  have noNumber :
      ((Settings.read circumstances []).toOption.bind Settings.limit).map Float.isNaN =
        some true := by decide +kernel
  rcases Option.map_eq_some_iff.1 noNumber with ⟨x, there, isNaN⟩
  rcases Option.bind_eq_some_iff.1 there with ⟨settings, read, there⟩
  have accepted : Settings.read circumstances [] = .ok settings := by
    cases found : Settings.read circumstances [] with
    | error refusal =>
        rw [found] at read
        cases read
    | ok others =>
        rw [found] at read
        cases read
        rfl
  have positive := ((limit_positive_iff circumstances).1 [] settings accepted).positive_iff x there
  refine ⟨settings, x, accepted, there, fun above => ?_⟩
  rw [positive.1 above] at isNaN
  cases isNaN

end Session

end Toolset
