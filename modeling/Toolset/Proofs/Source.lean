import Toolset.Proofs.Stages

/-!
# The source of a run

The first stage of a run sees to the source.  A clone that was there before the
run is left as it is, and git is not called.  Otherwise the source is fetched; only
a sink that calls the work off when the fetch is told of keeps git from being
called.
-/

namespace Toolset

namespace Git

variable {α : Type} {git : Git} {source : String}

theorem isFailure_of_escape? {behaviour : Behaviour} {ending : Ending}
    (escapes : git.escape? behaviour = some ending) : ending.isFailure = false := by
  cases behaviour with
  | refused interruption =>
      cases interruption <;> simp only [escape?, Option.some.injEq, reduceCtorEq] at escapes
      subst escapes
      rfl
  | nullCharacter =>
      cases escapes
      rfl
  | runs process =>
      cases verdict : git.verdict process <;>
        simp only [escape?, verdict, Option.some.injEq, reduceCtorEq] at escapes
      all_goals
        subst escapes
        rfl

theorem Ends.documented_iff {calls : List Call} {outcome : Except Ending α}
    (ends : git.Ends source calls outcome) :
    Documented outcome ↔ ∀ call ∈ calls, git.escape? call.behaviour = none := by
  cases outcome with
  | ok a => exact ⟨fun _ => ends.regular_of_ok, fun _ => documented_ok⟩
  | error ending =>
      rw [documented_error]
      rcases ends.error_cases with ⟨cause, rfl, regular⟩ | ⟨last, member, escapes⟩
      · exact ⟨fun _ => regular, fun _ => rfl⟩
      · rw [Ending.isDocumented_of_not_isFailure (isFailure_of_escape? escapes)]
        constructor
        · intro documented
          cases documented
        · intro regular
          rw [regular last member] at escapes
          cases escapes

end Git

namespace Provisioner

variable {α : Type} {provisioner : Provisioner} {spec : Spec} {host : Host}
  {before middle after : World}

/-- Calls of git that follow one another are a stage in which nothing is told. -/
theorem fetching_stage {source : String} {calls : List Call} {outcome : Except Ending α}
    (ran : provisioner.git.Ran source before after calls outcome) :
    provisioner.Stage before after (calls.map .fetching) [] outcome where
  added := by
    rcases ran.added with ⟨deeds, trace, added⟩
    have passages : (calls.map Errand.fetching).map provisioner.passage =
        calls.map provisioner.git.passage := by
      rw [List.map_map]
      rfl
    have issued : (calls.map Errand.fetching).map Errand.call = calls := by
      rw [List.map_map]
      exact List.map_id calls
    rw [passages, issued]
    exact ⟨deeds, trace, added⟩
  steps := by simp
  settled := by
    intro a equal
    subst equal
    rw [List.forall_mem_map]
    intro call member
    rw [course, ran.ends.collected_of_ok call member]
    rfl
  earlier := by
    rw [← List.map_dropLast, List.forall_mem_map]
    intro call member
    rw [course, ran.ends.collected_dropLast call member]
    rfl
  escaped := by
    intro ending escapes
    rcases List.eq_nil_or_concat calls with rfl | ⟨before, last, whole⟩
    · cases escapes
    · rw [List.concat_eq_append] at whole
      subst whole
      rw [List.map_append, List.map_singleton, List.getLast?_concat] at escapes
      exact ran.ends.error_of_escape escapes
  documented_iff := by
    rw [ran.ends.documented_iff]
    constructor
    · intro regular
      exact ⟨List.forall_mem_map.2 regular, by simp⟩
    · intro regular
      exact List.forall_mem_map.1 regular.errands

/-- What sees to the source of a run: its calls of git, what was told meanwhile,
and whether the source was fetched. -/
structure Sourced (provisioner : Provisioner) (spec : Spec) (host : Host) (preexisting : Bool)
    (before after : World) (calls : List Call) (told : List Event)
    (outcome : Except Ending Bool) : Prop where
  stage : provisioner.Stage before after (calls.map .fetching) told outcome
  issued : ∀ call ∈ calls, ∃ arguments, call.start = provisioner.git.start arguments
  untouched_iff : calls = [] ↔ preexisting = true ∨
    provisioner.sink.cancels (event host before spec.source .stepStarted fetchDetails) = true
  fetched : ∀ fetched, outcome = .ok fetched → fetched = !preexisting
  failed : ∀ failure cleanup, outcome = .error (.failed failure cleanup) →
    ∃ cause, failure = .fetch spec.source cause

theorem Sourced.calls_eq {preexisting : Bool} {calls : List Call} {told : List Event}
    {outcome : Except Ending Bool}
    (sourced : provisioner.Sourced spec host preexisting before after calls told outcome) :
    after.calls = before.calls ++ calls := by
  rcases sourced.stage.added with ⟨_, _, added⟩
  rw [added.calls, List.map_map]
  exact congrArg (_ ++ ·) (List.map_id calls)

theorem fetch_of_failed {source : String} {calls : List Call} {failure : Failure}
    {cleanup : Option CleanupWarning}
    (ends : provisioner.git.Ends source calls
      (.error (.failed failure cleanup) : Except Ending α)) :
    ∃ cause, failure = .fetch source cause := by
  rcases ends.error_cases with ⟨cause, equal, _⟩ | ⟨last, _, escapes⟩
  · cases equal
    exact ⟨cause, rfl⟩
  · cases Git.isFailure_of_escape? escapes

/-- The source is seen to in one of two ways: a clone that is there is told of, or
the source is fetched between two events. -/
theorem ensureSource_leads {workspace : Workspace} {outcome : Except Ending Bool}
    (ran : (provisioner.ensureSource spec workspace).Leads host before outcome after) :
    ∃ calls told, provisioner.Sourced spec host workspace.preexisting before after calls told
      outcome := by
  rw [ensureSource] at ran
  cases there : workspace.preexisting with
  | true =>
      rw [there, if_pos rfl, Act.leads_log_bind] at ran
      rcases Act.leads_bind.1 ran with ⟨_, _, told, ran⟩ | ⟨ending, told, rfl⟩
      · rcases Act.leads_pure.1 ran with ⟨rfl, rfl⟩
        exact ⟨[], _, (tell_stage rfl told).of_ok.logged, by simp, by simp, by simp, by simp⟩
      · rcases cancels_of_not_told told with ⟨_, rfl⟩
        exact ⟨[], _, (tell_stage rfl told).of_error.logged, by simp, by simp, by simp, by simp⟩
  | false =>
      rw [there, if_neg (by simp)] at ran
      rcases Act.leads_bind.1 ran with ⟨_, opened, begun, ran⟩ | ⟨ending, begun, rfl⟩
      -- git is called from here on, whatever the fetch ends with
      · have goesOn := not_cancels_of_told begun
        have beginning := tell_stage rfl begun
        rcases Act.leads_bind.1 ran with ⟨_, fetched, fetch, ran⟩ | ⟨ending, fetch, rfl⟩
        · rcases Git.fetch_ran fetch with ⟨call, calls, fetching, _⟩
          have stage := beginning.trans (fetching_stage fetching)
          rcases Act.leads_bind.1 ran with ⟨_, _, told, ran⟩ | ⟨ending, told, rfl⟩
          · rcases Act.leads_pure.1 ran with ⟨rfl, rfl⟩
            exact ⟨call :: calls, _, (stage.tell rfl told).of_ok, fetching.issued,
              by simp [goesOn], by simp, by simp⟩
          · rcases cancels_of_not_told told with ⟨_, rfl⟩
            exact ⟨call :: calls, _, (stage.tell rfl told).of_error, fetching.issued,
              by simp [goesOn], by simp, by simp⟩
        · rcases Git.fetch_ran fetch with ⟨call, calls, fetching, _⟩
          refine ⟨call :: calls, _, beginning.trans (fetching_stage fetching.of_error),
            fetching.issued, by simp [goesOn], by simp, ?_⟩
          intro failure cleanup equal
          cases equal
          exact fetch_of_failed fetching.ends
      · rcases cancels_of_not_told begun with ⟨cancels, rfl⟩
        exact ⟨[], _, (tell_stage rfl begun).of_error, by simp, by simp [cancels], by simp, by simp⟩

/-! ## The fetch in it -/

/-- What was done to see to the source: nothing, or a fetch, which ended in some way. -/
inductive Sourcing (provisioner : Provisioner) (spec : Spec) (host : Host)
    (before after : World) : Option (Except Ending Unit) → Prop where
  | spared : SameDeeds before after → Sourcing provisioner spec host before after none
  | fetched {opened closed : World} {ended : Except Ending Unit} :
      SameDeeds before opened →
      (provisioner.git.fetch spec.source spec.clonePath spec.revision).Leads host opened ended
        closed →
      SameDeeds closed after → Sourcing provisioner spec host before after (some ended)

/-- What is told of a source, by the fetch that was made. -/
def sourceSayings (spec : Spec) : Option (Except Ending Unit) → List Saying
  | none => [⟨.stepCompleted, spec.source, fetchedDetails true⟩]
  | some (.ok _) =>
      [⟨.stepStarted, spec.source, fetchDetails⟩,
       ⟨.stepCompleted, spec.source, fetchedDetails false⟩]
  | some (.error _) => [⟨.stepStarted, spec.source, fetchDetails⟩]

/-- What seeing to the source ends with, by the fetch that was made. -/
def sourceOutcome : Option (Except Ending Unit) → Except Ending Bool
  | none => .ok false
  | some ended => ended.map fun _ => true

/-- How the source was seen to: by which fetch, if any, and what is said of that if the sink
calls nothing off. -/
structure Sources (provisioner : Provisioner) (spec : Spec) (host : Host) (preexisting : Bool)
    (before after : World) (fetch : Option (Except Ending Unit)) (outcome : Except Ending Bool) :
    Prop where
  sourcing : provisioner.Sourcing spec host before after fetch
  present : preexisting = true → fetch = none
  reached : ∀ fetched, outcome = .ok fetched →
    preexisting = true ∨ fetch = some (.ok ())
  absent : provisioner.sink.IsQuiet → fetch = none → preexisting = true
  ended : provisioner.sink.IsQuiet → outcome = sourceOutcome fetch
  said : provisioner.sink.IsQuiet → ∃ told, after.told = before.told ++ told ∧
    told.map Event.saying = sourceSayings spec fetch

/-- The source is there: the clone was there before, or each step of its fetch succeeded. -/
def HasSource (provisioner : Provisioner) (spec : Spec) (preexisting : Bool)
    (fetching : List Call) : Prop :=
  preexisting = true ∨
    provisioner.git.Fetched spec.source spec.clonePath spec.revision fetching

theorem Sourcing.fetched_iff {ended : Except Ending Unit} {fetching : List Call}
    (sourcing : provisioner.Sourcing spec host before after (some ended))
    (calls : after.calls = before.calls ++ fetching) :
    ended = .ok () ↔ provisioner.git.Fetched spec.source spec.clonePath spec.revision fetching := by
  cases sourcing with
  | fetched begun fetch closing =>
      rcases Git.fetch_ran fetch with ⟨call, rest, ran, fetched⟩
      rw [closing.calls, ran.calls_eq, begun.calls] at calls
      rw [← List.append_cancel_left calls]
      exact fetched

/-- If nobody calls it off, the source is seen to exactly if it is there then. -/
theorem Sources.hasSource_iff {preexisting : Bool} {fetch : Option (Except Ending Unit)}
    {outcome : Except Ending Bool} {fetching : List Call} (quiet : provisioner.sink.IsQuiet)
    (sources : provisioner.Sources spec host preexisting before after fetch outcome)
    (calls : after.calls = before.calls ++ fetching) :
    (∃ fetched, outcome = .ok fetched) ↔ provisioner.HasSource spec preexisting fetching := by
  have sourcing := sources.sourcing
  rw [sources.ended quiet]
  cases fetch with
  | none => exact iff_of_true ⟨false, rfl⟩ (.inl (sources.absent quiet rfl))
  | some ended =>
      have absent : preexisting ≠ true := fun present => by cases sources.present present
      rw [HasSource, ← sourcing.fetched_iff calls, or_iff_right absent]
      cases ended with
      | ok _ => exact iff_of_true ⟨true, rfl⟩ rfl
      | error ending => simp [sourceOutcome, Except.map]

theorem Sources.hasSource_of_serves {preexisting : Bool} {fetch : Option (Except Ending Unit)}
    {outcome : Except Ending Bool} {fetching : List Call} (quiet : provisioner.sink.IsQuiet)
    (sources : provisioner.Sources spec host preexisting before after fetch outcome)
    (calls : after.calls = before.calls ++ fetching)
    (serve : ∀ call ∈ fetching, provisioner.git.Serves spec.clonePath call) :
    provisioner.HasSource spec preexisting fetching := by
  have sourcing := sources.sourcing
  rw [← sources.hasSource_iff quiet calls, sources.ended quiet]
  cases fetch with
  | none => exact ⟨false, rfl⟩
  | some ended =>
      cases sourcing with
      | fetched begun fetch closing =>
          rcases Git.rests_fetch _ _ _ _ fetch with ⟨made, added, returns⟩
          rw [closing.calls, added, begun.calls] at calls
          rw [← List.append_cancel_left calls] at serve
          rcases returns serve with ⟨_, rfl⟩
          exact ⟨true, rfl⟩

theorem sources_of_present {workspace : Workspace} {outcome : Except Ending Bool}
    (present : workspace.preexisting = true)
    (ran : (provisioner.ensureSource spec workspace).Leads host before outcome after) :
    provisioner.Sources spec host true before after none outcome := by
  rw [ensureSource, present, if_pos rfl, Act.leads_log_bind] at ran
  have logged := SameDeeds.logged before host (presentRecord workspace)
  rcases Act.leads_bind.1 ran with ⟨_, _, told, ran⟩ | ⟨ending, told, rfl⟩
  · rcases Act.leads_pure.1 ran with ⟨rfl, rfl⟩
    refine ⟨.spared (logged.trans (tell_leads told).1), fun _ => rfl, fun _ _ => .inl rfl,
      fun _ _ => rfl, fun _ => rfl, ?_⟩
    intro quiet
    rcases tell_of_quiet quiet told with ⟨_, _, event, added, spoken⟩
    exact ⟨[event], by simpa using added, by simp [spoken, sourceSayings]⟩
  · refine ⟨.spared (logged.trans (tell_leads told).1), fun _ => rfl, fun _ _ => .inl rfl,
      fun _ _ => rfl, ?_, ?_⟩
    all_goals
      intro quiet
      cases (tell_of_quiet quiet told).1

/-- A source that is not there is fetched, unless the sink calls that off. -/
theorem sources_of_absent {workspace : Workspace} {outcome : Except Ending Bool}
    (owns : workspace.path = spec.clonePath) (absent : workspace.preexisting = false)
    (ran : (provisioner.ensureSource spec workspace).Leads host before outcome after) :
    ∃ fetch, provisioner.Sources spec host false before after fetch outcome := by
  rw [ensureSource, absent, if_neg (by simp), owns] at ran
  rcases Act.leads_bind.1 ran with ⟨_, opened, begun, ran⟩ | ⟨ending, begun, rfl⟩
  · have first := (tell_leads begun).1
    rcases Act.leads_bind.1 ran with ⟨_, closed, fetch, ran⟩ | ⟨ending, fetch, rfl⟩
    · refine ⟨some (.ok ()), ?_⟩
      have told_of_quiet (quiet : provisioner.sink.IsQuiet) {ended : Except Ending Unit}
          (told : (tell provisioner.sink spec.source .stepCompleted (fetchedDetails false)).Leads
            host closed ended after) :
          ended = .ok () ∧ ∃ told, after.told = before.told ++ told ∧
            told.map Event.saying = sourceSayings spec (some (.ok ())) := by
        rcases tell_of_quiet quiet begun with ⟨_, _, started, addedFirst, saysFirst⟩
        rcases tell_of_quiet quiet told with ⟨equal, _, completed, added, spoken⟩
        refine ⟨equal, [started, completed], ?_, by simp [saysFirst, spoken, sourceSayings]⟩
        rw [added, Git.told_of_fetch fetch, addedFirst, List.append_assoc]
        rfl
      rcases Act.leads_bind.1 ran with ⟨_, _, told, ran⟩ | ⟨ending, told, rfl⟩
      · rcases Act.leads_pure.1 ran with ⟨rfl, rfl⟩
        exact ⟨.fetched first fetch (tell_leads told).1, by simp, by simp, by simp,
          fun _ => rfl, fun quiet => (told_of_quiet quiet told).2⟩
      · refine ⟨.fetched first fetch (tell_leads told).1, by simp, by simp, by simp, ?_, ?_⟩
        all_goals
          intro quiet
          cases (told_of_quiet quiet told).1
    · refine ⟨some (.error ending), .fetched first fetch (.refl after), by simp, by simp, by simp,
        fun _ => rfl, ?_⟩
      intro quiet
      rcases tell_of_quiet quiet begun with ⟨_, _, started, added, spoken⟩
      exact ⟨[started], by rw [Git.told_of_fetch fetch, added], by simp [spoken, sourceSayings]⟩
  · refine ⟨none, .spared (tell_leads begun).1, by simp, by simp, ?_, ?_, ?_⟩
    all_goals
      intro quiet
      cases (tell_of_quiet quiet begun).1

theorem ensureSource_sources {workspace : Workspace} {outcome : Except Ending Bool}
    (owns : workspace.path = spec.clonePath)
    (ran : (provisioner.ensureSource spec workspace).Leads host before outcome after) :
    ∃ fetch, provisioner.Sources spec host workspace.preexisting before after fetch outcome := by
  cases present : workspace.preexisting with
  | true => exact ⟨none, sources_of_present present ran⟩
  | false => exact sources_of_absent owns present ran

end Provisioner

end Toolset
