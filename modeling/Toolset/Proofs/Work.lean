import Toolset.Proofs.Source
import Toolset.Proofs.Installation

/-!
# The work of a run

The work of a run sees to the source and then installs the tools.  What the two
stages do is put together here: all calls of git come before all calls of the
installer, and a source that is not there keeps every tool from being attempted.
-/

namespace Toolset.Provisioner

variable {provisioner : Provisioner} {spec : Spec} {host : Host} {before after : World}
  {workspace : Workspace}

/-- The errands of calls of git and of attempts after them. -/
def errands (fetching : List Call) (attempts : List Attempt) : List Errand :=
  fetching.map .fetching ++ attempts.map fun attempt => .installing attempt.call

theorem call_errands (fetching : List Call) (attempts : List Attempt) :
    (errands fetching attempts).map Errand.call = fetching ++ attempts.map Attempt.call := by
  rw [errands, List.map_append, List.map_map, List.map_map]
  exact congrArg (· ++ _) (List.map_id fetching)

/-! ## The stages of the work -/

/-- The two stages of the work: the source was seen to, and then tools were attempted.  No
tool is attempted unless the source is there; what is said of the stages is known if the sink
calls nothing off. -/
structure Staged (provisioner : Provisioner) (spec : Spec) (host : Host) (preexisting : Bool)
    (before sourced after : World) (fetch : Option (Except Ending Unit))
    (attempts : List Attempt) : Prop where
  sourcing : provisioner.Sourcing spec host before sourced fetch
  present : preexisting = true → fetch = none
  absent : provisioner.sink.IsQuiet → fetch = none → preexisting = true
  runs : provisioner.Attempts spec host sourced attempts after
  inOrder : attempts.map Attempt.tool <+: spec.tools
  reached : attempts ≠ [] → preexisting = true ∨ fetch = some (.ok ())
  begun : provisioner.sink.IsQuiet → spec.tools ≠ [] →
    (∀ ending, fetch ≠ some (.error ending)) → attempts ≠ []
  said : provisioner.sink.IsQuiet → ∃ told, after.told = before.told ++ told ∧
    told.map Event.saying = sourceSayings spec fetch ++ attempts.flatMap (attemptSayings spec)

/-- After a fetch that did not return nothing is attempted. -/
theorem Staged.attempts_eq_nil {preexisting : Bool} {sourced : World}
    {ended : Except Ending Unit} {attempts : List Attempt}
    (staged : provisioner.Staged spec host preexisting before sourced after (some ended) attempts)
    (failed : ended ≠ .ok ()) : attempts = [] := by
  cases attempts with
  | nil => rfl
  | cons attempt rest =>
      rcases staged.reached (by simp) with present | fetched
      · cases staged.present present
      · exact absurd (Option.some.inj fetched) failed

theorem staged_of_source {preexisting : Bool} {fetch : Option (Except Ending Unit)}
    {ending : Ending}
    (sources : provisioner.Sources spec host preexisting before after fetch (.error ending)) :
    provisioner.Staged spec host preexisting before after after fetch [] where
  sourcing := sources.sourcing
  present := sources.present
  absent := sources.absent
  runs := .nil (.refl after)
  inOrder := List.nil_prefix
  reached := by simp
  begun := by
    intro quiet _ noError
    have equal := sources.ended quiet
    cases fetch with
    | none => cases equal
    | some ended =>
        cases ended with
        | ok _ => cases equal
        | error other => exact absurd rfl (noError other)
  said := fun quiet => by simpa using sources.said quiet

theorem staged_of_installation {preexisting fetched : Bool} {middle : World}
    {fetch : Option (Except Ending Unit)} {attempts : List Attempt} {told : List Event}
    {outcome : Except Ending (List String)}
    (sources : provisioner.Sources spec host preexisting before middle fetch (.ok fetched))
    (installation : provisioner.Installation spec host middle after spec.tools attempts told
      outcome)
    (spoken : provisioner.sink.IsQuiet → (spec.tools ≠ [] → attempts ≠ []) ∧
      told.map Event.saying = attempts.flatMap (attemptSayings spec)) :
    provisioner.Staged spec host preexisting before middle after fetch attempts where
  sourcing := sources.sourcing
  present := sources.present
  absent := sources.absent
  runs := installation.runs
  inOrder := installation.inOrder
  reached := fun _ => sources.reached fetched rfl
  begun := fun quiet some _ => (spoken quiet).1 some
  said := by
    intro quiet
    rcases installation.stage.added with ⟨_, _, added⟩
    rcases sources.said quiet with ⟨toldFirst, addedFirst, saysFirst⟩
    refine ⟨toldFirst ++ told, by rw [added.told, addedFirst, List.append_assoc], ?_⟩
    rw [List.map_append, saysFirst, (spoken quiet).2]

/-! ## The work as a whole -/

/-- The work of a run: how it saw to the source, the calls of git for that, the
attempts to install tools, what was told, and how it ended. -/
structure Worked (provisioner : Provisioner) (spec : Spec) (host : Host) (workspace : Workspace)
    (before after : World) (fetching : List Call) (attempts : List Attempt) (told : List Event)
    (outcome : Except Ending Done) : Prop where
  stage : provisioner.Stage before after (errands fetching attempts) told outcome
  issued : ∀ call ∈ fetching, ∃ arguments, call.start = provisioner.git.start arguments
  untouched_iff : fetching = [] ↔ workspace.preexisting = true ∨
    provisioner.sink.cancels (event host before spec.source .stepStarted fetchDetails) = true
  runs : ∃ sourced ended,
    (provisioner.ensureSource spec workspace).Leads host before ended sourced ∧
    (attempts ≠ [] → ∃ fetched, ended = .ok fetched) ∧
    sourced.calls = before.calls ++ fetching ∧
    provisioner.Attempts spec host sourced attempts after
  staged : ∃ sourced fetch,
    provisioner.Staged spec host workspace.preexisting before sourced after fetch attempts ∧
    sourced.calls = before.calls ++ fetching
  inOrder : attempts.map Attempt.tool <+: spec.tools
  succeeded : ∀ attempt ∈ attempts.dropLast, attempt.succeeded = true
  complete : ∀ done, outcome = .ok done → done = ⟨!workspace.preexisting, spec.tools⟩ ∧
    attempts.map Attempt.tool = spec.tools ∧ ∀ attempt ∈ attempts, attempt.succeeded = true
  failed : ∀ failure cleanup, outcome = .error (.failed failure cleanup) →
    (attempts = [] ∧ ∃ cause, failure = .fetch spec.source cause) ∨
    ∃ last result, attempts.getLast? = some last ∧ last.ended = .ok result ∧
      result.success = false ∧ failure = .install last.tool result.failureReason
  /-- If nobody calls it off, the work is complete once the source is there, unless an attempt
  fails. -/
  finishes_iff : provisioner.sink.IsQuiet → ((∃ done, outcome = .ok done) ↔
    provisioner.HasSource spec workspace.preexisting fetching ∧
    ∀ attempt ∈ attempts, attempt.succeeded = true)

/-- If nobody calls it off, the work is complete exactly if the source is there and all tools
are installed. -/
theorem Worked.complete_iff {fetching : List Call} {attempts : List Attempt} {told : List Event}
    {outcome : Except Ending Done} (quiet : provisioner.sink.IsQuiet)
    (whole : provisioner.Worked spec host workspace before after fetching attempts told outcome) :
    (∃ done, outcome = .ok done) ↔
      provisioner.HasSource spec workspace.preexisting fetching ∧
      attempts.map Attempt.tool = spec.tools ∧
      ∀ attempt ∈ attempts, attempt.succeeded = true := by
  rw [whole.finishes_iff quiet]
  constructor
  · intro ⟨there, succeeded⟩
    rcases (whole.finishes_iff quiet).2 ⟨there, succeeded⟩ with ⟨done, equal⟩
    exact ⟨there, (whole.complete done equal).2⟩
  · intro ⟨there, _, succeeded⟩
    exact ⟨there, succeeded⟩

theorem worked_of_source {calls : List Call} {told : List Event} {ending : Ending}
    (owns : workspace.path = spec.clonePath)
    (ran : (provisioner.ensureSource spec workspace).Leads host before (.error ending) after)
    (source : provisioner.Sourced spec host workspace.preexisting before after calls told
      (.error ending)) :
    provisioner.Worked spec host workspace before after calls [] told (.error ending) where
  stage := by
    rw [errands, List.map_nil, List.append_nil]
    exact source.stage.of_error
  issued := source.issued
  untouched_iff := source.untouched_iff
  runs := ⟨after, .error ending, ran, by simp, source.calls_eq, .nil (.refl after)⟩
  staged := by
    rcases ensureSource_sources owns ran with ⟨fetch, sources⟩
    exact ⟨after, fetch, staged_of_source sources, source.calls_eq⟩
  inOrder := List.nil_prefix
  succeeded := by simp
  complete := by
    intro done equal
    cases equal
  failed := by
    intro failure cleanup equal
    cases equal
    exact .inl ⟨rfl, source.failed failure cleanup rfl⟩
  finishes_iff := by
    intro quiet
    rcases ensureSource_sources owns ran with ⟨fetch, sources⟩
    have seen := sources.hasSource_iff quiet source.calls_eq
    refine iff_of_false (by simp) ?_
    rintro ⟨there, _⟩
    rcases seen.2 there with ⟨_, equal⟩
    cases equal

theorem worked_of_installation {fetched : Bool} {middle : World} {calls : List Call}
    {attempts : List Attempt} {told toldLater : List Event} {outcome : Except Ending (List String)}
    (owns : workspace.path = spec.clonePath)
    (ran : (provisioner.ensureSource spec workspace).Leads host before (.ok fetched) middle)
    (source : provisioner.Sourced spec host workspace.preexisting before middle calls told
      (.ok fetched))
    (installation : provisioner.Installation spec host middle after spec.tools attempts toldLater
      outcome)
    (all : ∀ installed, outcome = .ok installed → installed = spec.tools)
    (spoken : provisioner.sink.IsQuiet → (spec.tools ≠ [] → attempts ≠ []) ∧
      toldLater.map Event.saying = attempts.flatMap (attemptSayings spec)) :
    provisioner.Worked spec host workspace before after calls attempts (told ++ toldLater)
      (outcome.map fun installed => ⟨fetched, installed⟩) where
  stage := by
    have whole := source.stage.trans installation.stage
    cases outcome with
    | ok installed => exact whole.of_ok
    | error ending => exact whole.of_error
  issued := source.issued
  untouched_iff := source.untouched_iff
  runs := ⟨middle, .ok fetched, ran, fun _ => ⟨fetched, rfl⟩, source.calls_eq, installation.runs⟩
  staged := by
    rcases ensureSource_sources owns ran with ⟨fetch, sources⟩
    exact ⟨middle, fetch, staged_of_installation sources installation spoken, source.calls_eq⟩
  inOrder := installation.inOrder
  succeeded := installation.succeeded
  complete := by
    intro done equal
    cases outcome with
    | ok installed =>
        cases equal
        refine ⟨?_, installation.complete installed rfl⟩
        rw [source.fetched fetched rfl, all installed rfl]
    | error ending => cases equal
  failed := by
    intro failure cleanup equal
    cases outcome with
    | ok installed => cases equal
    | error ending =>
        cases equal
        exact .inr (installation.failed failure cleanup rfl)
  finishes_iff := by
    intro quiet
    rcases ensureSource_sources owns ran with ⟨fetch, sources⟩
    have there := (sources.hasSource_iff quiet source.calls_eq).1 ⟨fetched, rfl⟩
    constructor
    · rintro ⟨done, equal⟩
      cases outcome with
      | ok installed => exact ⟨there, (installation.complete installed rfl).2⟩
      | error ending => cases equal
    · rintro ⟨_, succeeded⟩
      rcases installation.goesOn quiet succeeded with ⟨installed, rfl⟩
      exact ⟨_, rfl⟩

/-- If nobody calls it off, every tool is attempted, unless a call does not do its part or an
attempt fails. -/
theorem Worked.tools_of_serves {fetching : List Call} {attempts : List Attempt}
    {told : List Event} {outcome : Except Ending Done} (quiet : provisioner.sink.IsQuiet)
    (owns : workspace.path = spec.clonePath)
    (whole : provisioner.Worked spec host workspace before after fetching attempts told outcome)
    (serve : ∀ call ∈ fetching, provisioner.git.Serves spec.clonePath call)
    (succeeded : ∀ attempt ∈ attempts, attempt.succeeded = true) :
    attempts.map Attempt.tool = spec.tools := by
  rcases whole.runs with ⟨sourced, _, source, _, calls, _⟩
  rcases ensureSource_sources owns source with ⟨fetch, sources⟩
  have there := sources.hasSource_of_serves quiet calls serve
  rcases (whole.finishes_iff quiet).2 ⟨there, succeeded⟩ with ⟨done, equal⟩
  exact (whole.complete done equal).2.1

/-- What is told of the work: what is said of the source, and then of each attempt. -/
theorem Worked.said {fetching : List Call} {attempts : List Attempt} {told : List Event}
    {outcome : Except Ending Done} (quiet : provisioner.sink.IsQuiet)
    (whole : provisioner.Worked spec host workspace before after fetching attempts told outcome) :
    ∃ fetch, told.map Event.saying =
      sourceSayings spec fetch ++ attempts.flatMap (attemptSayings spec) := by
  rcases whole.stage.added with ⟨_, _, added⟩
  rcases whole.staged with ⟨_, fetch, staged, _⟩
  rcases staged.said quiet with ⟨said, addedToo, spoken⟩
  rw [added.told] at addedToo
  rw [List.append_cancel_left addedToo]
  exact ⟨fetch, spoken⟩

/-- The work of a run sees to the source and then installs the tools. -/
theorem work_leads {outcome : Except Ending Done}
    (owns : workspace.path = spec.clonePath)
    (ran : (provisioner.work spec workspace).Leads host before outcome after) :
    ∃ fetching attempts told, provisioner.Worked spec host workspace before after fetching
      attempts told outcome := by
  rw [work] at ran
  rcases Act.leads_bind.1 ran with ⟨fetched, middle, first, ran⟩ | ⟨ending, first, rfl⟩
  · rcases ensureSource_leads first with ⟨calls, told, source⟩
    rcases Act.leads_bind.1 ran with ⟨installed, _, second, ran⟩ | ⟨ending, second, rfl⟩
    · rcases Act.leads_pure.1 ran with ⟨rfl, rfl⟩
      rcases installAll_leads owns second with ⟨attempts, toldLater, installation, all, spoken⟩
      exact ⟨calls, attempts, _, worked_of_installation owns first source installation all spoken⟩
    · rcases installAll_leads owns second with ⟨attempts, toldLater, installation, all, spoken⟩
      exact ⟨calls, attempts, _, worked_of_installation owns first source installation all spoken⟩
  · rcases ensureSource_leads first with ⟨calls, told, source⟩
    exact ⟨calls, [], told, worked_of_source owns first source⟩

theorem work_staged {outcome : Except Ending Done} (owns : workspace.path = spec.clonePath)
    (ran : (provisioner.work spec workspace).Leads host before outcome after) :
    ∃ sourced fetch attempts, provisioner.Staged spec host workspace.preexisting before sourced
      after fetch attempts := by
  rcases work_leads owns ran with ⟨fetching, attempts, told, whole⟩
  rcases whole.staged with ⟨sourced, fetch, staged, _⟩
  exact ⟨sourced, fetch, attempts, staged⟩

end Toolset.Provisioner
