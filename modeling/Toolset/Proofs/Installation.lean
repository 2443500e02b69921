import Toolset.Proofs.Stages

/-!
# The installations of a run

The second stage of a run installs the tools in order.  Each tool is attempted at
most once, and the installer runs for it in the clone; the first attempt that does
not succeed is the last one, and the run ends as that attempt did.
-/

namespace Toolset

namespace Installer

variable {installer : Installer} {behaviour : Behaviour}

theorem isFailure_of_escape? {ending : Ending}
    (escapes : installer.escape? behaviour = some ending) : ending.isFailure = false := by
  cases behaviour with
  | refused interruption =>
      cases interruption <;> simp only [escape?, Option.some.injEq, reduceCtorEq] at escapes
      subst escapes
      rfl
  | nullCharacter =>
      cases escapes
      rfl
  | runs process =>
      cases verdict : installer.verdict process <;>
        simp only [escape?, verdict, Option.some.injEq, reduceCtorEq] at escapes
      all_goals
        subst escapes
        rfl

theorem escape?_of_error {duration : Float} {ending : Ending}
    (concluded : installer.conclusion duration behaviour = .error ending) :
    installer.escape? behaviour = some ending := by
  cases escapes : installer.escape? behaviour with
  | some other =>
      rw [conclusion_of_escape escapes] at concluded
      cases concluded
      rfl
  | none =>
      rcases conclusion_of_no_escape duration escapes with ⟨result, equal⟩
      rw [equal] at concluded
      cases concluded

theorem escape?_of_ok {duration : Float} {result : InstallResult}
    (concluded : installer.conclusion duration behaviour = .ok result) :
    installer.escape? behaviour = none := by
  cases escapes : installer.escape? behaviour with
  | some other =>
      rw [conclusion_of_escape escapes] at concluded
      cases concluded
  | none => rfl

end Installer

/-- An attempt to install a tool: the call of the installer, and how the
installation ended. -/
structure Attempt where
  tool : String
  call : Call
  ended : Except Ending InstallResult

namespace Attempt

/-- The tool is installed. -/
def succeeded (attempt : Attempt) : Bool :=
  match attempt.ended with
  | .ok result => result.success
  | .error _ => false

/-- How a run goes on after an attempt: one that did not succeed is its
failure. -/
def judged (attempt : Attempt) : Except Ending Unit :=
  match attempt.ended with
  | .ok result =>
      if result.success then .ok ()
      else .error (.failed (.install attempt.tool result.failureReason) none)
  | .error ending => .error ending

variable {installer : Installer} {attempt : Attempt} {duration : Float}

theorem result_of_succeeded (succeeded : attempt.succeeded = true) :
    ∃ result, attempt.ended = .ok result ∧ result.success = true := by
  cases ended : attempt.ended with
  | ok result => exact ⟨result, rfl, by simpa [Attempt.succeeded, ended] using succeeded⟩
  | error ending => simp [Attempt.succeeded, ended] at succeeded

theorem judged_ok {result : InstallResult} (ended : attempt.ended = .ok result) :
    attempt.judged = if result.success then .ok ()
      else .error (.failed (.install attempt.tool result.failureReason) none) := by
  rw [judged, ended]

theorem judged_error {ending : Ending} (ended : attempt.ended = .error ending) :
    attempt.judged = .error ending := by
  rw [judged, ended]

theorem succeeded_of_judged (passed : attempt.judged = .ok ()) : attempt.succeeded = true := by
  cases ended : attempt.ended with
  | ok result =>
      rw [judged_ok ended] at passed
      cases success : result.success with
      | true => simp [succeeded, ended, success]
      | false => simp [success] at passed
  | error ending => simp [judged_error ended] at passed

theorem judged_of_succeeded (installed : attempt.succeeded = true) : attempt.judged = .ok () := by
  rcases result_of_succeeded installed with ⟨result, ended, success⟩
  rw [judged_ok ended, if_pos success]

/-- What is a failure of the run after an attempt is that its tool was not
installed. -/
theorem install_of_judged {failure : Failure} {cleanup : Option CleanupWarning}
    (concluded : attempt.ended = installer.conclusion duration attempt.call.behaviour)
    (failed : attempt.judged = .error (.failed failure cleanup)) :
    ∃ result, attempt.ended = .ok result ∧ result.success = false ∧
      failure = .install attempt.tool result.failureReason := by
  cases ended : attempt.ended with
  | ok result =>
      rw [judged_ok ended] at failed
      cases success : result.success with
      | true => simp [success] at failed
      | false =>
          simp only [success, Bool.false_eq_true, ↓reduceIte, Except.error.injEq,
            Ending.failed.injEq] at failed
          exact ⟨result, rfl, success, failed.1.symm⟩
  | error ending =>
      rw [judged_error ended] at failed
      rw [ended] at concluded
      cases failed
      cases Installer.isFailure_of_escape? (Installer.escape?_of_error concluded.symm)

/-- A run goes on after an attempt as its callers are told to expect, unless
something escaped. -/
theorem documented_judged_iff
    (concluded : attempt.ended = installer.conclusion duration attempt.call.behaviour) :
    Documented attempt.judged ↔ installer.escape? attempt.call.behaviour = none := by
  cases ended : attempt.ended with
  | ok result =>
      rw [ended] at concluded
      rw [judged_ok ended, Installer.escape?_of_ok concluded.symm]
      refine iff_of_true ?_ rfl
      cases result.success with
      | true => exact documented_ok
      | false => exact documented_error.2 rfl
  | error ending =>
      rw [ended] at concluded
      have escapes := Installer.escape?_of_error concluded.symm
      have unexpected :=
        Ending.isDocumented_of_not_isFailure (Installer.isFailure_of_escape? escapes)
      simp [judged_error ended, documented_error, escapes, unexpected]

end Attempt

namespace Provisioner

variable {α β : Type} {provisioner : Provisioner} {spec : Spec} {host : Host}
  {before middle after : World}

/-- The installer ran for an attempt, from one world to another. -/
structure Attempted (provisioner : Provisioner) (spec : Spec) (host : Host)
    (before after : World) (attempt : Attempt) : Prop where
  ran : (provisioner.installer.run (spec.toolPath attempt.tool) (some spec.clonePath)).Leads
    host before attempt.ended after
  start : attempt.call.start =
    provisioner.installer.start (spec.toolPath attempt.tool) (some spec.clonePath)
  calls : after.calls = before.calls ++ [attempt.call]

/-- Attempts one after another, and nothing done in between. -/
inductive Attempts (provisioner : Provisioner) (spec : Spec) (host : Host) :
    World → List Attempt → World → Prop where
  | nil {before after : World} :
      SameDeeds before after → Attempts provisioner spec host before [] after
  | cons {before opened closed after : World} {attempt : Attempt} {rest : List Attempt} :
      SameDeeds before opened → provisioner.Attempted spec host opened closed attempt →
      Attempts provisioner spec host closed rest after →
      Attempts provisioner spec host before (attempt :: rest) after

namespace Attempts

variable {attempts later : List Attempt}

theorem of_same (same : SameDeeds before middle)
    (rest : provisioner.Attempts spec host middle attempts after) :
    provisioner.Attempts spec host before attempts after := by
  cases rest with
  | nil quiet => exact .nil (same.trans quiet)
  | cons quiet attempted rest => exact .cons (same.trans quiet) attempted rest

theorem append (first : provisioner.Attempts spec host before attempts middle)
    (second : provisioner.Attempts spec host middle later after) :
    provisioner.Attempts spec host before (attempts ++ later) after := by
  induction first with
  | nil same => exact second.of_same same
  | cons quiet attempted _ ih => exact .cons quiet attempted (ih second)

/-- Each attempt is a run of the installer after the attempts before it. -/
theorem attempted {earlier : List Attempt} {attempt : Attempt}
    (attempts : provisioner.Attempts spec host before (earlier ++ attempt :: later) after) :
    ∃ opened closed, opened.calls = before.calls ++ earlier.map Attempt.call ∧
      provisioner.Attempted spec host opened closed attempt := by
  induction earlier generalizing before with
  | nil =>
      cases attempts with
      | cons quiet attempted _ => exact ⟨_, _, by simp [quiet.calls], attempted⟩
  | cons first rest ih =>
      cases attempts with
      | cons quiet attempted attempts =>
          rcases ih attempts with ⟨opened, closed, calls, found⟩
          refine ⟨opened, closed, ?_, found⟩
          rw [calls, attempted.calls, quiet.calls, List.map_cons, List.append_assoc,
            List.singleton_append]

theorem starts (attempts' : provisioner.Attempts spec host before attempts after) :
    attempts.map (fun attempt => attempt.call.start) =
      (attempts.map Attempt.tool).map fun tool =>
        provisioner.installer.start (spec.toolPath tool) (some spec.clonePath) := by
  induction attempts' with
  | nil => rfl
  | cons quiet attempted _ ih =>
      simp only [List.map_cons, ih, attempted.start]

end Attempts

/-- A part of the installations of a run: the attempts that were made for some
tools, what was told meanwhile, and how it ended. -/
structure Installation (provisioner : Provisioner) (spec : Spec) (host : Host)
    (before after : World) (tools : List String) (attempts : List Attempt) (told : List Event)
    (outcome : Except Ending α) : Prop where
  stage : provisioner.Stage before after (attempts.map fun attempt => .installing attempt.call)
    told outcome
  runs : provisioner.Attempts spec host before attempts after
  inOrder : attempts.map Attempt.tool <+: tools
  succeeded : ∀ attempt ∈ attempts.dropLast, attempt.succeeded = true
  complete : ∀ a, outcome = .ok a →
    attempts.map Attempt.tool = tools ∧ ∀ attempt ∈ attempts, attempt.succeeded = true
  failed : ∀ failure cleanup, outcome = .error (.failed failure cleanup) →
    ∃ last result, attempts.getLast? = some last ∧ last.ended = .ok result ∧
      result.success = false ∧ failure = .install last.tool result.failureReason
  /-- If nobody calls it off, only an attempt that fails ends it early. -/
  goesOn : provisioner.sink.IsQuiet →
    (∀ attempt ∈ attempts, attempt.succeeded = true) → ∃ a, outcome = .ok a

namespace Installation

variable {tools rest : List String} {attempts later : List Attempt} {told toldLater : List Event}

theorem nil (world : World) (a : α) :
    provisioner.Installation spec host world world [] [] [] (.ok a) :=
  ⟨.refl world a, .nil (.refl world), by simp, by simp, by simp, by simp, fun _ _ => ⟨a, rfl⟩⟩

/-- An installation that ended early leaves out the tools that follow. -/
theorem halted {ending : Ending}
    (installation : provisioner.Installation spec host before after tools attempts told
      (.error ending : Except Ending α)) (rest : List String) :
    provisioner.Installation spec host before after (tools ++ rest) attempts told
      (.error ending : Except Ending β) where
  stage := installation.stage.of_error
  runs := installation.runs
  inOrder := installation.inOrder.trans (List.prefix_append tools rest)
  succeeded := installation.succeeded
  complete := by
    intro a equal
    cases equal
  failed := by
    intro failure cleanup equal
    cases equal
    exact installation.failed failure cleanup rfl
  goesOn := by
    intro quiet succeeded
    rcases installation.goesOn quiet succeeded with ⟨_, equal⟩
    cases equal

/-- An installation that is complete, and one of the tools that follow. -/
theorem trans {a : α} {outcome : Except Ending β}
    (first : provisioner.Installation spec host before middle tools attempts told
      (.ok a : Except Ending α))
    (second : provisioner.Installation spec host middle after rest later toldLater outcome) :
    provisioner.Installation spec host before after (tools ++ rest) (attempts ++ later)
      (told ++ toldLater) outcome where
  stage := by
    rw [List.map_append]
    exact first.stage.trans second.stage
  runs := first.runs.append second.runs
  inOrder := by
    rw [List.map_append, (first.complete a rfl).1]
    exact (List.prefix_append_right_inj tools).2 second.inOrder
  succeeded := by
    cases later with
    | nil =>
        rw [List.append_nil]
        exact first.succeeded
    | cons attempt others =>
        rw [List.dropLast_append_of_ne_nil (List.cons_ne_nil _ _)]
        exact List.forall_mem_append.2 ⟨(first.complete a rfl).2, second.succeeded⟩
  complete := by
    intro b equal
    have installed := first.complete a rfl
    have others := second.complete b equal
    rw [List.map_append, installed.1, others.1]
    exact ⟨rfl, List.forall_mem_append.2 ⟨installed.2, others.2⟩⟩
  failed := by
    intro failure cleanup equal
    rcases second.failed failure cleanup equal with ⟨last, result, isLast, found⟩
    exact ⟨last, result, by simp [List.getLast?_append, isLast], found⟩
  goesOn := by
    intro quiet succeeded
    exact second.goesOn quiet (List.forall_mem_append.1 succeeded).2

theorem of_ok {a : α} {b : β}
    (installation : provisioner.Installation spec host before after tools attempts told
      (.ok a : Except Ending α)) :
    provisioner.Installation spec host before after tools attempts told
      (.ok b : Except Ending β) where
  stage := installation.stage.of_ok
  runs := installation.runs
  inOrder := installation.inOrder
  succeeded := installation.succeeded
  complete := fun _ _ => installation.complete a rfl
  failed := by
    intro failure cleanup equal
    cases equal
  goesOn := fun _ _ => ⟨b, rfl⟩

end Installation

theorem tell_installation {kind : EventKind} {details : List Field} {outcome : Except Ending Unit}
    (step : kind.isStep = true)
    (ran : (tell provisioner.sink spec.source kind details).Leads host before outcome after) :
    provisioner.Installation spec host before after [] []
      [event host before spec.source kind details] outcome where
  stage := tell_stage step ran
  runs := .nil (tell_leads ran).1
  inOrder := by simp
  succeeded := by simp
  complete := by simp
  failed := by
    intro failure cleanup equal
    subst equal
    cases (cancels_of_not_told ran).2
  goesOn := fun quiet _ => ⟨(), (tell_of_quiet quiet ran).1⟩

/-- A run of the installer is an attempt, and the run goes on as it is judged. -/
theorem attempt_installation {tool : String} {ended : Except Ending InstallResult}
    (ran : (provisioner.installer.run (spec.toolPath tool) (some spec.clonePath)).Leads
      host before ended after) :
    ∃ attempt : Attempt, attempt.tool = tool ∧ attempt.ended = ended ∧
      provisioner.Installation spec host before after [tool] [attempt] [] attempt.judged := by
  rcases Installer.run_leads ran with ⟨behaviour, duration, called, concluded⟩
  rcases called.added with ⟨pid, added⟩
  let attempt : Attempt := {
    tool
    call := ⟨provisioner.installer.start (spec.toolPath tool) (some spec.clonePath), behaviour⟩
    ended }
  have installed (passed : attempt.judged = .ok ()) :
      provisioner.installer.course behaviour = .waited := by
    rcases Attempt.result_of_succeeded (Attempt.succeeded_of_judged passed) with
      ⟨result, equal, success⟩
    exact Installer.course_of_success (concluded.symm.trans equal) success
  refine ⟨attempt, rfl, rfl, ?_⟩
  exact {
    stage := {
      added := ⟨_, .single _ _ pid, added⟩
      steps := by simp
      settled := by
        intro _ passed
        rw [List.map_singleton, List.forall_mem_singleton, course, installed passed]
        rfl
      earlier := by simp
      escaped := by
        intro ending escapes
        exact Attempt.judged_error (concluded.trans (Installer.conclusion_of_escape escapes))
      documented_iff := by
        rw [Attempt.documented_judged_iff concluded, List.map_singleton, regular_singleton]
        rfl }
    runs := .cons (.refl before) ⟨ran, rfl, added.calls⟩ (.nil (.refl after))
    inOrder := List.prefix_rfl
    succeeded := by simp
    complete := by
      intro _ passed
      refine ⟨rfl, ?_⟩
      rw [List.forall_mem_singleton]
      exact Attempt.succeeded_of_judged passed
    failed := by
      intro failure cleanup failed
      rcases Attempt.install_of_judged concluded failed with ⟨result, found⟩
      exact ⟨attempt, result, rfl, found⟩
    goesOn := fun _ succeeded =>
      ⟨(), Attempt.judged_of_succeeded (succeeded attempt (List.mem_singleton_self _))⟩ }

/-- What is told of an attempt: that it began, and that it is over if it succeeded. -/
def attemptSayings (spec : Spec) (attempt : Attempt) : List Saying :=
  ⟨.stepStarted, spec.source, installDetails attempt.tool⟩ ::
    if attempt.succeeded then [⟨.stepCompleted, spec.source, installDetails attempt.tool⟩] else []

/-- One tool is told of, attempted, and told of again if it is installed. -/
theorem installOne_leads {workspace : Workspace} {tool : String} {outcome : Except Ending Unit}
    (owns : workspace.path = spec.clonePath)
    (ran : (provisioner.installOne spec workspace tool).Leads host before outcome after) :
    ∃ attempts told,
      provisioner.Installation spec host before after [tool] attempts told outcome ∧
      (provisioner.sink.IsQuiet →
        attempts ≠ [] ∧ told.map Event.saying = attempts.flatMap (attemptSayings spec)) := by
  rw [installOne, owns] at ran
  rcases Act.leads_bind.1 ran with ⟨_, begun, told, ran⟩ | ⟨ending, told, rfl⟩
  · have beginning : provisioner.Installation spec host before begun [] [] _ (.ok ()) :=
      tell_installation rfl told
    rcases Act.leads_bind.1 ran with ⟨result, installed, install, ran⟩ | ⟨ending, install, rfl⟩
    · rcases attempt_installation install with ⟨attempt, rfl, ended, installation⟩
      rw [Attempt.judged_ok ended] at installation
      cases success : result.success with
      | true =>
          rw [success, if_pos rfl] at installation ran
          have whole := (beginning.trans installation).trans (tell_installation rfl ran)
          have succeeded : attempt.succeeded = true := by simp [Attempt.succeeded, ended, success]
          refine ⟨[attempt], _, whole, fun _ => ⟨by simp, ?_⟩⟩
          simp [attemptSayings, succeeded, Event.saying, event]
      | false =>
          rw [success, if_neg (by simp)] at installation ran
          rcases Act.leads_throw.1 ran with ⟨rfl, rfl⟩
          have failed : attempt.succeeded = false := by simp [Attempt.succeeded, ended, success]
          exact ⟨[attempt], _, beginning.trans installation,
            fun _ => ⟨by simp, by simp [attemptSayings, failed, Event.saying, event]⟩⟩
    · rcases attempt_installation install with ⟨attempt, rfl, ended, installation⟩
      rw [Attempt.judged_error ended] at installation
      have failed : attempt.succeeded = false := by simp [Attempt.succeeded, ended]
      exact ⟨[attempt], _, beginning.trans installation,
        fun _ => ⟨by simp, by simp [attemptSayings, failed, Event.saying, event]⟩⟩
  · refine ⟨[], _, (tell_installation rfl told).halted [tool], ?_⟩
    intro quiet
    cases (tell_of_quiet quiet told).1

/-- The tools are installed one after another; those that are installed in the end
are all of them. -/
theorem installAll_leads {workspace : Workspace} {installed tools : List String}
    {outcome : Except Ending (List String)} (owns : workspace.path = spec.clonePath)
    (ran : (provisioner.installAll spec workspace installed tools).Leads host before outcome
      after) :
    ∃ attempts told,
      provisioner.Installation spec host before after tools attempts told outcome ∧
      (∀ all, outcome = .ok all → all = installed ++ tools) ∧
      (provisioner.sink.IsQuiet → (tools ≠ [] → attempts ≠ []) ∧
        told.map Event.saying = attempts.flatMap (attemptSayings spec)) := by
  -- the tools that are installed already grow with each step, so they are general
  induction tools generalizing installed before with
  | nil =>
      rw [installAll] at ran
      rcases Act.leads_pure.1 ran with ⟨rfl, rfl⟩
      exact ⟨[], [], .nil _ _, by simp, by simp⟩
  | cons tool rest ih =>
      rw [installAll] at ran
      rcases Act.leads_bind.1 ran with ⟨_, middle, one, ran⟩ | ⟨ending, one, rfl⟩
      · rcases installOne_leads owns one with ⟨attempts, told, first, spoken⟩
        rcases ih ran with ⟨later, toldLater, others, all, saysLater⟩
        refine ⟨_, _, first.trans others, ?_, ?_⟩
        · intro whole equal
          rw [all whole equal, List.append_assoc]
          rfl
        · intro quiet
          refine ⟨fun _ none => (spoken quiet).1 (List.append_eq_nil_iff.1 none).1, ?_⟩
          rw [List.map_append, List.flatMap_append, (spoken quiet).2, (saysLater quiet).2]
      · rcases installOne_leads owns one with ⟨attempts, told, first, spoken⟩
        exact ⟨attempts, told, first.halted rest, by simp, fun quiet =>
          ⟨fun _ => (spoken quiet).1, (spoken quiet).2⟩⟩

end Provisioner

end Toolset
