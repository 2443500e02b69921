import Toolset.Proofs.Accounting
import Toolset.Proofs.Interruptions
import Toolset.Proofs.Recounting

/-!
# Runs that are called off

A run may be called off at any of its calls, while the program is started or awaited.  That
call is the last one; its process group is killed and its process waited for, and then the
workspace is released.  Nothing is told of the end, and the cancellation is what the run
ends with, unless the release cannot look for the clone.
-/

namespace Toolset.Provisioner

open Workspace (acquire release)

variable {α : Type} {provisioner : Provisioner} {spec : Spec} {host : Host}
  {before after : World} {outcome : Except Ending Report}

/-- Work is called off while the program of an errand is started or awaited. -/
def calledOff (provisioner : Provisioner) : Errand → Bool
  | .fetching call => provisioner.git.calledOff call.behaviour
  | .installing call => provisioner.installer.calledOff call.behaviour

/-- The process of an errand is interrupted twice, which leaves no time to kill it. -/
def interruptedTwice (provisioner : Provisioner) : Errand → Bool
  | .fetching _ => false
  | .installing call => provisioner.installer.interruptedTwice call.behaviour

variable {errand : Errand}

theorem calledOff_eq (provisioner : Provisioner) (errand : Errand) :
    provisioner.calledOff errand = (provisioner.escape? errand).any Ending.isCancellation := by
  cases errand with
  | fetching call => exact Git.calledOff_eq _ _
  | installing call => exact Installer.calledOff_eq _ _

theorem escape?_of_calledOff (off : provisioner.calledOff errand = true) :
    ∃ how, provisioner.escape? errand = some (.cancelled how) := by
  rw [calledOff_eq, Option.any_eq_true] at off
  rcases off with ⟨ending, escapes, cancellation⟩
  cases ending with
  | cancelled how => exact ⟨how, escapes⟩
  | _ => cases cancellation

/-- The process of an errand that is called off is killed, unless it is interrupted twice. -/
theorem course_of_calledOff (off : provisioner.calledOff errand = true) :
    provisioner.course errand =
      if errand.call.behaviour.isRunning then
        if provisioner.interruptedTwice errand then .left else .killed
      else .refused := by
  cases errand with
  | fetching call => exact Git.course_of_calledOff off
  | installing call => exact Installer.course_of_calledOff off

/-- An errand that something escapes from is the last of its stage, and the stage ends with
that. -/
theorem Stage.last_of_escape {errands : List Errand} {told : List Event}
    {ended : Except Ending α} {ending : Ending}
    (stage : provisioner.Stage before after errands told ended) (member : errand ∈ errands)
    (escapes : provisioner.escape? errand = some ending) :
    ∃ earlier, errands = earlier ++ [errand] ∧
      (∀ other ∈ earlier, (provisioner.course other).isAwaited = true) ∧
      ended = .error ending := by
  have unsettled (earlier : errand ∈ errands.dropLast) : False := by
    rw [escape?_of_isAwaited (stage.earlier errand earlier)] at escapes
    cases escapes
  rcases List.eq_nil_or_concat errands with rfl | ⟨earlier, last, whole⟩
  · cases member
  · rw [List.concat_eq_append] at whole
    subst whole
    rw [List.dropLast_concat] at unsettled
    have settled := stage.earlier
    rw [List.dropLast_concat] at settled
    rcases List.mem_append.1 member with among | isLast
    · cases unsettled among
    · rw [List.mem_singleton] at isLast
      subst isLast
      refine ⟨earlier, rfl, settled, stage.escaped ending ?_⟩
      rw [List.getLast?_concat]
      exact escapes

/-- A run that was called off at an errand. -/
structure Halted (provisioner : Provisioner) (spec : Spec) (host : Host) (before after : World)
    (outcome : Except Ending Report) (fetching : List Call) (attempts : List Attempt)
    (told : List Event) (errand : Errand) : Prop where
  /-- No program is started after that of the errand. -/
  last : (errands fetching attempts).getLast? = some errand
  /-- All that is done after the start is to kill the process group and to wait for the
  process, if there is one, and to release the workspace.  Nothing was killed before. -/
  deeds : ∃ earlier pid, after.deeds = before.deeds ++
      (.acquired spec.clonePath :: earlier ++
        (provisioner.course errand).deeds errand.call.start pid ++ [.released spec.clonePath]) ∧
    ∀ other, .killed other ∉ earlier
  course : provisioner.course errand =
    if errand.call.behaviour.isRunning then
      if provisioner.interruptedTwice errand then .left else .killed
    else .refused
  released : ∃ worked, provisioner.Releases spec host before worked ∧
    after.tree = (Workspace.clear host worked.tree spec.clonePath).1
  /-- Steps are told of, but not the end. -/
  untold : ∀ event ∈ told, event.kind.isStep = true
  /-- The tools that were installed are those that are told of, and all attempts before the
  errand installed theirs. -/
  installed : told.filterMap Event.installed? = (attempts.filter Attempt.succeeded).map Attempt.tool
  succeeded : ∀ attempt ∈ attempts.dropLast, attempt.succeeded = true
  /-- The run ends with the cancellation exactly if the clone can be looked for in the end,
  and otherwise because that cannot be done. -/
  ended : ∃ how, provisioner.escape? errand = some (.cancelled how) ∧
    (outcome = .error (.cancelled how) ↔
      ∃ isThere, after.tree.exists? spec.clonePath = .ok isThere) ∧
    (outcome = .error (.cancelled how) ∨ ∃ error, outcome = .error (.system error) ∧
      after.tree.exists? spec.clonePath = .error error)

/-- What a run ends with that was called off: a cancellation passes, and nothing is told of
it. -/
theorem Concluded.of_cancelled {cleanup : Option CleanupWarning} {ended : Except Ending Done}
    {told : List Event} {ending : Ending} (quiet : provisioner.sink.IsQuiet)
    (concluded : provisioner.Concluded cleanup ended before after told outcome)
    (unfailed : ended = .error ending) (unexpected : ending.isFailure = false) :
    outcome = .error ending ∧ told = [] := by
  subst unfailed
  rcases concluded.ended with ⟨_, kinds, duration, rfl⟩ | ⟨⟨event, _, cancels⟩, _⟩
  · cases ending with
    | failed failure cleanup => cases unexpected
    | _ => exact ⟨rfl, List.map_eq_nil_iff.1 kinds⟩
  · rw [quiet event] at cancels
    cases cancels

theorem halted_of_worked {fields : List Field} {workspace : Workspace}
    {acquired worked closed : World} {fetching : List Call} {attempts : List Attempt}
    {told toldLast : List Event} {ended : Except Ending Done}
    {released : Except Ending (Option CleanupWarning)} (quiet : provisioner.sink.IsQuiet)
    (accepted : Spec.ofFields fields = .ok spec)
    (taken : (acquire spec).Leads host (opened spec host before) (.ok workspace) acquired)
    (work : (provisioner.work spec workspace).Leads host acquired ended worked)
    (whole : provisioner.Worked spec host workspace acquired worked fetching attempts told ended)
    (release : (release workspace.path).Leads host worked released closed)
    (concluded : provisioner.Concluded (afterRelease ended released).1
      (afterRelease ended released).2 closed after toldLast outcome)
    (member : errand ∈ errands fetching attempts) (off : provisioner.calledOff errand = true) :
    provisioner.Halted spec host before after outcome fetching attempts (told ++ toldLast)
      errand := by
  rcases escape?_of_calledOff off with ⟨how, escapes⟩
  rcases whole.stage.last_of_escape member escapes with ⟨earlier, isLast, settled, rfl⟩
  rcases added_of_worked taken whole release concluded with ⟨steps, trace, added⟩
  rcases (Workspace.acquire_leads taken).workspace_eq with ⟨_, _, rfl⟩
  have cleared := Workspace.release_clears release
  have unsaid : ((∃ cleanup, released = .ok cleanup) ∧ outcome = .error (.cancelled how) ∨
      ∃ error, worked.tree.exists? spec.clonePath = .error error ∧ closed.tree = worked.tree ∧
        outcome = .error (.system error)) ∧ toldLast = [] := by
    rcases Workspace.release_leads release with
      ⟨cleanup, rfl, _⟩ | ⟨error, unanswered, rfl, same, _⟩
    · rcases concluded.of_cancelled quiet rfl rfl with ⟨rfl, rfl⟩
      exact ⟨.inl ⟨⟨cleanup, rfl⟩, rfl⟩, rfl⟩
    · rcases concluded.of_cancelled quiet rfl rfl with ⟨rfl, rfl⟩
      exact ⟨.inr ⟨error, unanswered, same, rfl⟩, rfl⟩
  rcases unsaid with ⟨ends, rfl⟩
  rw [isLast, List.map_append, List.map_singleton] at trace
  rcases trace.of_concat with ⟨before', pid, rfl, traceBefore⟩
  exact {
    last := by rw [isLast, List.getLast?_concat]
    deeds := by
      refine ⟨before', pid, by simpa [passage] using added.deeds, ?_⟩
      intro other
      apply traceBefore.killed_notMem
      exact List.forall_mem_map.2 settled
    course := course_of_calledOff off
    released := by
      refine ⟨worked, ⟨_, acquired, _, taken, work⟩, ?_⟩
      rw [concluded.tree, cleared.result]
    untold := by
      rw [List.append_nil]
      exact whole.stage.steps
    installed := by
      rw [List.append_nil]
      exact whole.installed quiet
    succeeded := whole.succeeded
    ended := by
      refine ⟨how, escapes, ?_, ?_⟩
      · rw [concluded.tree, answered_iff_of_release accepted release]
        rcases ends with ⟨returned, rfl⟩ | ⟨error, unanswered, same, rfl⟩
        · exact iff_of_true rfl returned
        · refine iff_of_false (by simp) ?_
          rw [← answered_iff_of_release accepted release, same, unanswered]
          simp
      · rcases ends with ⟨_, rfl⟩ | ⟨error, unanswered, same, rfl⟩
        · exact .inl rfl
        · exact .inr ⟨error, rfl, by rw [concluded.tree, same, unanswered]⟩ }

/-- A run of an accepted specification that is called off at any of its calls halts there, if
its sink calls nothing off. -/
theorem provision_halted_of_calledOff {fields : List Field} (quiet : provisioner.sink.IsQuiet)
    (accepted : Spec.ofFields fields = .ok spec) (host : Host) (before : World) :
    ∃ outcome after fetching attempts told,
      (provisioner.provision spec).Leads host before outcome after ∧
      provisioner.InOrder spec host before after outcome fetching attempts ∧
      after.told = before.told ++ told ∧
      ∀ errand ∈ errands fetching attempts, provisioner.calledOff errand = true →
        provisioner.Halted spec host before after outcome fetching attempts told errand := by
  rcases (provisioner.provision spec).exists_leads host before with ⟨outcome, after, ran⟩
  cases provision_leads ran with
  | @refused ending closed told refused concluded =>
      exact ⟨outcome, after, [], [], told, ran, inOrder_of_refused refused concluded,
        (added_of_refused refused concluded).told, by simp [errands]⟩
  | @worked workspace acquired worked closed fetching attempts told toldLast ended released
      taken work whole release concluded =>
      rcases added_of_worked taken whole release concluded with ⟨_, _, added⟩
      refine ⟨outcome, after, fetching, attempts, told ++ toldLast, ran,
        inOrder_of_worked taken whole release concluded, added.told, ?_⟩
      intro errand member off
      exact halted_of_worked quiet accepted taken work whole release concluded member off

/-! ## A fetch that is called off -/

/-- A process whose output breaks off because the work is called off. -/
def stopped : Process where
  output := some ⟨[], some (.breaks (.cancelled .request))⟩

/-- A host under which the work is called off as soon as a program runs. -/
def stopping : Host where
  program := fun _ _ _ => .runs stopped

/-- Under this host a run of the sample that finds no clone calls git once. -/
theorem calls_of_stopping (root : before.tree = Spec.withRoot)
    (ran : (sample.provision Spec.sample).Leads stopping before outcome after) :
    ∃ start, after.calls = before.calls ++ [⟨start, .runs stopped⟩] := by
  have surveyed : (Workspace.survey before.tree Spec.sample).2 = .ok false := by
    rw [root, Spec.survey_sample (by decide), Spec.exists?_withRoot]
    rfl
  cases provision_went ran with
  | refused refused _ =>
      have refuses := (acquired_of_opened refused).survey_eq
      rw [surveyed] at refuses
      cases refuses
  | @worked workspace acquired worked closed ended released taken work release conclude =>
      have acquires := acquired_of_opened taken
      rcases acquires.workspace_eq with ⟨preexisting, found, rfl⟩
      rw [surveyed] at found
      cases found
      have calls : ∃ start halted,
          (sample.work Spec.sample { path := Spec.sample.clonePath }).Leads stopping acquired
            (.error (.cancelled .request)) halted ∧
          halted.calls = acquired.calls ++ [⟨start, .runs stopped⟩] := ⟨_, _, rfl, rfl⟩
      rcases calls with ⟨start, halted, again, called⟩
      rcases work.unique again with ⟨_, rfl⟩
      rcases conclude_leads conclude with ⟨_, concluded⟩
      refine ⟨start, ?_⟩
      simp [concluded.added.calls, (Workspace.added_of_release release).calls, called,
        acquires.added_of_ok.calls]

theorem provision_halted_of_calledOff_stopping :
    sample.sink.IsQuiet ∧ Spec.ofFields Spec.sample.fields = .ok Spec.sample ∧
    ∃ outcome after fetching attempts told errand,
      (sample.provision Spec.sample).Leads stopping { tree := Spec.withRoot } outcome after ∧
      errand ∈ errands fetching attempts ∧ sample.calledOff errand = true ∧
      sample.Halted Spec.sample stopping { tree := Spec.withRoot } after outcome fetching attempts
        told errand := by
  refine ⟨Sink.isQuiet_silent, Spec.ofFields_sample, ?_⟩
  have quiet : sample.sink.IsQuiet := Sink.isQuiet_silent
  rcases provision_halted_of_calledOff quiet Spec.ofFields_sample stopping
    { tree := Spec.withRoot } with
    ⟨outcome, after, fetching, attempts, told, ran, inOrder, _, halts⟩
  rcases calls_of_stopping rfl ran with ⟨start, called⟩
  have one : (errands fetching attempts).map Errand.call = [⟨start, .runs stopped⟩] := by
    rw [call_errands]
    exact List.append_cancel_left (inOrder.calls.symm.trans called)
  rcases List.map_eq_singleton_iff.1 one with ⟨errand, only, call⟩
  have member : errand ∈ errands fetching attempts := by simp [only]
  have off : sample.calledOff errand = true := by
    cases errand with
    | fetching issued =>
        change issued = _ at call
        rw [call]
        rfl
    | installing issued =>
        change issued = _ at call
        rw [call]
        rfl
  exact ⟨outcome, after, fetching, attempts, told, errand, ran, member, off,
    halts errand member off⟩

end Toolset.Provisioner
