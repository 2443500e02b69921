import Toolset.Proofs.History
import Toolset.Fetch
import Toolset.Install

/-!
# Calls of programs

Git and the installer are called in the same way: a program is started, its
output is awaited, and it is killed if the wait is called off.  What such a call
adds to the history, and how it ends, is a function of what came of the start.
That function is written down here for both, and each call is shown to follow
it, so that all that is proved of runs is proved from the answers of programs.
-/

namespace Toolset

/-- The record of one call: what came of its start on the tree, and the course
that its process took. -/
structure Called (host : Host) (start : Start) (before after : World) (behaviour : Behaviour)
    (course : Course) : Prop where
  settled : (host.program before.calls.length start before.tree).settle before.tree =
    (after.tree, behaviour)
  added : ∃ pid, Added before after [⟨start, behaviour⟩] (course.deeds start pid) []

theorem launch_leads {start : Start} {host : Host} {before after : World}
    {outcome : Except Ending (Except Interruption Running)}
    (ran : (launch start).Leads host before outcome after) :
    ∃ behaviour,
      (host.program before.calls.length start before.tree).settle before.tree =
        (after.tree, behaviour) ∧
      match behaviour with
      | .refused interruption => outcome = .ok (.error interruption) ∧
          Added before after [⟨start, behaviour⟩] [.started start] []
      | .nullCharacter => outcome = .error .nullCharacter ∧
          Added before after [⟨start, behaviour⟩] [.started start] []
      | .runs process => ∃ pid, outcome = .ok (.ok ⟨pid, process⟩) ∧
          Added before after [⟨start, behaviour⟩] [.started start, .running pid] [] := by
  rw [launch] at ran
  simp only [Act.leads_get_bind, Act.leads_read_bind] at ran
  generalize (host.program before.calls.length start before.tree).settle before.tree = answer
    at ran ⊢
  rcases answer with ⟨tree, behaviour⟩
  simp only [Act.leads_set_bind, Act.leads_perform_bind] at ran
  cases behaviour with
  | refused interruption =>
      rcases Act.leads_pure.1 ran with ⟨rfl, rfl⟩
      exact ⟨_, rfl, rfl, rfl, rfl, by simp, List.prefix_rfl⟩
  | nullCharacter =>
      rcases Act.leads_throw.1 ran with ⟨rfl, rfl⟩
      exact ⟨_, rfl, rfl, rfl, rfl, by simp, List.prefix_rfl⟩
  | runs process =>
      simp only [Act.leads_get_bind, Act.leads_perform_bind] at ran
      rcases Act.leads_pure.1 ran with ⟨rfl, rfl⟩
      exact ⟨_, rfl, _, rfl, rfl, by simp, by simp, List.prefix_rfl⟩

/-- What a start and all that follows it lead to, by what came of the start: what
follows learns of a refusal or of the process, but not of a null character. -/
theorem launch_bind_leads {α : Type} {start : Start} {next : Except Interruption Running → Act α}
    {host : Host} {before after : World} {outcome : Except Ending α}
    (ran : (launch start >>= next).Leads host before outcome after) :
    ∃ behaviour middle,
      (host.program before.calls.length start before.tree).settle before.tree =
        (middle.tree, behaviour) ∧
      match behaviour with
      | .refused interruption => Added before middle [⟨start, behaviour⟩] [.started start] [] ∧
          (next (.error interruption)).Leads host middle outcome after
      | .nullCharacter => Added before middle [⟨start, behaviour⟩] [.started start] [] ∧
          outcome = .error .nullCharacter ∧ after = middle
      | .runs process => ∃ pid,
          Added before middle [⟨start, behaviour⟩] [.started start, .running pid] [] ∧
          (next (.ok ⟨pid, process⟩)).Leads host middle outcome after := by
  rcases Act.leads_bind.1 ran with ⟨launched, middle, first, ran⟩ | ⟨ending, first, rfl⟩
  · rcases launch_leads first with ⟨behaviour, settled, came⟩
    refine ⟨behaviour, middle, settled, ?_⟩
    cases behaviour with
    | refused interruption =>
        rcases came with ⟨equal, added⟩
        cases equal
        exact ⟨added, ran⟩
    | nullCharacter => cases came.1
    | runs process =>
        rcases came with ⟨pid, equal, added⟩
        cases equal
        exact ⟨pid, added, ran⟩
  · rcases launch_leads first with ⟨behaviour, settled, came⟩
    refine ⟨behaviour, after, settled, ?_⟩
    cases behaviour with
    | refused interruption => cases came.1
    | nullCharacter =>
        rcases came with ⟨equal, added⟩
        cases equal
        exact ⟨added, rfl, rfl⟩
    | runs process =>
        rcases came with ⟨pid, equal, _⟩
        cases equal

/-- Killing a group always comes to an end: the group is killed and its first
process waited for. -/
theorem kill_leads (pid : Nat) (host : Host) (before : World) :
    ∃ after, (kill pid).Leads host before (.ok ()) after ∧ after.tree = before.tree ∧
      Added before after [] [.killed pid, .waited pid] [] := by
  rcases (kill pid).exists_leads host before with ⟨outcome, after, ran⟩
  have went := ran
  rw [kill] at ran
  simp only [Act.leads_perform_bind, Act.leads_read_bind] at ran
  split at ran
  · rw [Act.leads_log_bind] at ran
    rcases Act.leads_perform.1 ran with ⟨rfl, rfl⟩
    have told := SameDeeds.logged { before with deeds := before.deeds ++ [.killed pid] } host
      (deniedRecord pid)
    exact ⟨_, went, told.tree, by simp [told.calls], by simp [told.deeds], by simp, told.log⟩
  · rcases Act.leads_perform.1 ran with ⟨rfl, rfl⟩
    exact ⟨_, went, rfl, by simp, by simp, by simp, List.prefix_rfl⟩

/-! ## Calls of git -/

namespace Git

/-- What becomes of the process of a call. -/
def course (git : Git) : Behaviour → Course
  | .runs process =>
      match git.verdict process with
      | .done => .collected
      | .timedOut | .cancelled _ => .killed
      | .failed _ | .tooLarge => .left
  | _ => .refused

/-- How a call ends. -/
def conclusion (git : Git) (source : String) (arguments : List String) :
    Behaviour → Except Ending Answer
  | .refused (.cancelled how) => .error (.cancelled how)
  | .refused interruption => .error (.failed (.fetch source (startMessage interruption)) none)
  | .nullCharacter => .error .nullCharacter
  | .runs process =>
      match git.verdict process with
      | .done => .ok {
          code := process.code
          output := wholeText process.output
          errors := wholeText process.errors }
      | .timedOut =>
          .error (.failed (.fetch source (timeoutMessage arguments git.limit)) none)
      | .cancelled how => .error (.cancelled how)
      | .failed error => .error (.system error)
      | .tooLarge => .error .limitTooLarge

/-- What a call answers: what its process left, if the end of that was awaited. -/
def answer? (git : Git) : Behaviour → Option Answer
  | .runs process =>
      match git.verdict process with
      | .done => some {
          code := process.code
          output := wholeText process.output
          errors := wholeText process.errors }
      | _ => none
  | _ => none

/-- How a call ends that neither answers nor fails to fetch: what passes through
all that is above it. -/
def escape? (git : Git) : Behaviour → Option Ending
  | .refused (.cancelled how) => some (.cancelled how)
  | .refused _ => none
  | .nullCharacter => some .nullCharacter
  | .runs process =>
      match git.verdict process with
      | .done | .timedOut => none
      | .cancelled how => some (.cancelled how)
      | .failed error => some (.system error)
      | .tooLarge => some .limitTooLarge

variable {git : Git} {source : String} {arguments : List String} {behaviour : Behaviour}

theorem conclusion_of_escape {ending : Ending} (escapes : git.escape? behaviour = some ending) :
    git.conclusion source arguments behaviour = .error ending := by
  cases behaviour with
  | refused interruption =>
      cases interruption <;> simp_all [escape?, conclusion]
  | nullCharacter => simp_all [escape?, conclusion]
  | runs process =>
      cases verdict : git.verdict process <;> simp_all [escape?, conclusion]

theorem conclusion_of_no_escape (regular : git.escape? behaviour = none) :
    (∃ answer, git.conclusion source arguments behaviour = .ok answer ∧
      git.course behaviour = .collected) ∨
    ∃ cause, git.conclusion source arguments behaviour =
      .error (.failed (.fetch source cause) none) := by
  cases behaviour with
  | refused interruption =>
      cases interruption <;> simp_all [escape?, conclusion]
  | nullCharacter => simp [escape?] at regular
  | runs process =>
      cases verdict : git.verdict process <;> simp_all [escape?, conclusion, course]

theorem conclusion_eq_ok_iff {answer : Answer} :
    git.conclusion source arguments behaviour = .ok answer ↔
      git.answer? behaviour = some answer := by
  cases behaviour with
  | refused interruption => cases interruption <;> simp [conclusion, answer?]
  | nullCharacter => simp [conclusion, answer?]
  | runs process => cases verdict : git.verdict process <;> simp [conclusion, answer?, verdict]

theorem escape?_of_isAwaited (awaited : (git.course behaviour).isAwaited = true) :
    git.escape? behaviour = none := by
  cases behaviour with
  | refused interruption => cases awaited
  | nullCharacter => cases awaited
  | runs process =>
      cases verdict : git.verdict process <;> simp_all [course, escape?, Course.isAwaited]

/-- Once its process runs, a call of git takes the course of that process and ends
as it says. -/
theorem await_leads {running : Running} {calls : List Call} {start : Start} {host : Host}
    {before middle after : World} {outcome : Except Ending Answer}
    (added : Added before middle calls [.started start, .running running.pid] [])
    (ran : (git.await source arguments running).Leads host middle outcome after) :
    after.tree = middle.tree ∧
      Added before after calls
        ((git.course (.runs running.process)).deeds start running.pid) [] ∧
      outcome = git.conclusion source arguments (.runs running.process) := by
  rw [await] at ran
  rcases kill_leads running.pid host middle with ⟨killed, killing, sameTree, deeds⟩
  rw [course, conclusion]
  cases verdict : git.verdict running.process with
  | done =>
      simp only [verdict, Act.leads_perform_bind, Act.leads_pure] at ran ⊢
      rcases ran with ⟨rfl, rfl⟩
      exact ⟨rfl, ⟨added.calls, by simp [added.deeds, Course.deeds], added.told, added.log⟩, rfl⟩
  | timedOut =>
      simp only [verdict, Act.leads_bind_of_ok killing, fail, Act.leads_throw] at ran ⊢
      rcases ran with ⟨rfl, rfl⟩
      exact ⟨sameTree, by simpa [Course.deeds] using added.trans deeds, rfl⟩
  | cancelled how =>
      simp only [verdict, Act.leads_bind_of_ok killing, Act.leads_throw] at ran ⊢
      rcases ran with ⟨rfl, rfl⟩
      exact ⟨sameTree, by simpa [Course.deeds] using added.trans deeds, rfl⟩
  | failed error =>
      simp only [verdict, Act.leads_throw] at ran ⊢
      rcases ran with ⟨rfl, rfl⟩
      exact ⟨rfl, added, rfl⟩
  | tooLarge =>
      simp only [verdict, Act.leads_throw] at ran ⊢
      rcases ran with ⟨rfl, rfl⟩
      exact ⟨rfl, added, rfl⟩

theorem execute_leads {host : Host} {before after : World} {outcome : Except Ending Answer}
    (ran : (git.execute source arguments).Leads host before outcome after) :
    ∃ behaviour, Called host (git.start arguments) before after behaviour (git.course behaviour) ∧
      outcome = git.conclusion source arguments behaviour := by
  rw [execute] at ran
  simp only [Act.leads_log_bind] at ran
  have same := SameDeeds.logged before host (startRecord (git.start arguments))
  have told := Added.logged before host (startRecord (git.start arguments))
  rcases launch_bind_leads ran with ⟨behaviour, middle, settled, came⟩
  rw [same.calls, same.tree] at settled
  cases behaviour with
  | refused interruption =>
      rcases came with ⟨added, ran⟩
      have ended : outcome = git.conclusion source arguments (.refused interruption) ∧
          after = middle := by
        cases interruption <;> exact Act.leads_throw.1 ran
      rcases ended with ⟨rfl, rfl⟩
      exact ⟨_, ⟨settled, 0, told.trans added⟩, rfl⟩
  | nullCharacter =>
      rcases came with ⟨added, rfl, rfl⟩
      exact ⟨_, ⟨settled, 0, told.trans added⟩, rfl⟩
  | runs process =>
      rcases came with ⟨pid, added, ran⟩
      rcases await_leads (told.trans added) ran with ⟨sameTree, added, equal⟩
      exact ⟨_, ⟨sameTree ▸ settled, pid, added⟩, equal⟩

end Git

/-! ## Calls of the installer -/

namespace Installer

/-- How the wait for a process of the installer comes out. -/
def verdict (installer : Installer) (process : Process) : Wait :=
  if installer.limit.any Seconds.isOver then .timedOut
  else if installer.limit.any Seconds.isTooLarge then .tooLarge
  else wait installer.limit ⟨(read process.output).ended, (read process.errors).ended⟩

/-- What becomes of the process of an installation. -/
def course (installer : Installer) : Behaviour → Course
  | .runs process =>
      match installer.verdict process with
      | .done => .waited
      | .timedOut | .cancelled _ => .killed
      | .failed _ | .overlong _ | .tooLarge | .abandoned => .left
  | _ => .refused

/-- How an installation ends that took some time. -/
def conclusion (installer : Installer) (duration : Float) :
    Behaviour → Except Ending InstallResult
  | .refused (.cancelled how) => .error (.cancelled how)
  | .refused .timedOut => .ok (without (timeoutMessage installer.limit) duration)
  | .refused (.failed error) =>
      .ok (without
        (if error.isTimeout then timeoutMessage installer.limit else errorMessage error) duration)
  | .nullCharacter => .error .nullCharacter
  | .runs process =>
      match installer.verdict process with
      | .done => .ok {
          success := process.code.getD 0 == 0
          code := process.code.getD 0
          output := joined (read process.output)
          errors := joined (read process.errors)
          duration }
      | .timedOut => .ok (without (timeoutMessage installer.limit) duration)
      | .cancelled how => .error (.cancelled how)
      | .abandoned => .error (.cancelled .interrupt)
      | .failed error => .ok (without (errorMessage error) duration)
      | .overlong ended => .error (.overlong ended)
      | .tooLarge => .error .limitTooLarge

/-- How an installation ends that has no result. -/
def escape? (installer : Installer) : Behaviour → Option Ending
  | .refused (.cancelled how) => some (.cancelled how)
  | .refused _ => none
  | .nullCharacter => some .nullCharacter
  | .runs process =>
      match installer.verdict process with
      | .done | .timedOut | .failed _ => none
      | .cancelled how => some (.cancelled how)
      | .abandoned => some (.cancelled .interrupt)
      | .overlong ended => some (.overlong ended)
      | .tooLarge => some .limitTooLarge

variable {installer : Installer} {behaviour : Behaviour} {host : Host} {before after : World}

theorem conclusion_of_escape {ending : Ending} {duration : Float}
    (escapes : installer.escape? behaviour = some ending) :
    installer.conclusion duration behaviour = .error ending := by
  cases behaviour with
  | refused interruption =>
      cases interruption <;> simp_all [escape?, conclusion]
  | nullCharacter => simp_all [escape?, conclusion]
  | runs process =>
      cases verdict : installer.verdict process <;> simp_all [escape?, conclusion]

theorem conclusion_of_no_escape (duration : Float)
    (regular : installer.escape? behaviour = none) :
    ∃ result, installer.conclusion duration behaviour = .ok result := by
  cases behaviour with
  | refused interruption =>
      cases interruption <;> simp_all [escape?, conclusion]
  | nullCharacter => simp [escape?] at regular
  | runs process =>
      cases verdict : installer.verdict process <;> simp_all [escape?, conclusion]

/-- Only a process that was awaited to its end has installed its tool. -/
theorem course_of_success {duration : Float} {result : InstallResult}
    (concluded : installer.conclusion duration behaviour = .ok result)
    (success : result.success = true) : installer.course behaviour = .waited := by
  have failed : ∀ message, (without message duration).success = false := fun _ => rfl
  cases behaviour with
  | refused interruption =>
      cases interruption <;> simp only [conclusion, Except.ok.injEq, reduceCtorEq] at concluded
      all_goals
        subst concluded
        simp [failed] at success
  | nullCharacter => simp [conclusion] at concluded
  | runs process =>
      cases verdict : installer.verdict process <;>
        simp only [conclusion, verdict, Except.ok.injEq, reduceCtorEq] at concluded
      case done => simp [course, verdict]
      all_goals
        subst concluded
        simp [failed] at success

theorem escape?_of_isAwaited (awaited : (installer.course behaviour).isAwaited = true) :
    installer.escape? behaviour = none := by
  cases behaviour with
  | refused interruption => cases awaited
  | nullCharacter => cases awaited
  | runs process =>
      cases verdict : installer.verdict process <;> simp_all [course, escape?, Course.isAwaited]

theorem logLines_leads (stream : String) (lines : List String) (host : Host) (before : World) :
    ∃ after, (logLines stream lines).Leads host before (.ok ()) after ∧
      SameDeeds before after ∧ after.told = before.told := by
  induction lines generalizing before with
  | nil => exact ⟨before, Act.leads_pure.2 ⟨rfl, rfl⟩, .refl _, rfl⟩
  | cons line rest ih =>
      rcases ih (before.logged host (lineRecord stream line)) with ⟨after, ran, same, told⟩
      refine ⟨after, ?_, (SameDeeds.logged _ _ _).trans same, by rw [told, World.told_logged]⟩
      rw [logLines, Act.leads_log_bind]
      exact ran

/-- Reading the streams tells how the wait comes out, and leaves lines in the log
at most. -/
theorem collect_leads (installer : Installer) (process : Process) (host : Host)
    (before : World) :
    ∃ after, (collect installer.limit process).Leads host before
        (.ok (installer.verdict process)) after ∧
      SameDeeds before after ∧ after.told = before.told := by
  rw [collect, verdict]
  split
  · exact ⟨before, Act.leads_pure.2 ⟨rfl, rfl⟩, .refl _, rfl⟩
  split
  · exact ⟨before, Act.leads_pure.2 ⟨rfl, rfl⟩, .refl _, rfl⟩
  rcases logLines_leads "stdout" (read process.output).lines host before with
    ⟨middle, output, same, told⟩
  simp only [Act.leads_bind_of_ok output]
  split
  · rcases logLines_leads "stderr" (read process.errors).lines host middle with
      ⟨after, errors, sameToo, toldToo⟩
    refine ⟨after, ?_, same.trans sameToo, by rw [toldToo, told]⟩
    rw [Act.leads_bind_of_ok errors]
    exact Act.leads_pure.2 ⟨rfl, rfl⟩
  · exact ⟨middle, Act.leads_pure.2 ⟨rfl, rfl⟩, same, told⟩

/-- Giving up makes a result without an exit code, and adds nothing but a
record. -/
theorem giveUp_leads {message : String} {started : Float} {outcome : Except Ending InstallResult}
    (ran : (giveUp message started).Leads host before outcome after) :
    (∃ duration, outcome = .ok (without message duration)) ∧ after.tree = before.tree ∧
      Added before after [] [] [] := by
  rw [giveUp, Act.leads_clock_bind, Act.leads_log_bind] at ran
  rcases Act.leads_pure.1 ran with ⟨rfl, rfl⟩
  exact ⟨⟨_, rfl⟩, (SameDeeds.logged _ _ _).tree, (Added.logged _ _ _).of_ticked⟩

/-- A process that ended by itself makes a result, and adds nothing but a
record. -/
theorem finish_leads {tool : Path} {process : Process} {started : Float}
    {outcome : Except Ending InstallResult} (done : installer.verdict process = .done)
    (ran : (finish tool process started).Leads host before outcome after) :
    (∃ duration, outcome = installer.conclusion duration (.runs process)) ∧
      after.tree = before.tree ∧ Added before after [] [] [] := by
  rw [finish, Act.leads_clock_bind, Act.leads_log_bind] at ran
  rcases Act.leads_pure.1 ran with ⟨rfl, rfl⟩
  refine ⟨⟨before.time - started, ?_⟩, (SameDeeds.logged _ _ _).tree,
    (Added.logged _ _ _).of_ticked⟩
  simp only [conclusion, done]

theorem await_leads {tool : Path} {started : Float} {running : Running} {calls : List Call}
    {start : Start} {middle : World} {outcome : Except Ending InstallResult}
    (added : Added before middle calls [.started start, .running running.pid] [])
    (ran : (installer.await tool started running).Leads host middle outcome after) :
    after.tree = middle.tree ∧
      Added before after calls
        ((installer.course (.runs running.process)).deeds start running.pid) [] ∧
      ∃ duration, outcome = installer.conclusion duration (.runs running.process) := by
  rcases collect_leads installer running.process host middle with ⟨read, reading, same, told⟩
  have added : Added before read calls [.started start, .running running.pid] [] := by
    simpa using added.trans (same.silent told)
  rw [await, Act.leads_bind_of_ok reading] at ran
  rcases kill_leads running.pid host read with ⟨killed, killing, killedTree, deeds⟩
  rw [course]
  cases verdict : installer.verdict running.process with
  | done =>
      simp only [verdict, Act.leads_perform_bind] at ran ⊢
      rcases finish_leads verdict ran with ⟨concluded, sameTree, record⟩
      refine ⟨sameTree.trans same.tree, ?_, concluded⟩
      exact ⟨by rw [record.calls, List.append_nil, added.calls],
        by simp [record.deeds, added.deeds, Course.deeds],
        by rw [record.told, List.append_nil, added.told], added.log.trans record.log⟩
  | timedOut =>
      simp only [verdict, Act.leads_bind_of_ok killing] at ran ⊢
      rcases giveUp_leads ran with ⟨⟨duration, rfl⟩, sameTree, record⟩
      refine ⟨sameTree.trans (killedTree.trans same.tree), ?_, duration, ?_⟩
      · simpa [Course.deeds] using (added.trans deeds).trans record
      · simp only [conclusion, verdict]
  | cancelled how =>
      simp only [verdict, Act.leads_bind_of_ok killing, Act.leads_throw] at ran ⊢
      rcases ran with ⟨rfl, rfl⟩
      refine ⟨killedTree.trans same.tree, ?_, 0, ?_⟩
      · simpa [Course.deeds] using added.trans deeds
      · simp only [conclusion, verdict]
  | failed error =>
      simp only [verdict] at ran ⊢
      rcases giveUp_leads ran with ⟨⟨duration, rfl⟩, sameTree, record⟩
      refine ⟨sameTree.trans same.tree, ?_, duration, ?_⟩
      · simpa [Course.deeds] using added.trans record
      · simp only [conclusion, verdict]
  | overlong ended =>
      simp only [verdict, Act.leads_throw] at ran ⊢
      rcases ran with ⟨rfl, rfl⟩
      exact ⟨same.tree, added, 0, by simp only [conclusion, verdict]⟩
  | tooLarge =>
      simp only [verdict, Act.leads_throw] at ran ⊢
      rcases ran with ⟨rfl, rfl⟩
      exact ⟨same.tree, added, 0, by simp only [conclusion, verdict]⟩
  | abandoned =>
      simp only [verdict, Act.leads_throw] at ran ⊢
      rcases ran with ⟨rfl, rfl⟩
      exact ⟨same.tree, added, 0, by simp only [conclusion, verdict]⟩

/-- An installer that does not start ends as the refusal says, and adds nothing but
a record. -/
theorem refuse_leads {interruption : Interruption} {started : Float}
    {outcome : Except Ending InstallResult}
    (ran : (installer.refuse started interruption).Leads host before outcome after) :
    (∃ duration, outcome = installer.conclusion duration (.refused interruption)) ∧
      after.tree = before.tree ∧ Added before after [] [] [] := by
  cases interruption with
  | timedOut => exact giveUp_leads ran
  | failed error => exact giveUp_leads ran
  | cancelled how =>
      rcases Act.leads_throw.1 ran with ⟨rfl, rfl⟩
      exact ⟨⟨0, rfl⟩, rfl, .refl _⟩

theorem run_leads {tool : Path} {directory : Option Path} {outcome : Except Ending InstallResult}
    (ran : (installer.run tool directory).Leads host before outcome after) :
    ∃ behaviour duration,
      Called host (installer.start tool directory) before after behaviour
        (installer.course behaviour) ∧
      outcome = installer.conclusion duration behaviour := by
  rw [run, Act.leads_clock_bind, Act.leads_log_bind] at ran
  have same := SameDeeds.logged (Act.ticked host before) host (installer.startRecord tool)
  have told := (Added.logged (Act.ticked host before) host (installer.startRecord tool)).of_ticked
  rcases launch_bind_leads ran with ⟨behaviour, middle, settled, came⟩
  rw [same.calls, same.tree] at settled
  cases behaviour with
  | refused interruption =>
      rcases came with ⟨added, ran⟩
      rcases refuse_leads ran with ⟨⟨duration, equal⟩, sameTree, record⟩
      refine ⟨_, duration, ⟨sameTree ▸ settled, 0, ?_⟩, equal⟩
      simpa [course, Course.deeds] using (told.trans added).trans record
  | nullCharacter =>
      rcases came with ⟨added, rfl, rfl⟩
      exact ⟨_, 0, ⟨settled, 0, told.trans added⟩, rfl⟩
  | runs process =>
      rcases came with ⟨pid, added, ran⟩
      rcases await_leads (told.trans added) ran with ⟨sameTree, added, duration, equal⟩
      exact ⟨_, duration, ⟨sameTree ▸ settled, pid, added⟩, equal⟩

end Installer

end Toolset
