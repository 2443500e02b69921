import Toolset.Proofs.Chronicle
import Toolset.Proofs.Keeping
import Toolset.Proofs.Verdicts

/-!
# Kills

A call kills the group of a process only if it started that process itself, and only to end
a wait that takes too long or is called off.  The kill is followed by a wait for the process
and nothing else, so what is killed has not been waited for before.  Processes are numbered
in the order of their starts; hence no later call kills what an earlier one waited for.
-/

namespace Toolset

/-! ## What follows a start -/

/-- The deeds that follow a start, of the process with a number, by whether it runs and
whether its wait ends too early.  Nothing follows if it does not run.  Otherwise nothing
more is done, or its end is waited for once, or, exactly if the wait ends too early, its
group is killed and its end waited for. -/
inductive Aftermath (pid : Nat) : Bool → Bool → List Deed → Prop where
  | refused (early : Bool) : Aftermath pid false early []
  | left : Aftermath pid true false [.running pid]
  | collected : Aftermath pid true false [.running pid, .collected pid]
  | waited : Aftermath pid true false [.running pid, .waited pid]
  | killed : Aftermath pid true true [.running pid, .killed pid, .waited pid]

theorem Course.aftermath {course : Course} {running early : Bool} (start : Start) (pid : Nat)
    (runs : course = .refused ↔ running = false)
    (kills : course = .killed ↔ running = true ∧ early = true) :
    ∃ rows, course.deeds start pid = .started start :: rows ∧
      Aftermath pid running early rows := by
  cases running with
  | false =>
      cases runs.2 rfl
      exact ⟨[], rfl, .refused early⟩
  | true =>
      cases early with
      | true =>
          cases kills.2 ⟨rfl, rfl⟩
          exact ⟨_, rfl, .killed⟩
      | false =>
          cases course with
          | refused => cases runs.1 rfl
          | killed => cases (kills.1 rfl).2
          | collected => exact ⟨_, rfl, .collected⟩
          | waited => exact ⟨_, rfl, .waited⟩
          | left => exact ⟨_, rfl, .left⟩

/-! ## Kills and waits in order -/

/-- The process that a deed is about. -/
def Deed.pid? : Deed → Option Nat
  | .running pid | .collected pid | .killed pid | .waited pid => some pid
  | .acquired _ | .started _ | .released _ | .pushed _ _ => none

/-- The end of a process is waited for. -/
def Deed.reaps (pid : Nat) : Deed → Prop
  | .collected other | .waited other => other = pid
  | _ => False

/-- Deeds in which no process is killed after its end was waited for. All of them are about
processes that were started. -/
structure Orderly (deeds : List Deed) : Prop where
  numbered : ∀ deed ∈ deeds, ∀ pid, deed.pid? = some pid → pid ≤ lastPid deeds
  unreaped : deeds.Pairwise fun earlier later =>
    ∀ pid, later = .killed pid → ¬earlier.reaps pid

namespace Orderly

variable {deeds : List Deed}

theorem nil : Orderly [] := ⟨by simp, .nil⟩

theorem lastPid_append (deeds later : List Deed) :
    lastPid (deeds ++ later) = lastPid deeds + (later.filter Deed.isStart).length := by
  simp [lastPid, Nat.add_assoc]

theorem lastPid_started (deeds : List Deed) (start : Start) :
    lastPid (deeds ++ [.started start]) = lastPid deeds + 1 := by
  rw [lastPid_append]
  rfl

theorem pid?_of_reaps {deed : Deed} {pid : Nat} (reaps : deed.reaps pid) :
    deed.pid? = some pid := by
  cases deed with
  | collected other => exact congrArg some reaps
  | waited other => exact congrArg some reaps
  | _ => cases reaps

theorem concat (orderly : Orderly deeds) {deed : Deed} (other : deed.pid? = none) :
    Orderly (deeds ++ [deed]) := by
  have more := lastPid_append deeds [deed]
  constructor
  · intro earlier member pid about
    rw [List.mem_append, List.mem_singleton] at member
    obtain member | rfl := member
    · have least := orderly.numbered earlier member pid about
      omega
    · rw [other] at about
      cases about
  · rw [List.pairwise_append]
    refine ⟨orderly.unreaped, List.pairwise_singleton _ _, ?_⟩
    intro earlier _ later member pid kills
    rw [List.mem_singleton.1 member] at kills
    rw [kills] at other
    cases other

/-- What follows a start is in order if what came before it is: the new process has been
waited for by none of that. -/
theorem append_aftermath (orderly : Orderly deeds) {start : Start} {running early : Bool}
    {rows : List Deed}
    (follows : Aftermath (lastPid (deeds ++ [.started start])) running early rows) :
    Orderly (deeds ++ .started start :: rows) := by
  rw [lastPid_started] at follows
  have about : ∀ deed ∈ rows, ∀ pid, deed.pid? = some pid → pid = lastPid deeds + 1 := by
    cases follows <;> simp [Deed.pid?, eq_comm]
  have ordered : rows.Pairwise fun earlier later =>
      ∀ pid, later = .killed pid → ¬earlier.reaps pid := by
    cases follows <;> simp [Deed.reaps]
  constructor
  · have more := lastPid_append deeds (.started start :: rows)
    rw [List.filter_cons_of_pos rfl, List.length_cons] at more
    intro deed member pid names
    obtain member | member := List.mem_append.1 member
    · have least := orderly.numbered deed member pid names
      omega
    · obtain rfl | member := List.mem_cons.1 member
      · cases names
      · have number := about deed member pid names
        omega
  · rw [List.pairwise_append, List.pairwise_cons]
    refine ⟨orderly.unreaped, ⟨fun _ _ _ _ => id, ordered⟩, ?_⟩
    rintro earlier before _ member pid rfl reaps
    obtain differs | member := List.mem_cons.1 member
    · cases differs
    · have least := orderly.numbered earlier before pid (pid?_of_reaps reaps)
      have number := about _ member pid rfl
      omega

end Orderly

/-! ## Calls with their numbers -/

/-- A process that runs goes by the number of its start. -/
theorem launch_of_runs {start : Start} {host : Host} {before : World} {tree : FileTree}
    {process : Process} (settled : (host.program before.calls.length start before.tree).settle
      before.tree = (tree, .runs process)) :
    ∃ middle, (launch start).Leads host before
        (.ok (.ok ⟨lastPid (before.deeds ++ [.started start]), process⟩)) middle ∧
      Added before middle [⟨start, .runs process⟩]
        [.started start, .running (lastPid (before.deeds ++ [.started start]))] [] := by
  obtain ⟨outcome, middle, ran⟩ := (launch start).exists_leads host before
  have went := ran
  rw [launch] at ran
  simp only [Act.leads_get_bind, Act.leads_read_bind, settled, Act.leads_set_bind,
    Act.leads_perform_bind] at ran
  obtain ⟨rfl, rfl⟩ := Act.leads_pure.1 ran
  exact ⟨_, went, rfl, by simp, by simp, List.prefix_rfl⟩

/-- What a call does to its process: the rows that it leaves behind its start are those of
the process with the number of that start, and the group is killed exactly if the process
runs and its wait ends too early.  What was in order before is in order afterwards. -/
structure Handled (host : Host) (start : Start) (before after : World) (behaviour : Behaviour)
    (early : Bool) : Prop where
  settled : (host.program before.calls.length start before.tree).settle before.tree =
    (after.tree, behaviour)
  rows : ∃ rows, after.deeds = before.deeds ++ .started start :: rows ∧
    Aftermath (lastPid (before.deeds ++ [.started start])) behaviour.isRunning early rows
  orderly : Orderly before.deeds → Orderly after.deeds

theorem Called.handled {host : Host} {start : Start} {before after : World}
    {behaviour : Behaviour} {course : Course} {early : Bool}
    (called : Called host start before after behaviour course)
    (numbered : after.deeds =
      before.deeds ++ course.deeds start (lastPid (before.deeds ++ [.started start])))
    (runs : course = .refused ↔ behaviour.isRunning = false)
    (kills : course = .killed ↔ behaviour.isRunning = true ∧ early = true) :
    Handled host start before after behaviour early := by
  obtain ⟨rows, deeds, follows⟩ := Course.aftermath start _ runs kills
  rw [deeds] at numbered
  refine ⟨called.settled, ⟨rows, numbered, follows⟩, ?_⟩
  intro orderly
  rw [numbered]
  exact orderly.append_aftermath follows

namespace Git

variable {git : Git} {source : String} {arguments : List String} {host : Host}
  {before after : World} {outcome : Except Ending Answer}

theorem deeds_of_execute {behaviour : Behaviour}
    (ran : (git.execute source arguments).Leads host before outcome after)
    (called : Called host (git.start arguments) before after behaviour (git.course behaviour)) :
    after.deeds = before.deeds ++ (git.course behaviour).deeds (git.start arguments)
      (lastPid (before.deeds ++ [.started (git.start arguments)])) := by
  obtain ⟨_, added⟩ := called.added
  cases behaviour with
  | refused interruption => exact added.deeds
  | nullCharacter => exact added.deeds
  | runs process =>
      have same := SameDeeds.logged before host (startRecord (git.start arguments))
      have told := Added.logged before host (startRecord (git.start arguments))
      have settled := called.settled
      rw [← same.calls, ← same.tree] at settled
      obtain ⟨middle, launches, adds⟩ := launch_of_runs settled
      rw [same.deeds] at launches adds
      rw [execute, Act.leads_log_bind, Act.leads_bind_of_ok launches] at ran
      obtain ⟨_, numbered, _⟩ := await_leads (told.trans adds) ran
      exact numbered.deeds

theorem course_eq_refused_iff {behaviour : Behaviour} :
    git.course behaviour = .refused ↔ behaviour.isRunning = false := by
  cases behaviour with
  | refused interruption => exact iff_of_true rfl rfl
  | nullCharacter => exact iff_of_true rfl rfl
  | runs process =>
      rw [course]
      cases git.verdict process <;> simp [Behaviour.isRunning]

/-- The process of a call is killed exactly if the wait for it takes too long or is called
off. -/
theorem course_eq_killed_iff {behaviour : Behaviour} :
    git.course behaviour = .killed ↔
      behaviour.isRunning = true ∧ (git.timesOut behaviour || git.calledOff behaviour) = true := by
  cases behaviour with
  | refused interruption => simp [course, Behaviour.isRunning]
  | nullCharacter => simp [course, Behaviour.isRunning]
  | runs process =>
      rw [← isTimedOut_verdict, calledOff, ← isCalledOff_wait, ← verdict, course]
      cases git.verdict process <;>
        simp [Behaviour.isRunning, Wait.isTimedOut, Wait.isCalledOff]

theorem conclusion_of_timesOut {behaviour : Behaviour} (late : git.timesOut behaviour = true) :
    git.conclusion source arguments behaviour =
      .error (.failed (.fetch source (timeoutMessage arguments git.limit)) none) := by
  cases behaviour with
  | refused interruption => cases late
  | nullCharacter => cases late
  | runs process =>
      rw [← isTimedOut_verdict] at late
      rw [conclusion]
      cases verdict : git.verdict process <;> simp_all [Wait.isTimedOut]

theorem conclusion_eq_cancelled_iff {behaviour : Behaviour} :
    git.calledOff behaviour = true ↔
      ∃ how, git.conclusion source arguments behaviour = .error (.cancelled how) := by
  cases behaviour with
  | refused interruption =>
      cases interruption <;> simp [calledOff, conclusion, Interruption.isCancelled]
  | nullCharacter => simp [calledOff, conclusion]
  | runs process =>
      rw [calledOff, ← isCalledOff_wait, ← verdict, conclusion]
      cases git.verdict process <;> simp [Wait.isCalledOff]

/-- What a call of git does to its process, and how it ends. The process is killed exactly if
it runs and the call took too long, which is a failure to fetch, or ends with a
cancellation. -/
structure Killing (git : Git) (source : String) (arguments : List String) (host : Host)
    (before after : World) (behaviour : Behaviour) (outcome : Except Ending Answer) : Prop where
  handled : Handled host (git.start arguments) before after behaviour
    (git.timesOut behaviour || git.calledOff behaviour)
  late : git.timesOut behaviour = true →
    outcome = .error (.failed (.fetch source (timeoutMessage arguments git.limit)) none)
  cancelled : git.calledOff behaviour = true ↔ ∃ how, outcome = .error (.cancelled how)

theorem killing_of_execute
    (ran : (git.execute source arguments).Leads host before outcome after) :
    ∃ behaviour, git.Killing source arguments host before after behaviour outcome := by
  obtain ⟨behaviour, called, rfl⟩ := execute_leads ran
  have handled := called.handled (deeds_of_execute ran called) course_eq_refused_iff
    course_eq_killed_iff
  exact ⟨behaviour, handled, conclusion_of_timesOut, conclusion_eq_cancelled_iff⟩

end Git

namespace Installer

variable {installer : Installer} {tool : Path} {directory : Option Path} {host : Host}
  {before after : World} {behaviour : Behaviour}

theorem deeds_of_run {outcome : Except Ending InstallResult}
    (ran : (installer.run tool directory).Leads host before outcome after)
    (called : Called host (installer.start tool directory) before after behaviour
      (installer.course behaviour)) :
    after.deeds = before.deeds ++ (installer.course behaviour).deeds
      (installer.start tool directory)
      (lastPid (before.deeds ++ [.started (installer.start tool directory)])) := by
  obtain ⟨_, added⟩ := called.added
  cases behaviour with
  | refused interruption => exact added.deeds
  | nullCharacter => exact added.deeds
  | runs process =>
      have same := SameDeeds.logged (Act.ticked host before) host (installer.startRecord tool)
      have told := (Added.logged (Act.ticked host before) host
        (installer.startRecord tool)).of_ticked
      have settled := called.settled
      change (host.program (Act.ticked host before).calls.length _
        (Act.ticked host before).tree).settle (Act.ticked host before).tree = _ at settled
      rw [← same.calls, ← same.tree] at settled
      obtain ⟨middle, launches, adds⟩ := launch_of_runs settled
      rw [same.deeds] at launches adds
      rw [run, Act.leads_clock_bind, Act.leads_log_bind, Act.leads_bind_of_ok launches] at ran
      obtain ⟨_, numbered, _⟩ := await_leads (told.trans adds) ran
      exact numbered.deeds

theorem course_eq_refused_iff :
    installer.course behaviour = .refused ↔ behaviour.isRunning = false := by
  cases behaviour with
  | refused interruption => exact iff_of_true rfl rfl
  | nullCharacter => exact iff_of_true rfl rfl
  | runs process =>
      rw [course]
      cases installer.verdict process <;> simp [Behaviour.isRunning]

/-- An installation ends with a cancellation. A second interruption at the keyboard under a
limit is none: it ends the whole program while the first is still on its way, so that no
cancellation ever comes to the installation. -/
def cancels (installer : Installer) (behaviour : Behaviour) : Bool :=
  installer.calledOff behaviour && !installer.interruptedTwice behaviour

theorem course_eq_killed_iff :
    installer.course behaviour = .killed ↔ behaviour.isRunning = true ∧
      (installer.timesOut behaviour || installer.cancels behaviour) = true := by
  cases behaviour with
  | refused interruption => simp [course, Behaviour.isRunning]
  | nullCharacter => simp [course, Behaviour.isRunning]
  | runs process =>
      have off : installer.calledOff (.runs process) = (installer.verdict process).isCalledOff :=
        (isCalledOff_verdict installer process).symm
      have kept : installer.calledOff (.runs process) = true →
          installer.course (.runs process) =
            if installer.interruptedTwice (.runs process) then .left else .killed :=
        course_of_calledOff
      rw [cancels, ← isTimedOut_verdict]
      rw [off] at kept ⊢
      rw [course] at kept ⊢
      generalize installer.verdict process = wait at kept ⊢
      cases wait <;> cases twice : installer.interruptedTwice (.runs process) <;>
        simp_all [Behaviour.isRunning, Wait.isTimedOut, Wait.isCalledOff]

theorem conclusion_of_timesOut {duration : Float} (late : installer.timesOut behaviour = true) :
    installer.conclusion duration behaviour =
      .ok (without (timeoutMessage installer.limit) duration) := by
  cases behaviour with
  | refused interruption =>
      cases interruption with
      | timedOut => rfl
      | failed error =>
          have isTimeout : error.isTimeout = true := late
          rw [conclusion, if_pos isTimeout]
      | cancelled how => cases late
  | nullCharacter => cases late
  | runs process =>
      rw [← isTimedOut_verdict] at late
      rw [conclusion]
      cases verdict : installer.verdict process <;> simp_all [Wait.isTimedOut]

theorem conclusion_eq_cancelled_iff {duration : Float} :
    installer.calledOff behaviour = true ↔
      ∃ how, installer.conclusion duration behaviour = .error (.cancelled how) := by
  cases behaviour with
  | refused interruption =>
      cases interruption <;> simp [calledOff, conclusion, Interruption.isCancelled]
  | nullCharacter => simp [calledOff, conclusion]
  | runs process =>
      rw [← isCalledOff_verdict, conclusion]
      cases installer.verdict process <;> simp [Wait.isCalledOff]

theorem cancels_iff {duration : Float} : installer.cancels behaviour = true ↔
    (∃ how, installer.conclusion duration behaviour = .error (.cancelled how)) ∧
      installer.interruptedTwice behaviour = false := by
  rw [cancels, Bool.and_eq_true, Bool.not_eq_true', conclusion_eq_cancelled_iff]

/-- What an installation does to its process, and how it ends. The process is killed exactly
if it runs and the installation took too long, for which there is a result, or ends with a
cancellation: the work is called off, and no second interruption ends the program before
that is known. -/
structure Killing (installer : Installer) (tool : Path) (directory : Option Path) (host : Host)
    (before after : World) (behaviour : Behaviour) (outcome : Except Ending InstallResult) :
    Prop where
  handled : Handled host (installer.start tool directory) before after behaviour
    (installer.timesOut behaviour || installer.cancels behaviour)
  late : installer.timesOut behaviour = true → ∃ duration,
    outcome = .ok (without (timeoutMessage installer.limit) duration)
  cancelled : installer.cancels behaviour = true ↔
    (∃ how, outcome = .error (.cancelled how)) ∧ installer.interruptedTwice behaviour = false

theorem killing_of_run {outcome : Except Ending InstallResult}
    (ran : (installer.run tool directory).Leads host before outcome after) :
    ∃ behaviour, installer.Killing tool directory host before after behaviour outcome := by
  obtain ⟨behaviour, duration, called, rfl⟩ := run_leads ran
  have handled := called.handled (deeds_of_run ran called) course_eq_refused_iff
    course_eq_killed_iff
  refine ⟨behaviour, handled, ?_, cancels_iff⟩
  intro late
  exact ⟨duration, conclusion_of_timesOut late⟩

end Installer

/-! ## Runs -/

theorem Orderly.accompanies (host : Host) (sink : Sink) (source : String) :
    Accompanies host sink source
      fun before after => Orderly before.deeds → Orderly after.deeds := by
  apply Accompanies.of_sameDeeds
  · intro before after same orderly
    rwa [same.deeds]
  · intro before middle after first second orderly
    exact second (first orderly)

namespace Provisioner

theorem orderly_provision {provisioner : Provisioner} {spec : Spec} {host : Host}
    {before after : World} {outcome : Except Ending Report}
    (ran : (provisioner.provision spec).Leads host before outcome after)
    (orderly : Orderly before.deeds) : Orderly after.deeds := by
  refine keeps_provision (Orderly.accompanies host _ _) ?clock ?acquire ?release ?execute ?run
    _ _ _ ran orderly
  case clock =>
    intro before outcome after ran orderly
    obtain ⟨_, rfl⟩ := Act.leads_clock.1 ran
    exact orderly
  case acquire =>
    intro before outcome after ran orderly
    cases outcome with
    | ok workspace =>
        rw [(Workspace.acquire_leads ran).added_of_ok.deeds]
        exact orderly.concat rfl
    | error ending =>
        rw [(Workspace.acquire_leads ran).added_of_error.deeds, List.append_nil]
        exact orderly
  case release =>
    intro path before outcome after ran orderly
    rw [(Workspace.added_of_release ran).deeds]
    exact orderly.concat rfl
  case execute =>
    intro arguments before outcome after ran
    obtain ⟨behaviour, killing⟩ := Git.killing_of_execute ran
    exact killing.handled.orderly
  case run =>
    intro tool directory before outcome after ran
    obtain ⟨behaviour, killing⟩ := Installer.killing_of_run ran
    exact killing.handled.orderly

/-- However many runs of a specification follow one another, they kill nothing that was
waited for, neither by the same run nor by one before it. -/
theorem orderly_runs {spec : Spec} {runs : List (Provisioner × Host)} {moments : List Moment}
    {before after : World} (ran : Runs spec before runs moments after)
    (orderly : Orderly before.deeds) : Orderly after.deeds := by
  induction ran with
  | nil world => exact orderly
  | @cons _ middle _ _ host _ _ _ _ ran _ _ ih =>
      have kept := orderly_provision ran orderly
      rw [← World.deeds_linger middle host.lingering] at kept
      exact ih kept

end Provisioner

/-- Every call of git and every installation deals with its process in one of four ways: it
is not there, or it is left alone, waited for once, or killed and then waited for once, and
the last is what happens exactly if it runs and the call takes too long or ends with a
cancellation.  No run kills what was waited for before, and no sequence of runs does. -/
theorem calls_killing_runs_orderly (host : Host) (before : World) :
    (∀ (git : Git) (source : String) (arguments : List String), ∃ behaviour outcome after,
      (git.execute source arguments).Leads host before outcome after ∧
        git.Killing source arguments host before after behaviour outcome) ∧
    (∀ (installer : Installer) (tool : Path) (directory : Option Path),
      ∃ behaviour outcome after, (installer.run tool directory).Leads host before outcome after ∧
        installer.Killing tool directory host before after behaviour outcome) ∧
    (∀ (provisioner : Provisioner) (spec : Spec), ∃ outcome after,
      (provisioner.provision spec).Leads host before outcome after ∧
        (Orderly before.deeds → Orderly after.deeds)) ∧
    ∀ (spec : Spec) (runs : List (Provisioner × Host)), ∃ moments after,
      Provisioner.Runs spec before runs moments after ∧
        (Orderly before.deeds → Orderly after.deeds) := by
  refine ⟨?_, ?_, ?_, ?_⟩
  · intro git source arguments
    obtain ⟨outcome, after, ran⟩ := (git.execute source arguments).exists_leads host before
    obtain ⟨behaviour, killing⟩ := Git.killing_of_execute ran
    exact ⟨behaviour, outcome, after, ran, killing⟩
  · intro installer tool directory
    obtain ⟨outcome, after, ran⟩ := (installer.run tool directory).exists_leads host before
    obtain ⟨behaviour, killing⟩ := Installer.killing_of_run ran
    exact ⟨behaviour, outcome, after, ran, killing⟩
  · intro provisioner spec
    obtain ⟨outcome, after, ran⟩ := (provisioner.provision spec).exists_leads host before
    exact ⟨outcome, after, ran, Provisioner.orderly_provision ran⟩
  · intro spec runs
    obtain ⟨moments, after, ran⟩ := Provisioner.exists_runs spec before runs
    exact ⟨moments, after, ran, Provisioner.orderly_runs ran⟩

end Toolset
