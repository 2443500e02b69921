import Toolset.Proofs.Sessions

/-!
# What the exit code of a session tells

The code of a session tells what was done: whether there was anything to run, whether all
tools were installed and the workspace was removed, in which step the run failed, and
whether it was called off.  Whoever calls the program goes by that code alone.
-/

namespace Toolset.Session

open Provisioner (errands isOwn)
open Workspace (LeavesBehind clear)

variable {circumstances : Circumstances} {settings : Settings} {spec : Spec} {host : Host}
  {before finished after : World} {ended : Except Ending Report} {code : Int}

/-- The code of a run, by its end. -/
inductive Coded : Except Ending Report → Int → Prop where
  | removed {report : Report} : report.cleanup = none → Coded (.ok report) 0
  | leftBehind {report : Report} {warning : CleanupWarning} :
      report.cleanup = some warning → Coded (.ok report) 4
  | failed (failure : Failure) (cleanup : Option CleanupWarning) :
      Coded (.error (.failed failure cleanup)) failure.exitCode
  | interrupted (how : Cancellation) : Coded (.error (.cancelled how)) 130

theorem coded_of_endOf (ends : endOf ended = .ok code) : Coded ended code := by
  cases ended with
  | ok report =>
      cases cleanup : report.cleanup with
      | none =>
          rw [endOf, cleanup] at ends
          cases ends
          exact .removed cleanup
      | some warning =>
          rw [endOf, cleanup] at ends
          cases ends
          exact .leftBehind cleanup
  | error ending =>
      cases ending with
      | failed failure cleanup =>
          cases ends
          exact .failed failure cleanup
      | cancelled how =>
          cases ends
          exact .interrupted how
      | _ => cases ends

namespace Coded

theorem isOwn_eq (coded : Coded ended code) : isOwn ended = true := by
  cases coded <;> rfl

theorem returned_iff (coded : Coded ended code) :
    code = 0 ∨ code = CleanupWarning.exitCode ↔ ∃ report, ended = .ok report := by
  cases coded with
  | @removed report _ => exact iff_of_true (.inl rfl) ⟨report, rfl⟩
  | @leftBehind report _ _ => exact iff_of_true (.inr rfl) ⟨report, rfl⟩
  | failed failure cleanup =>
      refine iff_of_false ?_ (by simp)
      cases failure <;> simp [Failure.exitCode, CleanupWarning.exitCode]
  | interrupted how =>
      refine iff_of_false ?_ (by simp)
      simp [CleanupWarning.exitCode]

theorem cancelled_iff (coded : Coded ended code) :
    code = interruptedCode ↔ ∃ how, ended = .error (.cancelled how) := by
  cases coded with
  | removed => exact iff_of_false (by decide) (by simp)
  | leftBehind => exact iff_of_false (by decide) (by simp)
  | failed failure cleanup =>
      refine iff_of_false ?_ (by simp)
      cases failure <;> simp [Failure.exitCode, interruptedCode]
  | interrupted how => exact iff_of_true rfl ⟨how, rfl⟩

theorem report_cases {report : Report} (coded : Coded (.ok report) code) :
    code = 0 ∧ report.cleanup = none ∨
    code = CleanupWarning.exitCode ∧ ∃ warning, report.cleanup = some warning := by
  cases coded with
  | removed none => exact .inl ⟨rfl, none⟩
  | leftBehind some => exact .inr ⟨rfl, _, some⟩

theorem failure_of_step (coded : Coded ended code) (step : code = 2 ∨ code = 3) :
    ∃ failure cleanup, ended = .error (.failed failure cleanup) ∧ code = failure.exitCode := by
  cases coded with
  | failed failure cleanup => exact ⟨failure, cleanup, rfl, rfl⟩
  | _ => rcases step with equal | equal <;> cases equal

end Coded

/-- What the code of a session tells that had settings and a specification: the calls of git,
the attempts to install tools, and what became of the clone. -/
structure Tells (settings : Settings) (spec : Spec) (host : Host) (before after : World)
    (code : Int) (fetching : List Call) (attempts : List Attempt) : Prop where
  /-- The programs that were started, be it in vain, are git and then the installer once for
  each tool of a beginning of the list. -/
  calls : after.calls = before.calls ++ (fetching ++ attempts.map Attempt.call)
  issued : ∀ call ∈ fetching, ∃ arguments,
    call.start = (provisionerOf settings).git.start arguments
  starts : attempts.map (fun attempt => attempt.call.start) =
    (spec.tools.take attempts.length).map ((provisionerOf settings).installStart spec)
  tools : spec.tools = settings.tools
  specific : code ≠ misconfiguredCode
  complete_iff : code = 0 ∨ code = CleanupWarning.exitCode ↔
    (provisionerOf settings).Complete spec before.tree fetching attempts
  /-- Of a complete run the code tells whether the removal of the workspace failed. -/
  removed : code = 0 ∨ code = CleanupWarning.exitCode → ∃ worked,
    (provisionerOf settings).Releases spec (levelled settings host)
      (configured settings spec host before) worked ∧
    (code = 0 ↔ ¬∃ warning, LeavesBehind host worked.tree spec.clonePath warning) ∧
    (code = CleanupWarning.exitCode ↔
      ∃ warning, LeavesBehind host worked.tree spec.clonePath warning)
  gone : code = 0 → after.tree.exists? spec.clonePath = .ok false
  notBegun : code = 2 → attempts = []
  notInstalled : code = 3 → ∃ earlier last, attempts = earlier ++ [last] ∧
    (∀ attempt ∈ earlier, attempt.succeeded = true) ∧ last.succeeded = false
  interrupted_iff : code = interruptedCode ↔
    ∃ errand ∈ errands fetching attempts, (provisionerOf settings).calledOff errand = true

theorem tells_of_ended {fetching : List Call} {attempts : List Attempt}
    (made : settings.toSpec = .ok spec)
    (tells : (provisionerOf settings).Ended spec (levelled settings host)
      (configured settings spec host before) finished ended fetching attempts)
    (closes : Closes settings.gateway finished after) (coded : Coded ended code) :
    Tells settings spec host before after code fetching attempts := by
  have started := sameDeeds_configured settings spec host before
  have complete_iff := coded.returned_iff.trans (tells.report_iff coded.isOwn_eq)
  rw [started.tree] at complete_iff
  have released (reported : code = 0 ∨ code = CleanupWarning.exitCode) :
      ∃ report worked, ended = .ok report ∧
        (provisionerOf settings).Releases spec (levelled settings host)
          (configured settings spec host before) worked ∧
        clear (levelled settings host) worked.tree spec.clonePath =
          (finished.tree, .ok report.cleanup) := by
    rcases coded.returned_iff.1 reported with ⟨report, rfl⟩
    rcases tells.released rfl (by simp) with ⟨worked, cleanup, releases, cleared, left⟩
    exact ⟨report, worked, rfl, releases, by rw [left report rfl, cleared]⟩
  exact {
    calls := by
      rw [closes.calls, tells.inOrder.calls, started.calls]
    issued := tells.inOrder.issued
    starts := tells.starts
    tools := Settings.tools_of_toSpec made
    specific := by
      cases coded with
      | failed failure cleanup =>
          cases failure with
          | general text => exact absurd rfl (tells.specific text cleanup)
          | _ => simp [Failure.exitCode, misconfiguredCode]
      | _ => decide
    complete_iff
    removed := by
      intro reported
      rcases released reported with ⟨report, worked, rfl, releases, cleared⟩
      refine ⟨worked, releases, ?_⟩
      have warns_iff (warning : CleanupWarning) :
          LeavesBehind host worked.tree spec.clonePath warning ↔
            report.cleanup = some warning := by
        rw [← leavesBehind_levelled settings, ← Workspace.clear_warns_iff, cleared]
        simp
      simp only [warns_iff]
      rcases coded.report_cases with ⟨rfl, none⟩ | ⟨rfl, warning, left⟩
      · simp [none, CleanupWarning.exitCode]
      · simp [left, CleanupWarning.exitCode]
    gone := by
      rintro rfl
      rcases released (.inl rfl) with ⟨report, worked, rfl, _, cleared⟩
      rcases coded.report_cases with ⟨_, none⟩ | ⟨equal, _⟩
      · rw [none] at cleared
        rw [closes.tree]
        exact Provisioner.gone_of_clear made cleared
      · cases equal
    notBegun := by
      rintro rfl
      rcases coded.failure_of_step (.inl rfl) with ⟨failure, cleanup, rfl, step⟩
      refine tells.inOrder.notBegun failure cleanup rfl ?_
      rintro tool cause rfl
      cases step
    notInstalled := by
      rintro rfl
      rcases coded.failure_of_step (.inr rfl) with ⟨failure, cleanup, rfl, step⟩
      cases failure with
      | install tool cause =>
          rcases tells.inOrder.notInstalled tool cause cleanup rfl with
            ⟨last, result, isLast, _, resulted, failed, _⟩
          rcases List.getLast?_eq_some_iff.1 isLast with ⟨earlier, rfl⟩
          have succeeded := tells.inOrder.succeeded
          rw [List.dropLast_concat] at succeeded
          exact ⟨earlier, last, rfl, succeeded, by simp [Attempt.succeeded, resulted, failed]⟩
      | _ => cases step
    interrupted_iff := coded.cancelled_iff.trans (tells.cancelled_iff coded.isOwn_eq) }

/-- What the code of a session tells whose command line was read. -/
structure ExitCode (circumstances : Circumstances) (arguments : CommandLine.Arguments) (host : Host)
    (before after : World) (code : Int) : Prop where
  misconfigured_iff :
    code = misconfiguredCode ↔ ∃ error, configure circumstances arguments = .error error
  /-- Nothing is started, no file is changed and nothing is pushed. -/
  untouched : code = misconfiguredCode → after = before
  configured : ∀ settings spec, configure circumstances arguments = .ok (settings, spec) →
    ∃ fetching attempts, Tells settings spec host before after code fetching attempts

/-- Whenever a session ends with a code, and not because its command line asks for help or is
refused, the code tells what was done. -/
theorem run_exitCode (circumstances : Circumstances) (words : List String) (host : Host)
    (before : World) :
    ∃ outcome after, (run circumstances words).Leads host before outcome after ∧
      ∀ ended, outcome = .ok ended → (∀ stop, ended ≠ .stopped stop) →
        ∃ arguments, CommandLine.read words = .ok arguments ∧
          ExitCode circumstances arguments host before after ended.code := by
  rcases (run circumstances words).exists_leads host before with ⟨outcome, after, ran⟩
  refine ⟨outcome, after, ran, ?_⟩
  cases run_went ran with
  | stopped read same =>
      rintro ended equal unstopped
      cases equal
      exact absurd rfl (unstopped _)
  | @misconfigured arguments error read known same =>
      rintro ended equal _
      cases equal
      refine ⟨arguments, read, iff_of_true rfl ⟨error, known⟩, fun _ => same, ?_⟩
      intro settings spec other
      cases known.symm.trans other
  | @ran arguments settings spec ended finished read known provisioned closes =>
      rintro last equal _
      cases ends : endOf ended with
      | error ending =>
          rw [ends] at equal
          cases equal
      | ok code =>
          rw [ends] at equal
          cases equal
          have made := toSpec_of_configure known
          rcases Provisioner.provision_ended (isQuiet_sink settings) provisioned with
            ⟨fetching, attempts, tells⟩
          have told := tells_of_ended made tells closes (coded_of_endOf ends)
          refine ⟨arguments, read, ?_, fun equal => absurd equal told.specific, ?_⟩
          · refine iff_of_false told.specific ?_
            rintro ⟨error, other⟩
            cases known.symm.trans other
          · intro others otherSpec other
            cases known.symm.trans other
            exact ⟨fetching, attempts, told⟩

/-- Without a source there is nothing to run. -/
example : (run {} ["provision"]).Leads .quiet {}
    (.ok (.misconfigured (.settings (.invalid [⟨[.name "source_url"], .missing⟩])))) {} := by
  rfl

/-! ## Sessions that are interrupted -/

/-- What is left of the clone of a session that was interrupted: it is there exactly if its
removal failed and left it.  Nobody is told of that: neither the code nor the message of the
session depends on it. -/
structure Interrupted (settings : Settings) (spec : Spec) (host : Host)
    (before worked after : World) : Prop where
  released : (provisionerOf settings).Releases spec (levelled settings host)
    (configured settings spec host before) worked
  answered : ∃ isThere, after.tree.exists? spec.clonePath = .ok isThere
  there_iff : after.tree.exists? spec.clonePath = .ok true ↔
    (∃ warning, LeavesBehind host worked.tree spec.clonePath warning) ∧
      (Workspace.removal host worked.tree spec.clonePath).1.exists? spec.clonePath = .ok true

/-- The release of a session that was interrupted decides what is left of its clone. -/
theorem interrupted_of_clear {worked : World} {cleanup : Option CleanupWarning}
    (made : settings.toSpec = .ok spec)
    (releases : (provisionerOf settings).Releases spec (levelled settings host)
      (configured settings spec host before) worked)
    (cleared : clear (levelled settings host) worked.tree spec.clonePath =
      (after.tree, .ok cleanup)) :
    Interrupted settings spec host before worked after := by
  have behind_iff (warning : CleanupWarning) :
      LeavesBehind host worked.tree spec.clonePath warning ↔ cleanup = some warning := by
    rw [← leavesBehind_levelled settings, ← Workspace.clear_warns_iff, cleared]
    simp
  cases cleanup with
  | none =>
      have gone := Provisioner.gone_of_clear made cleared
      refine ⟨releases, ⟨false, gone⟩, iff_of_false (by simp [gone]) ?_⟩
      rintro ⟨⟨warning, behind⟩, _⟩
      cases (behind_iff warning).1 behind
  | some warning =>
      have behind := (behind_iff warning).2 rfl
      have left :=
        Provisioner.tree_of_leavesBehind ((leavesBehind_levelled settings).2 behind) cleared
      rw [removal_levelled] at left
      refine ⟨releases, ?_, ?_⟩
      · rw [left]
        exact Provisioner.answered_of_leavesBehind behind
      · rw [left]
        exact (and_iff_right ⟨warning, behind⟩).symm

/-- A session that ends with the code of an interruption has released its workspace, and its
clone is gone unless the removal failed and left it. -/
theorem run_interrupted (circumstances : Circumstances) (words : List String) (host : Host)
    (before : World) :
    ∃ outcome after, (run circumstances words).Leads host before outcome after ∧
      ∀ ended, outcome = .ok ended → ended.code = interruptedCode →
        ∃ arguments settings spec worked, CommandLine.read words = .ok arguments ∧
          configure circumstances arguments = .ok (settings, spec) ∧
          Interrupted settings spec host before worked after := by
  rcases (run circumstances words).exists_leads host before with ⟨outcome, after, ran⟩
  refine ⟨outcome, after, ran, ?_⟩
  cases run_went ran with
  | @stopped stop read same =>
      rintro ended equal interrupted
      cases equal
      cases stop <;> cases interrupted
  | misconfigured read known same =>
      rintro ended equal interrupted
      cases equal
      cases interrupted
  | @ran arguments settings spec ended finished read known provisioned closes =>
      rintro last equal interrupted
      cases ends : endOf ended with
      | error ending =>
          rw [ends] at equal
          cases equal
      | ok code =>
          rw [ends] at equal
          cases equal
          rcases (coded_of_endOf ends).cancelled_iff.1 interrupted with ⟨how, rfl⟩
          rcases Provisioner.provision_ended (isQuiet_sink settings) provisioned with
            ⟨fetching, attempts, tells⟩
          rcases tells.released rfl (by simp) with ⟨worked, cleanup, releases, cleared, _⟩
          rw [← closes.tree] at cleared
          exact ⟨arguments, settings, spec, worked, read, known,
            interrupted_of_clear (toSpec_of_configure known) releases cleared⟩

end Toolset.Session
