import Toolset.Proofs.Acceptance
import Toolset.Proofs.Lines
import Toolset.Proofs.Run
import Toolset.Proofs.Verdicts

/-!
# Results of installations

A result comes about in one of three ways: the installer ended by itself and all that it
wrote was read, or it took too long, or an error of the system kept it from starting or
broke into the reading.  Only the first gives an exit code; the others give a result of
their own, whatever was read.  Why an installation failed is always said in one line.
-/

namespace Toolset

namespace Installer

variable {installer : Installer} {behaviour : Behaviour}

/-- What a result says, by what came of the start. -/
structure Coherent (installer : Installer) (behaviour : Behaviour) (result : InstallResult) :
    Prop where
  success_iff_code : result.success = true ↔ result.code = 0
  code_iff : result.code = 0 ↔ installer.finishes behaviour = true ∧
    ∃ process, behaviour = .runs process ∧ (process.code = some 0 ∨ process.code = none)
  finished : ∀ process, behaviour = .runs process → installer.finishes behaviour = true →
    result.code = process.code.getD 0
  unfinished : installer.finishes behaviour = false →
    (installer.timesOut behaviour = true ∨ (installer.error? behaviour).isSome = true) ∧
      result.success = false ∧ result.code = -1 ∧ result.output = ""
  reason : result.success = false → Text.IsLine result.failureReason.toList

theorem coherent_without {message : String} {duration : Float}
    (unfinished : installer.finishes behaviour = false)
    (why : installer.timesOut behaviour = true ∨ (installer.error? behaviour).isSome = true) :
    installer.Coherent behaviour (without message duration) where
  success_iff_code := by simp [without]
  code_iff := by
    rw [unfinished]
    exact iff_of_false (by simp [without]) (by simp)
  finished := by
    intro process _ finished
    rw [unfinished] at finished
    cases finished
  unfinished := fun _ => ⟨why, rfl, rfl, rfl⟩
  reason := fun _ => InstallResult.isLine_failureReason _

theorem coherent_finished {process : Process} {result : InstallResult}
    (finished : installer.finishes (.runs process) = true)
    (code : result.code = process.code.getD 0) (success : result.success = (result.code == 0)) :
    installer.Coherent (.runs process) result where
  success_iff_code := by rw [success, beq_iff_eq]
  code_iff := by
    rw [code, finished]
    cases exit : process.code <;> simp [exit]
  finished := by
    intro other same _
    cases same
    exact code
  unfinished := by
    intro unfinished
    rw [finished] at unfinished
    cases unfinished
  reason := fun _ => InstallResult.isLine_failureReason _

theorem coherent_of_conclusion {duration : Float} {result : InstallResult}
    (concluded : installer.conclusion duration behaviour = .ok result) :
    installer.Coherent behaviour result := by
  cases behaviour with
  | nullCharacter => cases concluded
  | refused interruption =>
      cases interruption with
      | cancelled how => cases concluded
      | timedOut =>
          cases concluded
          exact coherent_without rfl (.inl rfl)
      | failed error =>
          cases concluded
          apply coherent_without rfl
          change error.isTimeout = true ∨
            (if error.isTimeout then none else some error).isSome = true
          cases error.isTimeout with
          | true => exact .inl rfl
          | false => exact .inr rfl
  | runs process =>
      have finishes := isDone_verdict installer process
      have late := isTimedOut_verdict installer process
      have error := error?_verdict installer process
      rw [conclusion] at concluded
      cases verdict : installer.verdict process <;>
        simp only [verdict, Except.ok.injEq, reduceCtorEq] at concluded finishes late error
      all_goals subst concluded
      case done => exact coherent_finished finishes.symm rfl rfl
      case timedOut => exact coherent_without finishes.symm (.inl late.symm)
      case failed =>
        apply coherent_without finishes.symm
        right
        rw [← error]
        rfl

/-- An installer that takes too long, or that an error of the system keeps from starting or
from being read, has a result, and did not end by itself. -/
theorem conclusion_of_trouble (duration : Float)
    (why : installer.timesOut behaviour = true ∨ (installer.error? behaviour).isSome = true) :
    ∃ result, installer.conclusion duration behaviour = .ok result ∧
      installer.finishes behaviour = false := by
  cases behaviour with
  | nullCharacter => cases why <;> contradiction
  | refused interruption =>
      cases interruption with
      | cancelled how => cases why <;> contradiction
      | timedOut => exact ⟨_, rfl, rfl⟩
      | failed error => exact ⟨_, rfl, rfl⟩
  | runs process =>
      rw [← isTimedOut_verdict, ← error?_verdict] at why
      rw [← isDone_verdict, conclusion]
      cases verdict : installer.verdict process <;>
        simp_all [Wait.isTimedOut, Wait.error?, Wait.isDone]

end Installer

/-! ## What is said of a failed installation -/

/-- What is said of a tool that could not be installed is not blank. It is a single line
exactly if the path of the tool, as it was given, holds no boundary of lines. -/
theorem Failure.lines_message {tool cause : String} (line : Text.IsLine cause.toList) :
    (∃ c ∈ (Failure.install tool cause).message.toList, Text.isBlank c = false) ∧
      (Text.lines (Failure.install tool cause).message.toList =
          [(Failure.install tool cause).message.toList] ↔
        ∀ c ∈ tool.toList, Text.isLineBreak c = false) := by
  have message : (Failure.install tool cause).message.toList =
      "Failed to install ".toList ++ tool.toList ++ ": ".toList ++ cause.toList := by
    change ("Failed to install " ++ tool ++ ": " ++ cause).toList = _
    rw [String.toList_append, String.toList_append, String.toList_append]
  have opening : ∀ c ∈ "Failed to install ".toList, Text.isLineBreak c = false :=
    Text.unbroken_of_all (by decide)
  have colon : ∀ c ∈ ": ".toList, Text.isLineBreak c = false := Text.unbroken_of_all (by decide)
  obtain ⟨c, member, said⟩ := line.said
  have among : c ∈ (Failure.install tool cause).message.toList := by
    rw [message]
    exact List.mem_append_right _ member
  refine ⟨⟨c, among, said⟩, ?_⟩
  rw [Text.lines_eq_singleton_iff, message, List.forall_mem_append, List.forall_mem_append,
    List.forall_mem_append]
  constructor
  · intro ⟨_, ⟨⟨_, unbroken⟩, _⟩, _⟩
    exact unbroken
  · intro unbroken
    refine ⟨?_, ⟨⟨opening, unbroken⟩, colon⟩, (Text.isLine_iff.1 line).1⟩
    rw [← message]
    exact List.ne_nil_of_mem among

namespace Provisioner

variable {provisioner : Provisioner} {spec : Spec} {workspace : Workspace} {tool : String}
  {host : Host} {before after : World}

/-- An attempt fails for the reason of the result of its installation, which has no success. -/
theorem failure_of_installOne {failure : Failure} {cleanup : Option CleanupWarning}
    (ran : (provisioner.installOne spec workspace tool).Leads host before
      (.error (.failed failure cleanup)) after) :
    ∃ behaviour result, provisioner.installer.Coherent behaviour result ∧
      result.success = false ∧ failure = .install tool result.failureReason := by
  have silent {kind : EventKind} {details : List Field} {world last : World}
      (told : (tell provisioner.sink spec.source kind details).Leads host world
        (.error (.failed failure cleanup)) last) : False := by
    obtain ⟨_, _, equal⟩ := tell_leads told
    split at equal <;> cases equal
  rw [installOne] at ran
  obtain ⟨_, begun, told, ran⟩ | ⟨_, told, equal⟩ := Act.leads_bind.1 ran
  · obtain ⟨result, installed, install, ran⟩ | ⟨_, install, equal⟩ := Act.leads_bind.1 ran
    · cases success : result.success with
      | true =>
          rw [success, if_pos rfl] at ran
          exact (silent ran).elim
      | false =>
          rw [success, if_neg (by simp)] at ran
          obtain ⟨equal, _⟩ := Act.leads_throw.1 ran
          cases equal
          obtain ⟨behaviour, _, _, concluded⟩ := Installer.run_leads install
          have coherent := Installer.coherent_of_conclusion concluded.symm
          exact ⟨behaviour, result, coherent, success, rfl⟩
    · cases equal
      obtain ⟨behaviour, _, _, concluded⟩ := Installer.run_leads install
      cases Installer.isFailure_of_escape? (Installer.escape?_of_error concluded.symm)
  · cases equal
    exact (silent told).elim

end Provisioner

/-- Wherever an installation leads, a result is coherent, and there is one if the installer
takes too long or the system refuses to start it or to read from it.  An attempt that fails
to install a tool says so without being blank, and in a single line exactly if the path of
the tool holds no boundary of lines. -/
theorem installations_coherent (host : Host) (before : World) :
    (∀ (installer : Installer) (tool : Path) (directory : Option Path),
      ∃ behaviour outcome after, (installer.run tool directory).Leads host before outcome after ∧
        (host.program before.calls.length (installer.start tool directory) before.tree).settle
          before.tree = (after.tree, behaviour) ∧
        (∀ result, outcome = .ok result → installer.Coherent behaviour result) ∧
        (installer.timesOut behaviour = true ∨ (installer.error? behaviour).isSome = true →
          ∃ result, outcome = .ok result ∧ installer.finishes behaviour = false)) ∧
    ∀ (provisioner : Provisioner) (spec : Spec) (workspace : Workspace) (tool : String),
      ∃ outcome after, (provisioner.installOne spec workspace tool).Leads host before outcome
          after ∧
        ∀ failure cleanup, outcome = .error (.failed failure cleanup) →
          (∃ behaviour result, provisioner.installer.Coherent behaviour result ∧
            result.success = false ∧ failure = .install tool result.failureReason ∧
            Text.IsLine result.failureReason.toList) ∧
          (∃ c ∈ failure.message.toList, Text.isBlank c = false) ∧
          (Text.lines failure.message.toList = [failure.message.toList] ↔
            ∀ c ∈ tool.toList, Text.isLineBreak c = false) := by
  constructor
  · intro installer tool directory
    obtain ⟨outcome, after, ran⟩ := (installer.run tool directory).exists_leads host before
    obtain ⟨behaviour, duration, called, rfl⟩ := Installer.run_leads ran
    exact ⟨behaviour, _, after, ran, called.settled,
      fun result => Installer.coherent_of_conclusion, Installer.conclusion_of_trouble duration⟩
  · intro provisioner spec workspace tool
    obtain ⟨outcome, after, ran⟩ :=
      (provisioner.installOne spec workspace tool).exists_leads host before
    refine ⟨outcome, after, ran, ?_⟩
    rintro failure cleanup rfl
    obtain ⟨behaviour, result, coherent, failed, rfl⟩ := Provisioner.failure_of_installOne ran
    have line := result.isLine_failureReason
    exact ⟨⟨behaviour, result, coherent, failed, rfl, line⟩, Failure.lines_message line⟩

/-- A specification with a tool whose path holds a line feed. -/
def Spec.broken : Spec := { Spec.sample with tools := ["a\nb"] }

/-- A host on which every program fails. -/
def Host.failing : Host where
  program := fun _ _ _ => .runs { code := some 1 }

/-- That specification is accepted, and what is said of its tool if that cannot be installed
are two lines. -/
theorem installOne_broken : Spec.ofFields Spec.broken.fields = .ok Spec.broken ∧
    ∃ failure after, (Provisioner.sample.installOne Spec.broken { path := Spec.broken.clonePath }
        "a\nb").Leads .failing {} (.error (.failed failure none)) after ∧
      Text.lines failure.message.toList ≠ [failure.message.toList] := by
  refine ⟨rfl, ?_⟩
  obtain ⟨outcome, after, ran⟩ := (Provisioner.sample.installOne Spec.broken
    { path := Spec.broken.clonePath } "a\nb").exists_leads .failing {}
  have went := ran
  rw [Provisioner.installOne] at ran
  obtain ⟨_, begun, told, ran⟩ | ⟨_, told, _⟩ := Act.leads_bind.1 ran
  · obtain ⟨result, installed, install, ran⟩ | ⟨_, install, _⟩ := Act.leads_bind.1 ran
    · obtain ⟨behaviour, duration, called, concluded⟩ := Installer.run_leads install
      have fails : .runs { code := some 1 } = behaviour := congrArg Prod.snd called.settled
      subst fails
      cases concluded
      obtain ⟨rfl, _⟩ := Act.leads_throw.1 ran
      refine ⟨_, after, went, ?_⟩
      rw [ne_eq, (Failure.lines_message (InstallResult.isLine_failureReason _)).2]
      intro unbroken
      cases unbroken '\n' (by decide)
    · obtain ⟨behaviour, duration, called, concluded⟩ := Installer.run_leads install
      have fails : .runs { code := some 1 } = behaviour := congrArg Prod.snd called.settled
      subst fails
      cases concluded
  · cases (Provisioner.tell_of_quiet Sink.isQuiet_silent told).1

end Toolset
