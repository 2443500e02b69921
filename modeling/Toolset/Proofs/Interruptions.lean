import Toolset.Proofs.Waits

/-!
# Waits that are called off

Work can be called off while a program is started, or while its end is awaited.  For git
that is felt in the output, for the installer in either stream; what else breaks into the
reading, and the limit, decide whether it is felt at all.  A process whose wait is called
off is killed, unless a second interruption comes under a limit.  The conditions are
written out here.
-/

namespace Toolset

/-- The interruption calls the work off. -/
def Interruption.isCancelled : Interruption → Bool
  | .cancelled _ => true
  | .timedOut | .failed _ => false

/-- The process of a start runs. -/
def Behaviour.isRunning : Behaviour → Bool
  | .runs _ => true
  | .refused _ | .nullCharacter => false

/-! ## Git -/

namespace Git

/-- A wait that is called off. -/
def Wait.isCalledOff : Wait → Bool
  | .cancelled _ => true
  | .done | .timedOut | .failed _ | .tooLarge => false

/-- What breaks into the output calls the work off. Silence lasts until that happens, unless
there is a limit. -/
def callsOff (limit : Option Seconds) : Option Mishap → Bool
  | some (.breaks interruption) => interruption.isCancelled
  | some .silence => limit.isNone
  | none => false

/-- Work is called off while git is started or awaited. A limit that is over or too large is
felt before. -/
def calledOff (git : Git) : Behaviour → Bool
  | .refused interruption => interruption.isCancelled
  | .runs process =>
      !git.limit.any Seconds.isOver && !git.limit.any Seconds.isTooLarge &&
        callsOff git.limit (process.output.bind Stream.mishap)
  | .nullCharacter => false

theorem isCalledOff_wait (limit : Option Seconds) (mishap : Option Mishap) :
    (wait limit mishap).isCalledOff = (!limit.any Seconds.isOver &&
      !limit.any Seconds.isTooLarge && callsOff limit mishap) := by
  rw [wait.eq_def]
  cases limit.any Seconds.isOver with
  | true => rfl
  | false =>
      cases limit.any Seconds.isTooLarge with
      | true => rfl
      | false =>
          simp only [Bool.false_eq_true, ↓reduceIte]
          cases mishap with
          | none => rfl
          | some mishap =>
              cases mishap with
              | silence => cases limit <;> rfl
              | breaks interruption =>
                  cases interruption with
                  | failed error =>
                      dsimp only
                      cases error.isTimeout <;> rfl
                  | timedOut => rfl
                  | cancelled how => rfl

variable {git : Git} {behaviour : Behaviour}

/-- A cancellation escapes from a call exactly under that condition. -/
theorem calledOff_eq (git : Git) (behaviour : Behaviour) :
    git.calledOff behaviour = (git.escape? behaviour).any Ending.isCancellation := by
  cases behaviour with
  | refused interruption => cases interruption <;> rfl
  | nullCharacter => rfl
  | runs process =>
      rw [calledOff, ← isCalledOff_wait, ← verdict, escape?]
      cases git.verdict process <;> rfl

theorem course_of_calledOff (off : git.calledOff behaviour = true) :
    git.course behaviour = if behaviour.isRunning then .killed else .refused := by
  cases behaviour with
  | refused interruption => rfl
  | nullCharacter => rfl
  | runs process =>
      rw [calledOff, ← isCalledOff_wait, ← verdict] at off
      rw [course]
      cases verdict : git.verdict process <;> simp_all [Wait.isCalledOff, Behaviour.isRunning]

end Git

/-! ## The installer -/

namespace Installer

/-- A wait that is called off, be there time to kill or not. -/
def Wait.isCalledOff : Wait → Bool
  | .cancelled _ | .abandoned => true
  | .done | .timedOut | .failed _ | .overlong _ | .tooLarge => false

namespace Break

/-- The break calls the work off from within. -/
def isCancelled : Break → Bool
  | .interrupted interruption => interruption.isCancelled
  | .overlong _ | .silence => false

/-- The break is taken for a timeout, or lasts until there is one. -/
def isTimeout : Break → Bool
  | .interrupted interruption => interruption.isTimeout
  | .silence => true
  | .overlong _ => false

theorem isUnhandled_of_isCancelled {failure : Break} (cancelled : failure.isCancelled = true) :
    failure.isUnhandled = false := by
  cases failure with
  | overlong ended => cases cancelled
  | silence => rfl
  | interrupted interruption =>
      cases interruption with
      | timedOut => rfl
      | failed error => cases cancelled
      | cancelled how => rfl

theorem isUnhandled_of_isTimeout {failure : Break} (timedOut : failure.isTimeout = true) :
    failure.isUnhandled = false := by
  cases failure with
  | overlong ended => cases timedOut
  | silence => rfl
  | interrupted interruption =>
      cases interruption with
      | timedOut => rfl
      | failed error =>
          change error.isTimeout = true at timedOut
          simp [isUnhandled, Interruption.isUnhandled, timedOut]
      | cancelled how => rfl

end Break

theorem isCalledOff_waitOfError (failure : Break) :
    (waitOfError failure).isCalledOff = failure.isCancelled := by
  cases failure with
  | overlong ended => rfl
  | silence => rfl
  | interrupted interruption =>
      cases interruption with
      | failed error =>
          rw [waitOfError]
          cases error.isTimeout <;> rfl
      | timedOut => rfl
      | cancelled how => rfl

theorem waitOfError_ne_abandoned (failure : Break) : waitOfError failure ≠ .abandoned := by
  cases failure with
  | overlong ended => simp [waitOfError]
  | silence => simp [waitOfError]
  | interrupted interruption =>
      cases interruption with
      | failed error =>
          rw [waitOfError]
          split <;> simp
      | timedOut => simp [waitOfError]
      | cancelled how => simp [waitOfError]

namespace Breaks

/-- The reading is called off. Without a limit an interruption of the output comes before
any failure, and what else asks to stop is felt if there is none, or, if it asks to
terminate, after a timeout. Under a limit every interruption is felt, and a termination if
nothing failed or if the limit is over at once. -/
def callsOff (breaks : Breaks) : Option Seconds → Bool
  | none => breaks.output.any (·.asks .interrupt) ||
      match breaks.error? with
      | some failure => failure.isCancelled || (failure.isTimeout && breaks.asks .terminate)
      | none => breaks.asks .terminate || breaks.asks .interrupt || breaks.isSilent
  | some limit => breaks.asks .interrupt ||
      if limit.isMomentary then breaks.asks .terminate
      else
        match breaks.error? with
        | some failure => failure.isCancelled
        | none => breaks.asks .terminate

theorem isCalledOff_waitForever (breaks : Breaks) :
    breaks.waitForever.isCalledOff = breaks.callsOff none := by
  rw [waitForever, callsOff]
  cases breaks.output.any (·.asks .interrupt) with
  | true => rfl
  | false =>
      rw [if_neg (by simp), Bool.false_or]
      cases breaks.error? with
      | none =>
          dsimp only [Option.map_none]
          cases breaks.asks .terminate with
          | true => rfl
          | false =>
              cases breaks.asks .interrupt with
              | true => rfl
              | false => cases breaks.isSilent <;> rfl
      | some failure =>
          dsimp only [Option.map_some]
          cases failure with
          | overlong ended => rfl
          | silence => cases breaks.asks .terminate <;> rfl
          | interrupted interruption =>
              cases interruption with
              | timedOut => cases breaks.asks .terminate <;> rfl
              | cancelled how => rfl
              | failed error =>
                  simp only [waitOfError, Break.isCancelled, Break.isTimeout,
                    Interruption.isCancelled, Interruption.isTimeout]
                  cases error.isTimeout with
                  | false => rfl
                  | true => cases breaks.asks .terminate <;> rfl

theorem isCalledOff_waitInterrupted? {breaks : Breaks} (asked : breaks.asks .interrupt = true) :
    ∃ wait, breaks.waitInterrupted? = some wait ∧ wait.isCalledOff = true := by
  rw [waitInterrupted?, asked, if_neg (by simp)]
  split
  · exact ⟨_, rfl, rfl⟩
  split
  · exact ⟨_, rfl, rfl⟩
  · exact ⟨_, rfl, rfl⟩

theorem isCalledOff_waitUnderLimit (breaks : Breaks) :
    breaks.waitUnderLimit.isCalledOff = (breaks.asks .interrupt ||
      match breaks.error? with
      | some failure => failure.isCancelled
      | none => breaks.asks .terminate) := by
  rw [waitUnderLimit]
  cases asked : breaks.asks .interrupt with
  | true =>
      rcases isCalledOff_waitInterrupted? asked with ⟨wait, equal, off⟩
      rw [equal, Bool.true_or]
      exact off
  | false =>
      rw [waitInterrupted?_of_not_asks asked, Bool.false_or]
      cases breaks.error? with
      | some failure => exact isCalledOff_waitOfError failure
      | none =>
          dsimp only
          cases breaks.asks .terminate with
          | true => rfl
          | false => cases breaks.isSilent <;> rfl

theorem isCalledOff_waitAtOnce (breaks : Breaks) :
    breaks.waitAtOnce.isCalledOff = (breaks.asks .interrupt || breaks.asks .terminate) := by
  rw [waitAtOnce]
  cases asked : breaks.asks .interrupt with
  | true =>
      rcases isCalledOff_waitInterrupted? asked with ⟨wait, equal, off⟩
      rw [equal, Bool.true_or]
      exact off
  | false =>
      rw [waitInterrupted?_of_not_asks asked, Bool.false_or]
      dsimp only
      cases breaks.asks .terminate with
      | true => rfl
      | false =>
          cases breaks.isSilent with
          | false => rfl
          | true =>
              rw [if_neg (by simp), if_neg (by simp)]
              cases breaks.error? with
              | none => rfl
              | some failure =>
                  -- a cancellation from within is taken for the end of the limit
                  rw [Option.map_some]
                  have inTime := waitOfError_ne_abandoned failure
                  cases waits : waitOfError failure with
                  | abandoned => exact absurd waits inTime
                  | _ => rfl

theorem isCalledOff_wait (limit : Option Seconds) (breaks : Breaks) :
    (wait limit breaks).isCalledOff = breaks.callsOff limit := by
  cases limit with
  | none => exact isCalledOff_waitForever breaks
  | some limit =>
      rw [wait, callsOff]
      cases limit.isMomentary with
      | true =>
          rw [if_pos rfl, if_pos rfl]
          exact isCalledOff_waitAtOnce breaks
      | false =>
          rw [if_neg (by simp), if_neg (by simp)]
          exact isCalledOff_waitUnderLimit breaks

/-- A reading that is called off leaves its process alone only if it is interrupted twice
under a limit. -/
theorem leaves_of_callsOff {breaks : Breaks} {limit : Option Seconds}
    (off : breaks.callsOff limit = true) :
    breaks.leaves limit = (limit.isSome && breaks.asksTwice) := by
  cases limit with
  | none =>
      rw [callsOff] at off
      rw [leaves, Option.isSome_none, Bool.false_and, isUnhandled]
      cases asked : breaks.output.any (·.asks .interrupt) with
      | true => rfl
      | false =>
          cases failed : breaks.error? with
          | none => rfl
          | some failure =>
              rw [asked, failed, Bool.false_or, Bool.or_eq_true, Bool.and_eq_true] at off
              rw [Option.any_some, Bool.not_false, Bool.true_and]
              rcases off with cancelled | ⟨timedOut, _⟩
              · exact Break.isUnhandled_of_isCancelled cancelled
              · exact Break.isUnhandled_of_isTimeout timedOut
  | some limit =>
      rw [callsOff] at off
      rw [leaves, Option.isSome_some, Bool.true_and, isUnhandled]
      cases asked : breaks.asks .interrupt with
      | true => simp
      | false =>
          rw [asked, Bool.false_or] at off
          cases momentary : limit.isMomentary with
          | true =>
              rw [momentary, if_pos rfl] at off
              simp [off]
          | false =>
              rw [momentary, if_neg (by simp)] at off
              cases failed : breaks.error? with
              | none => simp
              | some failure =>
                  rw [failed] at off
                  simp [Break.isUnhandled_of_isCancelled off]

end Breaks

/-- Work is called off while the installer is started or awaited. A limit that is over or too
large is felt before. -/
def calledOff (installer : Installer) : Behaviour → Bool
  | .refused interruption => interruption.isCancelled
  | .runs process =>
      !installer.limit.any Seconds.isOver && !installer.limit.any Seconds.isTooLarge &&
        Breaks.callsOff ⟨(read process.output).ended, (read process.errors).ended⟩ installer.limit
  | .nullCharacter => false

/-- A process is interrupted twice under a limit. -/
def interruptedTwice (installer : Installer) : Behaviour → Bool
  | .runs process => installer.limit.isSome &&
      Breaks.asksTwice ⟨(read process.output).ended, (read process.errors).ended⟩
  | .refused _ | .nullCharacter => false

variable {installer : Installer} {behaviour : Behaviour}

theorem isCalledOff_verdict (installer : Installer) (process : Process) :
    (installer.verdict process).isCalledOff = installer.calledOff (.runs process) := by
  rw [verdict, calledOff]
  cases installer.limit.any Seconds.isOver with
  | true => rfl
  | false =>
      cases installer.limit.any Seconds.isTooLarge with
      | true => rfl
      | false => exact Breaks.isCalledOff_wait _ _

theorem calledOff_eq (installer : Installer) (behaviour : Behaviour) :
    installer.calledOff behaviour = (installer.escape? behaviour).any Ending.isCancellation := by
  cases behaviour with
  | refused interruption => cases interruption <;> rfl
  | nullCharacter => rfl
  | runs process =>
      rw [← isCalledOff_verdict, escape?]
      cases installer.verdict process <;> rfl

/-- The process of an installation that is called off is killed, unless it is interrupted
twice under a limit. -/
theorem course_of_calledOff (off : installer.calledOff behaviour = true) :
    installer.course behaviour =
      if behaviour.isRunning then
        if installer.interruptedTwice behaviour then .left else .killed
      else .refused := by
  cases behaviour with
  | refused interruption => rfl
  | nullCharacter => rfl
  | runs process =>
      have leaves_eq : installer.leaves (.runs process) =
          installer.interruptedTwice (.runs process) := by
        rw [calledOff, Bool.and_eq_true, Bool.and_eq_true] at off
        rcases off with ⟨⟨notOver, notTooLarge⟩, reading⟩
        rw [Bool.not_eq_true'] at notTooLarge
        rw [leaves, notOver, notTooLarge, Bool.true_and, Bool.false_or,
          Breaks.leaves_of_callsOff reading, interruptedTwice]
      have left_iff : installer.course (.runs process) = .left ↔
          installer.leaves (.runs process) = true := course_eq_left_iff
      rw [leaves_eq] at left_iff
      rw [← isCalledOff_verdict] at off
      change _ = if installer.interruptedTwice (.runs process) = true then Course.left else .killed
      split
      · rename_i twice
        exact left_iff.2 twice
      · rename_i once
        rw [course] at left_iff ⊢
        cases verdict : installer.verdict process <;> simp_all [Wait.isCalledOff]

end Installer

end Toolset
