import Toolset.Proofs.Calls

/-!
# Waits that leave a process alone

A wait for a process may end without a kill and without the end of the process.  For
git that is so if its output cannot be read, for the installer also if a line is too long
or a second interruption comes, and for both if their limit is too large for the clock.
Which of these is felt depends on the limit and on what breaks into the reading of the
streams; the conditions are written out here.
-/

namespace Toolset

/-- An error of the system that is not taken for a timeout. -/
def Interruption.isUnhandled : Interruption → Bool
  | .failed error => !error.isTimeout
  | .timedOut | .cancelled _ => false

/-! ## Git -/

namespace Git

/-- A wait that leaves its process alone. -/
def Wait.leaves : Wait → Bool
  | .failed _ | .tooLarge => true
  | .done | .timedOut | .cancelled _ => false

/-- The reading of the output ends in an error that nothing takes care of. -/
def isUnreadable : Option Mishap → Bool
  | some (.breaks interruption) => interruption.isUnhandled
  | some .silence | none => false

/-- A process of git is left alone: its limit is not over, and either it is too large for
the clock or the output cannot be read. -/
def leaves (git : Git) : Behaviour → Bool
  | .runs process =>
      !git.limit.any Seconds.isOver &&
        (git.limit.any Seconds.isTooLarge ||
          isUnreadable (process.output.bind Stream.mishap))
  | .refused _ | .nullCharacter => false

example : leaves {} (.runs
    { output := some ⟨[], some (.breaks (.failed (.plain "Input/output error")))⟩ }) = true := by
  decide

theorem leaves_wait (limit : Option Seconds) (mishap : Option Mishap) :
    (wait limit mishap).leaves = (!limit.any Seconds.isOver &&
      (limit.any Seconds.isTooLarge || isUnreadable mishap)) := by
  rw [wait.eq_def]
  cases limit.any Seconds.isOver with
  | true => rfl
  | false =>
      cases limit.any Seconds.isTooLarge with
      | true => rfl
      | false =>
          simp only [Bool.false_eq_true, ↓reduceIte]
          cases mishap with
          | none => rfl
          | some mishap =>
              cases mishap with
              | silence => cases limit <;> rfl
              | breaks interruption =>
                  cases interruption with
                  | failed error =>
                      simp only [isUnreadable, Interruption.isUnhandled]
                      cases error.isTimeout <;> rfl
                  | timedOut => rfl
                  | cancelled how => rfl

/-- The course of a call leaves its process alone exactly under that condition. -/
theorem course_eq_left_iff {git : Git} {behaviour : Behaviour} :
    git.course behaviour = .left ↔ git.leaves behaviour = true := by
  cases behaviour with
  | refused interruption => simp [course, leaves]
  | nullCharacter => simp [course, leaves]
  | runs process =>
      rw [leaves, ← leaves_wait, ← verdict, course]
      cases git.verdict process <;> simp [Wait.leaves]

end Git

/-! ## The installer -/

namespace Installer

/-- A wait that leaves its process alone. -/
def Wait.leaves : Wait → Bool
  | .failed _ | .overlong _ | .tooLarge | .abandoned => true
  | .done | .timedOut | .cancelled _ => false

/-- A break that nothing takes care of: a line that is too long, or an error of the system
that is not taken for a timeout. -/
def Break.isUnhandled : Break → Bool
  | .overlong _ => true
  | .interrupted interruption => interruption.isUnhandled
  | .silence => false

theorem leaves_waitOfError (failure : Break) :
    (waitOfError failure).leaves = failure.isUnhandled := by
  cases failure with
  | overlong ended => rfl
  | silence => rfl
  | interrupted interruption =>
      cases interruption with
      | failed error =>
          simp only [waitOfError, Break.isUnhandled, Interruption.isUnhandled]
          cases error.isTimeout <;> rfl
      | timedOut => rfl
      | cancelled how => rfl

namespace Breaks

/-- The failure that counts is one that nothing takes care of. -/
def isUnhandled (breaks : Breaks) : Bool := breaks.error?.any Break.isUnhandled

/-- Both streams ask to be interrupted. -/
def asksTwice (breaks : Breaks) : Bool :=
  breaks.output.any (·.asks .interrupt) && breaks.errors.any (·.asks .interrupt)

/-- The reading leaves the process alone. Without a limit an interruption of the output
comes before any failure. Under a limit every interruption does, and a second one leaves
no time to kill; one that is over at once feels a failure only while a stream stays
open. -/
def leaves (breaks : Breaks) : Option Seconds → Bool
  | none => !breaks.output.any (·.asks .interrupt) && breaks.isUnhandled
  | some limit =>
      breaks.asksTwice ||
        (!breaks.asks .interrupt && breaks.isUnhandled &&
          (!limit.isMomentary || (!breaks.asks .terminate && breaks.isSilent)))

theorem leaves_waitForever (breaks : Breaks) :
    breaks.waitForever.leaves = breaks.leaves none := by
  rw [waitForever, leaves]
  cases breaks.output.any (·.asks .interrupt) with
  | true => rfl
  | false =>
      rw [isUnhandled, if_neg (by simp)]
      cases breaks.error? with
      | none =>
          dsimp only [Option.map_none]
          split
          · rfl
          split
          · rfl
          split <;> rfl
      | some failure =>
          rw [Option.any_some, ← leaves_waitOfError, Option.map_some]
          cases waitOfError failure with
          | timedOut =>
              dsimp only
              split <;> rfl
          | _ => rfl

theorem waitInterrupted?_of_not_asks {breaks : Breaks} (calm : breaks.asks .interrupt = false) :
    breaks.waitInterrupted? = none := by
  rw [waitInterrupted?, calm]
  rfl

theorem asksTwice_of_not_asks {breaks : Breaks} (calm : breaks.asks .interrupt = false) :
    breaks.asksTwice = false := by
  rw [asks, any, Bool.or_eq_false_iff] at calm
  rw [asksTwice, calm.1]
  rfl

theorem not_asks_terminate {stop : Break} (interrupts : stop.asks .interrupt = true) :
    stop.asks .terminate = false := by
  cases stop with
  | overlong ended => rfl
  | silence => rfl
  | interrupted interruption =>
      cases interruption with
      | timedOut => rfl
      | failed error => rfl
      | cancelled how =>
          cases how with
          | request => rfl
          | terminate => cases interrupts
          | interrupt => rfl

theorem not_asks_terminate_of_asksTwice {breaks : Breaks} (twice : breaks.asksTwice = true) :
    breaks.asks .terminate = false := by
  rw [asksTwice, Bool.and_eq_true, Option.any_eq_true, Option.any_eq_true] at twice
  rcases twice with ⟨⟨first, output, interrupts⟩, ⟨second, errors, interruptsToo⟩⟩
  rw [asks, any, output, errors, Option.any_some, Option.any_some,
    not_asks_terminate interrupts, not_asks_terminate interruptsToo]
  rfl

/-- An interruption leaves the process alone only if there are two. -/
theorem leaves_waitInterrupted? {breaks : Breaks} (asked : breaks.asks .interrupt = true) :
    ∃ wait, breaks.waitInterrupted? = some wait ∧ wait.leaves = breaks.asksTwice := by
  rw [waitInterrupted?, asked, if_neg (by simp)]
  cases twice : breaks.asksTwice with
  | true =>
      rw [not_asks_terminate_of_asksTwice twice, if_neg (by simp)]
      rw [asksTwice] at twice
      rw [twice, if_pos rfl]
      exact ⟨.abandoned, rfl, rfl⟩
  | false =>
      rw [asksTwice] at twice
      rw [twice]
      cases breaks.asks .terminate with
      | true => exact ⟨.cancelled .terminate, rfl, rfl⟩
      | false => exact ⟨.cancelled .interrupt, rfl, rfl⟩

theorem leaves_waitUnderLimit (breaks : Breaks) :
    breaks.waitUnderLimit.leaves =
      (breaks.asksTwice || (!breaks.asks .interrupt && breaks.isUnhandled)) := by
  rw [waitUnderLimit]
  cases asked : breaks.asks .interrupt with
  | true =>
      rcases leaves_waitInterrupted? asked with ⟨wait, equal, leaves⟩
      rw [equal, ← leaves]
      simp
  | false =>
      rw [waitInterrupted?_of_not_asks asked, asksTwice_of_not_asks asked, isUnhandled]
      cases breaks.error? with
      | some failure => exact leaves_waitOfError failure
      | none =>
          dsimp only
          split
          · rfl
          split <;> rfl

theorem leaves_waitAtOnce (breaks : Breaks) :
    breaks.waitAtOnce.leaves = (breaks.asksTwice || (!breaks.asks .interrupt &&
      breaks.isUnhandled && (!breaks.asks .terminate && breaks.isSilent))) := by
  rw [waitAtOnce]
  cases asked : breaks.asks .interrupt with
  | true =>
      rcases leaves_waitInterrupted? asked with ⟨wait, equal, leaves⟩
      rw [equal, ← leaves]
      simp
  | false =>
      rw [waitInterrupted?_of_not_asks asked, asksTwice_of_not_asks asked, isUnhandled]
      dsimp only
      cases breaks.asks .terminate with
      | true => simp [Wait.leaves]
      | false =>
          cases breaks.isSilent with
          | false => simp [Wait.leaves]
          | true =>
              rw [if_neg (by simp), if_neg (by simp)]
              cases breaks.error? with
              | none => rfl
              | some failure =>
                  rw [Option.any_some, ← leaves_waitOfError, Option.map_some]
                  cases waitOfError failure <;> rfl

theorem leaves_wait (limit : Option Seconds) (breaks : Breaks) :
    (wait limit breaks).leaves = breaks.leaves limit := by
  cases limit with
  | none => exact leaves_waitForever breaks
  | some limit =>
      rw [wait, leaves]
      cases limit.isMomentary with
      | true =>
          rw [if_pos rfl, leaves_waitAtOnce]
          simp
      | false =>
          rw [if_neg (by simp), leaves_waitUnderLimit]
          simp

end Breaks

/-- A process of the installer is left alone: its limit is not over, and either it is too
large for the clock or the reading of the streams leaves the process. -/
def leaves (installer : Installer) : Behaviour → Bool
  | .runs process =>
      !installer.limit.any Seconds.isOver &&
        (installer.limit.any Seconds.isTooLarge ||
          Breaks.leaves ⟨(read process.output).ended, (read process.errors).ended⟩
            installer.limit)
  | .refused _ | .nullCharacter => false

theorem course_eq_left_iff {installer : Installer} {behaviour : Behaviour} :
    installer.course behaviour = .left ↔ installer.leaves behaviour = true := by
  cases behaviour with
  | refused interruption => simp [course, leaves]
  | nullCharacter => simp [course, leaves]
  | runs process =>
      have left_iff : installer.course (.runs process) = .left ↔
          (installer.verdict process).leaves = true := by
        rw [course]
        cases installer.verdict process <;> simp [Wait.leaves]
      rw [left_iff, verdict, leaves]
      cases installer.limit.any Seconds.isOver with
      | true => simp [Wait.leaves]
      | false =>
          cases installer.limit.any Seconds.isTooLarge with
          | true => simp [Wait.leaves]
          | false => simp [Breaks.leaves_wait]

end Installer

end Toolset
