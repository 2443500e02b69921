import Toolset.Proofs.Interruptions

/-!
# Waits that end in time, and waits that do not

The wait for a process may also take too long, or, for the installer, end by an error of
the system that makes a result.  Only if nothing breaks into the reading, and the limit
leaves time for it, the process is awaited to its end.  These conditions too are written
out.
-/

namespace Toolset

/-- A limit that leaves time to read what is written. -/
def Seconds.leavesTime (limit : Seconds) : Bool :=
  !limit.isOver && !limit.isTooLarge && !limit.isMomentary

/-- The error of the system that breaks into a wait, if it is not taken for a timeout. -/
def Interruption.error? : Interruption → Option SystemError
  | .failed error => if error.isTimeout then none else some error
  | .timedOut | .cancelled _ => none

/-! ## Git -/

namespace Git

/-- A wait that takes too long. -/
def Wait.isTimedOut : Wait → Bool
  | .timedOut => true
  | .done | .failed _ | .tooLarge | .cancelled _ => false

/-- The output takes too long: by an error that says so, or because it stays open under a
limit. -/
def isLate (limit : Option Seconds) : Option Mishap → Bool
  | some (.breaks interruption) => interruption.isTimeout
  | some .silence => limit.isSome
  | none => false

/-- The process of a call takes too long: its limit is over at once, or its output takes too
long and the limit is none that is too large for the clock. -/
def timesOut (git : Git) : Behaviour → Bool
  | .runs process => git.limit.any Seconds.isOver ||
      (!git.limit.any Seconds.isTooLarge && isLate git.limit (process.output.bind Stream.mishap))
  | .refused _ | .nullCharacter => false

theorem isTimedOut_wait (limit : Option Seconds) (mishap : Option Mishap) :
    (wait limit mishap).isTimedOut = (limit.any Seconds.isOver ||
      (!limit.any Seconds.isTooLarge && isLate limit mishap)) := by
  rw [wait.eq_def]
  cases limit.any Seconds.isOver with
  | true => rfl
  | false =>
      cases limit.any Seconds.isTooLarge with
      | true => rfl
      | false =>
          simp only [Bool.false_eq_true, ↓reduceIte]
          cases mishap with
          | none => rfl
          | some mishap =>
              cases mishap with
              | silence => cases limit <;> rfl
              | breaks interruption =>
                  cases interruption with
                  | failed error =>
                      simp only [isLate, Interruption.isTimeout]
                      cases error.isTimeout <;> rfl
                  | timedOut => rfl
                  | cancelled how => rfl

theorem isTimedOut_verdict (git : Git) (process : Process) :
    (git.verdict process).isTimedOut = git.timesOut (.runs process) :=
  isTimedOut_wait _ _

end Git

/-! ## The installer -/

namespace Installer

/-- A wait that takes too long. -/
def Wait.isTimedOut : Wait → Bool
  | .timedOut => true
  | .done | .failed _ | .overlong _ | .tooLarge | .cancelled _ | .abandoned => false

/-- A wait that lasts until the process ends. -/
def Wait.isDone : Wait → Bool
  | .done => true
  | .timedOut | .failed _ | .overlong _ | .tooLarge | .cancelled _ | .abandoned => false

/-- The error of the system that a wait ends by. -/
def Wait.error? : Wait → Option SystemError
  | .failed error => some error
  | .done | .timedOut | .overlong _ | .tooLarge | .cancelled _ | .abandoned => none

/-- The error of the system in a break. -/
def Break.error? : Break → Option SystemError
  | .interrupted interruption => interruption.error?
  | .overlong _ | .silence => none

namespace Break

theorem isTimeout_of_isCancelled {failure : Break} (cancelled : failure.isCancelled = true) :
    failure.isTimeout = false := by
  cases failure with
  | overlong ended => rfl
  | silence => cases cancelled
  | interrupted interruption => cases interruption <;> first | rfl | cases cancelled

/-- Nothing takes care of a break that neither calls the work off nor is a timeout. -/
theorem isUnhandled_eq (failure : Break) :
    failure.isUnhandled = (!failure.isCancelled && !failure.isTimeout) := by
  cases failure with
  | overlong ended => rfl
  | silence => rfl
  | interrupted interruption => cases interruption <;> rfl

theorem error?_of_isCancelled {failure : Break} (cancelled : failure.isCancelled = true) :
    failure.error? = none := by
  cases failure with
  | overlong ended => rfl
  | silence => rfl
  | interrupted interruption => cases interruption <;> first | rfl | cases cancelled

theorem error?_of_isTimeout {failure : Break} (timedOut : failure.isTimeout = true) :
    failure.error? = none := by
  cases failure with
  | overlong ended => rfl
  | silence => rfl
  | interrupted interruption =>
      cases interruption with
      | failed error => exact if_pos timedOut
      | _ => rfl

end Break

/-- A wait that is called off neither lasts until the process ends nor takes too long, and no
error of the system ends it. -/
theorem Wait.of_isCalledOff {wait : Wait} (off : wait.isCalledOff = true) :
    wait.isDone = false ∧ wait.isTimedOut = false ∧ wait.error? = none := by
  cases wait with
  | cancelled how => exact ⟨rfl, rfl, rfl⟩
  | abandoned => exact ⟨rfl, rfl, rfl⟩
  | _ => cases off

theorem isTimedOut_waitOfError (failure : Break) :
    (waitOfError failure).isTimedOut = failure.isTimeout := by
  cases failure with
  | overlong ended => rfl
  | silence => rfl
  | interrupted interruption =>
      cases interruption with
      | failed error =>
          simp only [waitOfError, Break.isTimeout, Interruption.isTimeout]
          cases error.isTimeout <;> rfl
      | timedOut => rfl
      | cancelled how => rfl

theorem error?_waitOfError (failure : Break) :
    (waitOfError failure).error? = failure.error? := by
  cases failure with
  | overlong ended => rfl
  | silence => rfl
  | interrupted interruption =>
      cases interruption with
      | failed error =>
          simp only [waitOfError, Break.error?, Interruption.error?]
          cases error.isTimeout <;> rfl
      | timedOut => rfl
      | cancelled how => rfl

theorem isDone_waitOfError (failure : Break) : (waitOfError failure).isDone = false := by
  cases failure with
  | overlong ended => rfl
  | silence => rfl
  | interrupted interruption =>
      cases interruption with
      | failed error =>
          rw [waitOfError]
          cases error.isTimeout <;> rfl
      | timedOut => rfl
      | cancelled how => rfl

theorem waitOfError_cases (failure : Break) :
    (failure.isCancelled = true ∧ ∃ how, waitOfError failure = .cancelled how) ∨
      failure.isCancelled = false ∧
        (failure.isTimeout = true ∧ waitOfError failure = .timedOut ∨
          (∃ error, waitOfError failure = .failed error) ∨
          ∃ ended, waitOfError failure = .overlong ended) := by
  cases failure with
  | overlong ended => exact .inr ⟨rfl, .inr (.inr ⟨ended, rfl⟩)⟩
  | silence => exact .inr ⟨rfl, .inl ⟨rfl, rfl⟩⟩
  | interrupted interruption =>
      cases interruption with
      | timedOut => exact .inr ⟨rfl, .inl ⟨rfl, rfl⟩⟩
      | cancelled how => exact .inl ⟨rfl, how, rfl⟩
      | failed error =>
          rw [waitOfError]
          cases late : error.isTimeout with
          | true => exact .inr ⟨rfl, .inl ⟨late, rfl⟩⟩
          | false => exact .inr ⟨rfl, .inr (.inl ⟨error, rfl⟩)⟩

namespace Breaks

/-- The failure that is felt. Without a limit an interruption of the output comes before it,
and under a limit every interruption does; a limit that is over at once leaves time for it
only while a stream stays open and nothing asks to terminate. -/
def felt? (breaks : Breaks) : Option Seconds → Option Break
  | none => if breaks.output.any (·.asks .interrupt) then none else breaks.error?
  | some limit =>
      if breaks.asks .interrupt ||
          (limit.isMomentary && (breaks.asks .terminate || !breaks.isSilent)) then none
      else breaks.error?

/-- The reading takes too long. Without a limit that is so if the failure that is felt says
so, and nothing asks to terminate. Under a limit an interruption comes before; if no failure
is felt, a stream stays open and nothing asks to terminate.  A limit that is over at once
ends all but an error or a line that nothing takes care of. -/
def timesOut (breaks : Breaks) : Option Seconds → Bool
  | none => (breaks.felt? none).any Break.isTimeout && !breaks.asks .terminate
  | some limit => !breaks.asks .interrupt &&
      if limit.isMomentary then
        !breaks.asks .terminate && !(breaks.isSilent && breaks.isUnhandled)
      else
        match breaks.error? with
        | some failure => failure.isTimeout
        | none => !breaks.asks .terminate && breaks.isSilent

/-- Nothing breaks into the reading. -/
def isCalm (breaks : Breaks) : Bool := breaks.output.isNone && breaks.errors.isNone

/-- Each break is a failure, asks to stop, or keeps a stream open. -/
theorem isError_or (stop : Break) :
    stop.isError || stop.asks .interrupt || stop.asks .terminate || stop == .silence := by
  cases stop with
  | overlong ended => rfl
  | silence => rfl
  | interrupted interruption =>
      cases interruption with
      | timedOut => rfl
      | failed error => rfl
      | cancelled how => cases how <;> rfl

/-- Where no failure is felt, nothing asks to stop and no stream stays open, nothing breaks
into the reading. -/
theorem isCalm_eq (breaks : Breaks) :
    breaks.isCalm = (breaks.error?.isNone && !breaks.asks .interrupt &&
      !breaks.asks .terminate && !breaks.isSilent) := by
  have kinds (stream : Option Break) : stream.isNone = ((stream.filter Break.isError).isNone &&
      !stream.any (·.asks .interrupt) && !stream.any (·.asks .terminate) &&
        !stream.any (· == .silence)) := by
    cases stream with
    | none => rfl
    | some stop =>
        have kind := isError_or stop
        cases failed : stop.isError with
        | true => simp [failed]
        | false =>
            rw [failed, Bool.false_or] at kind
            cases silent : stop == .silence with
            | true => simp [failed, silent]
            | false =>
                rw [silent, Bool.or_false, Bool.or_eq_true] at kind
                cases kind <;> simp [*]
  rcases breaks with ⟨output, errors⟩
  rw [isCalm, kinds output, kinds errors]
  simp only [error?, asks, any, isSilent, Option.isNone_or]
  grind

theorem callsOff_of_isCalm {breaks : Breaks} (calm : breaks.isCalm = true)
    (limit : Option Seconds) : breaks.callsOff limit = false := by
  rcases breaks with ⟨output, errors⟩
  rw [isCalm, Bool.and_eq_true, Option.isNone_iff_eq_none, Option.isNone_iff_eq_none] at calm
  obtain ⟨rfl, rfl⟩ := calm
  cases limit with
  | none => rfl
  | some limit =>
      rw [callsOff]
      cases limit.isMomentary <;> rfl

/-- A wait that is not called off ends by the failure that is felt. If none is felt, a limit
ends it that is over at once or during which a stream stays open, and otherwise it lasts
until the process ends.  A cancellation from within is felt only when the limit is over. -/
theorem wait_of_callsOff_eq_false {limit : Option Seconds} {breaks : Breaks}
    (kept : breaks.callsOff limit = false) :
    wait limit breaks =
      match breaks.felt? limit with
      | some failure => if failure.isCancelled then .timedOut else waitOfError failure
      | none =>
          if limit.any Seconds.isMomentary || (limit.isSome && breaks.isSilent) then .timedOut
          else .done := by
  cases limit with
  | none =>
      rw [callsOff, Bool.or_eq_false_iff] at kept
      obtain ⟨asked, kept⟩ := kept
      rw [wait, waitForever, felt?, asked]
      cases failed : breaks.error? with
      | none => simp_all
      | some failure =>
          rw [failed, Bool.or_eq_false_iff] at kept
          obtain ⟨cancelled, _⟩ | ⟨_, ⟨late, waits⟩ | ⟨error, waits⟩ | ⟨ended, waits⟩⟩ :=
            waitOfError_cases failure
          all_goals simp_all
  | some limit =>
      rw [callsOff, Bool.or_eq_false_iff] at kept
      obtain ⟨asked, kept⟩ := kept
      rw [wait, felt?, asked]
      cases momentary : limit.isMomentary with
      | true =>
          rw [momentary, if_pos rfl] at kept
          rw [if_pos rfl, waitAtOnce, waitInterrupted?_of_not_asks asked, kept]
          cases silent : breaks.isSilent with
          | false => simp [momentary]
          | true =>
              cases failed : breaks.error? with
              | none => simp [momentary]
              | some failure =>
                  obtain ⟨cancelled, how, waits⟩ |
                    ⟨_, ⟨late, waits⟩ | ⟨error, waits⟩ | ⟨ended, waits⟩⟩ :=
                      waitOfError_cases failure
                  all_goals simp_all
      | false =>
          rw [momentary, if_neg (by simp)] at kept
          rw [if_neg (by simp), waitUnderLimit, waitInterrupted?_of_not_asks asked]
          cases failed : breaks.error? with
          | none => simp_all
          | some failure => simp_all

theorem isDone_wait (limit : Option Seconds) (breaks : Breaks) :
    (wait limit breaks).isDone = (!limit.any Seconds.isMomentary && breaks.isCalm) := by
  cases off : breaks.callsOff limit with
  | true =>
      have restless : breaks.isCalm = false := by
        cases calm : breaks.isCalm with
        | false => rfl
        | true =>
            rw [callsOff_of_isCalm calm] at off
            cases off
      rw [← isCalledOff_wait] at off
      rw [(Wait.of_isCalledOff off).1, restless, Bool.and_false]
  | false =>
      rw [wait_of_callsOff_eq_false off, isCalm_eq]
      cases failed : breaks.error? with
      | none =>
          cases limit with
          | none => simp_all [callsOff, felt?, Wait.isDone]
          | some limit =>
              cases momentary : limit.isMomentary <;> cases silent : breaks.isSilent <;>
                simp_all [callsOff, felt?, Wait.isDone]
      | some failure =>
          have undone := isDone_waitOfError failure
          cases limit with
          | none => simp_all [callsOff, felt?]
          | some limit =>
              cases momentary : limit.isMomentary <;> cases silent : breaks.isSilent <;>
                cases cancelled : failure.isCancelled <;> simp_all [callsOff, felt?, Wait.isDone]

/-- Where the reading is called off, a failure that is felt is a cancellation, or, without a
limit, a timeout that a termination follows. -/
theorem felt_of_callsOff {limit : Option Seconds} {breaks : Breaks} {failure : Break}
    (off : breaks.callsOff limit = true) (felt : breaks.felt? limit = some failure) :
    failure.isCancelled = true ∨ (failure.isTimeout = true ∧ breaks.asks .terminate = true) := by
  cases limit with
  | none =>
      rw [callsOff, Bool.or_eq_true] at off
      rw [felt?] at felt
      split at felt
      · cases felt
      · rename_i unasked
        rw [felt] at off
        simpa [unasked] using off
  | some limit =>
      rw [callsOff, Bool.or_eq_true] at off
      rw [felt?] at felt
      split at felt
      · cases felt
      · rw [felt] at off
        simp_all

theorem timesOut_of_callsOff {limit : Option Seconds} {breaks : Breaks}
    (off : breaks.callsOff limit = true) : breaks.timesOut limit = false := by
  cases limit with
  | none =>
      rw [timesOut]
      cases felt : breaks.felt? none with
      | none => rfl
      | some failure =>
          rw [Option.any_some]
          obtain cancelled | ⟨_, terminates⟩ := felt_of_callsOff off felt
          · rw [Break.isTimeout_of_isCancelled cancelled, Bool.false_and]
          · rw [terminates, Bool.not_true, Bool.and_false]
  | some limit =>
      rw [callsOff, Bool.or_eq_true] at off
      rw [timesOut]
      cases asked : breaks.asks .interrupt with
      | true => rfl
      | false =>
          cases momentary : limit.isMomentary with
          | true => simp_all
          | false =>
              cases failed : breaks.error? with
              | none => simp_all
              | some failure => simp_all [Break.isTimeout_of_isCancelled]

theorem isTimedOut_wait (limit : Option Seconds) (breaks : Breaks) :
    (wait limit breaks).isTimedOut = breaks.timesOut limit := by
  cases off : breaks.callsOff limit with
  | true =>
      have inTime : breaks.timesOut limit = false := timesOut_of_callsOff off
      rw [← isCalledOff_wait] at off
      rw [(Wait.of_isCalledOff off).2.1, inTime]
  | false =>
      rw [wait_of_callsOff_eq_false off]
      cases failed : breaks.error? with
      | none =>
          cases limit with
          | none => simp_all [callsOff, felt?, timesOut, Wait.isTimedOut]
          | some limit =>
              cases momentary : limit.isMomentary <;> cases silent : breaks.isSilent <;>
                simp_all [callsOff, felt?, timesOut, isUnhandled, Wait.isTimedOut]
      | some failure =>
          have late := isTimedOut_waitOfError failure
          cases limit with
          | none =>
              cases failure.isTimeout <;> simp_all [callsOff, felt?, timesOut]
          | some limit =>
              cases momentary : limit.isMomentary <;> cases silent : breaks.isSilent <;>
                cases cancelled : failure.isCancelled <;>
                simp_all [callsOff, felt?, timesOut, isUnhandled, Break.isUnhandled_eq,
                  Wait.isTimedOut]

theorem error?_wait (limit : Option Seconds) (breaks : Breaks) :
    (wait limit breaks).error? = (breaks.felt? limit).bind Break.error? := by
  cases off : breaks.callsOff limit with
  | true =>
      have unfelt : (breaks.felt? limit).bind Break.error? = none := by
        rw [Option.bind_eq_none_iff]
        intro failure felt
        obtain cancelled | ⟨late, _⟩ := felt_of_callsOff off felt
        · exact Break.error?_of_isCancelled cancelled
        · exact Break.error?_of_isTimeout late
      rw [← isCalledOff_wait] at off
      rw [(Wait.of_isCalledOff off).2.2, unfelt]
  | false =>
      rw [wait_of_callsOff_eq_false off]
      cases breaks.felt? limit with
      | none =>
          dsimp only
          split <;> rfl
      | some failure =>
          dsimp only
          split
          · rename_i cancelled
            exact (Break.error?_of_isCancelled cancelled).symm
          · exact error?_waitOfError failure

end Breaks

/-- What breaks into the reading of a process. -/
def breaksOf (process : Process) : Breaks :=
  ⟨(read process.output).ended, (read process.errors).ended⟩

/-- The installer ends by itself, and both of its streams are read to their end: its limit
leaves time for that, and nothing breaks into the reading. -/
def finishes (installer : Installer) : Behaviour → Bool
  | .runs process => installer.limit.all Seconds.leavesTime && (breaksOf process).isCalm
  | .refused _ | .nullCharacter => false

/-- The installer takes too long to start or to end. -/
def timesOut (installer : Installer) : Behaviour → Bool
  | .refused interruption => interruption.isTimeout
  | .runs process => installer.limit.any Seconds.isOver ||
      (!installer.limit.any Seconds.isTooLarge && (breaksOf process).timesOut installer.limit)
  | .nullCharacter => false

/-- The error of the system that keeps the installer from starting, or that breaks into the
reading of its streams. -/
def error? (installer : Installer) : Behaviour → Option SystemError
  | .refused interruption => interruption.error?
  | .runs process =>
      if installer.limit.any Seconds.isOver || installer.limit.any Seconds.isTooLarge then none
      else ((breaksOf process).felt? installer.limit).bind Break.error?
  | .nullCharacter => none

/-- Under a limit that leaves time for the reading, the verdict is that of the wait. -/
theorem verdict_of_leavesTime {installer : Installer} {process : Process}
    (inTime : installer.limit.all Seconds.leavesTime = true) :
    installer.verdict process = wait installer.limit (breaksOf process) := by
  rw [verdict]
  cases limit : installer.limit with
  | none => rfl
  | some seconds =>
      rw [limit, Option.all_some, Seconds.leavesTime, Bool.and_eq_true, Bool.and_eq_true,
        Bool.not_eq_true', Bool.not_eq_true'] at inTime
      rw [Option.any_some, Option.any_some, inTime.1.1, inTime.1.2]
      rfl

theorem isDone_verdict (installer : Installer) (process : Process) :
    (installer.verdict process).isDone = installer.finishes (.runs process) := by
  rw [verdict, finishes]
  cases installer.limit with
  | none => exact Breaks.isDone_wait none _
  | some limit =>
      rw [Option.any_some, Option.any_some, Option.all_some, Seconds.leavesTime]
      cases limit.isOver with
      | true => rfl
      | false =>
          cases limit.isTooLarge with
          | true => rfl
          | false => exact Breaks.isDone_wait (some limit) _

theorem verdict_of_finishes {installer : Installer} {process : Process}
    (finished : installer.finishes (.runs process) = true) : installer.verdict process = .done := by
  rw [← isDone_verdict] at finished
  cases verdict : installer.verdict process <;> simp_all [Wait.isDone]

theorem isTimedOut_verdict (installer : Installer) (process : Process) :
    (installer.verdict process).isTimedOut = installer.timesOut (.runs process) := by
  rw [verdict, timesOut]
  cases installer.limit.any Seconds.isOver with
  | true => rfl
  | false =>
      cases installer.limit.any Seconds.isTooLarge with
      | true => rfl
      | false => exact Breaks.isTimedOut_wait _ _

theorem error?_verdict (installer : Installer) (process : Process) :
    (installer.verdict process).error? = installer.error? (.runs process) := by
  rw [verdict, error?]
  cases installer.limit.any Seconds.isOver with
  | true => rfl
  | false =>
      cases installer.limit.any Seconds.isTooLarge with
      | true => rfl
      | false => exact Breaks.error?_wait _ _

end Installer

end Toolset
