import Toolset.Proofs.Fetching
import Toolset.Proofs.Killing
import Toolset.Proofs.Replay

/-!
# How a fetch decides

A fetch without a revision is one clone.  With a revision, what comes of each call of git
decides whether there is another one, and which: after a clone that succeeds the revision is
resolved as it is, then, if git answers that without a commit, as a branch of the remote, and
the commit of the first answer that names one is checked out.  The fetch returns exactly if
its last command, the clone or the checkout, succeeds; what else ends it is decided by the
call that did not do its part.
-/

namespace Toolset

/-! ## Calls and what came of them -/

/-- Some calls came out as the host has it, one after another, by the number of the first. -/
def Host.Answers (host : Host) : Nat → FileTree → List Call → Prop
  | _, _, [] => True
  | number, tree, call :: rest =>
      ((host.program number call.start tree).settle tree).2 = call.behaviour ∧
        host.Answers (number + 1) (host.treeAfter number call.start tree) rest

theorem Host.answers_append (host : Host) {number : Nat} {tree : FileTree}
    {first second : List Call} (answers : host.Answers number tree first)
    (later : host.Answers (number + first.length)
      (host.replay number tree (first.map Call.start)) second) :
    host.Answers number tree (first ++ second) := by
  induction first generalizing number tree with
  | nil => exact later
  | cons call rest ih =>
      refine ⟨answers.1, ih answers.2 ?_⟩
      rw [List.length_cons, ← Nat.add_assoc, Nat.add_right_comm] at later
      exact later

/-- Between two worlds some calls were made that came out as the host has it, and nothing
else changed the tree. -/
structure Answered (host : Host) (before after : World) (made : List Call) : Prop
    extends Replayed host before after made where
  answers : host.Answers before.calls.length before.tree made

namespace Answered

variable {host : Host} {before middle after : World}

theorem trans {calls later : List Call} (first : Answered host before middle calls)
    (second : Answered host middle after later) :
    Answered host before after (calls ++ later) where
  toReplayed := first.toReplayed.trans second.toReplayed
  answers := by
    have answers := second.answers
    rw [first.tree, first.calls, List.length_append] at answers
    exact host.answers_append first.answers answers

theorem of_same (same : SameDeeds before after) : Answered host before after [] :=
  ⟨.of_same same, trivial⟩

theorem of_called {start : Start} {behaviour : Behaviour} {course : Course}
    (called : Called host start before after behaviour course) :
    Answered host before after [⟨start, behaviour⟩] :=
  ⟨.of_called called, by rw [called.settled], trivial⟩

theorem logged {record : Log.Record} {calls : List Call}
    (answered : Answered host (before.logged host record) after calls) :
    Answered host before after calls :=
  (of_same (.logged before host record)).trans answered

theorem andLogged {record : Log.Record} {calls : List Call}
    (answered : Answered host before after calls) :
    Answered host before (after.logged host record) calls := by
  rw [← List.append_nil calls]
  exact answered.trans (of_same (.logged after host record))

end Answered

namespace Git

variable {git : Git} {source : String} {target : Path} {revision : String} {host : Host}
  {before after : World}

/-! ## Single commands -/

/-- How a command ends that has to succeed. -/
def judge (git : Git) (source : String) (arguments : List String) (behaviour : Behaviour) :
    Except Ending Unit :=
  match git.conclusion source arguments behaviour with
  | .ok answer =>
      if answer.succeeded then .ok ()
      else .error (.failed (.fetch source (failureMessage answer)) none)
  | .error ending => .error ending

/-- How a command ends what it is part of, if it does not do its part. Git says itself why
it failed, or its exit code does; what cannot be started and what takes too long is a failure
to fetch, too. All else passes as it is. -/
structure Fails (git : Git) (source : String) (arguments : List String) (behaviour : Behaviour)
    (outcome : Except Ending Unit) : Prop where
  exited : ∀ answer, git.answer? behaviour = some answer →
    outcome = .error (.failed (.fetch source (failureMessage answer)) none)
  unstarted : ∀ interruption, behaviour = .refused interruption →
    interruption.isCancelled = false →
    outcome = .error (.failed (.fetch source (startMessage interruption)) none)
  late : git.timesOut behaviour = true →
    outcome = .error (.failed (.fetch source (timeoutMessage arguments git.limit)) none)
  escaped : ∀ ending, git.escape? behaviour = some ending → outcome = .error ending

theorem answer?_of_conclusion {arguments : List String} {behaviour : Behaviour} {ending : Ending}
    (concluded : git.conclusion source arguments behaviour = .error ending) :
    git.answer? behaviour = none := by
  cases answers : git.answer? behaviour with
  | none => rfl
  | some answer =>
      rw [conclusion_eq_ok_iff.2 answers] at concluded
      cases concluded

theorem judge_of_error {arguments : List String} {behaviour : Behaviour} {ending : Ending}
    (concluded : git.conclusion source arguments behaviour = .error ending) :
    git.judge source arguments behaviour = .error ending := by
  rw [judge, concluded]

theorem judge_eq_ok_iff {arguments : List String} {behaviour : Behaviour} :
    git.judge source arguments behaviour = .ok () ↔ git.succeeds behaviour = true := by
  rw [judge, succeeds]
  cases concluded : git.conclusion source arguments behaviour with
  | ok answer =>
      rw [conclusion_eq_ok_iff.1 concluded, Option.any_some]
      cases succeeded : answer.succeeded <;> simp [succeeded]
  | error ending =>
      simp [answer?_of_conclusion concluded]

theorem judge_fails {arguments : List String} {behaviour : Behaviour}
    (failed : git.succeeds behaviour = false) :
    git.Fails source arguments behaviour (git.judge source arguments behaviour) where
  exited := by
    intro answer answers
    rw [succeeds, answers, Option.any_some] at failed
    rw [judge, conclusion_eq_ok_iff.2 answers]
    simp [failed]
  unstarted := by
    rintro interruption rfl started
    apply judge_of_error
    cases interruption with
    | timedOut => rfl
    | failed error => rfl
    | cancelled how => cases started
  late := fun late => judge_of_error (conclusion_of_timesOut late)
  escaped := fun ending escapes => judge_of_error (conclusion_of_escape escapes)

theorem execute_answered {arguments : List String} {outcome : Except Ending Answer}
    (ran : (git.execute source arguments).Leads host before outcome after) :
    ∃ behaviour, Answered host before after [⟨git.start arguments, behaviour⟩] ∧
      outcome = git.conclusion source arguments behaviour := by
  obtain ⟨behaviour, called, equal⟩ := execute_leads ran
  exact ⟨behaviour, .of_called called, equal⟩

theorem succeed_answered {arguments : List String} {outcome : Except Ending Unit}
    (ran : (git.succeed source arguments).Leads host before outcome after) :
    ∃ behaviour, Answered host before after [⟨git.start arguments, behaviour⟩] ∧
      outcome = git.judge source arguments behaviour := by
  rw [succeed] at ran
  obtain ⟨answer, middle, first, ran⟩ | ⟨ending, first, rfl⟩ := Act.leads_bind.1 ran
  · obtain ⟨behaviour, answered, concluded⟩ := execute_answered first
    refine ⟨behaviour, ?_⟩
    rw [judge, ← concluded]
    dsimp only
    split at ran
    · rename_i succeeded
      obtain ⟨rfl, rfl⟩ := Act.leads_pure.1 ran
      exact ⟨answered, by rw [if_pos succeeded]⟩
    · rename_i failed
      obtain ⟨rfl, rfl⟩ := Act.leads_throw.1 ran
      exact ⟨answered, by rw [if_neg failed]⟩
  · obtain ⟨behaviour, answered, concluded⟩ := execute_answered first
    exact ⟨behaviour, answered, (judge_of_error concluded.symm).symm⟩

/-! ## The resolution of a revision -/

/-- What is said of a revision that no name has a commit for. -/
def unresolvedFailure (source revision : String) : Ending :=
  .failed (.fetch source ("revision " ++ Text.quoted revision ++ " not found")) none

/-- The calls that look for a revision under some names, and how that ends: with the commit
of the first answer that names one, without one if all names are answered without, or as a
call that does not answer. -/
inductive Searched (git : Git) (source : String) (target : Path) (revision : String) :
    List String → List Call → Except Ending String → Prop where
  | exhausted : Searched git source target revision [] []
      (.error (unresolvedFailure source revision))
  | found {name commit : String} {others : List String} {call : Call} {answer : Answer} :
      call.start = git.start (resolveCommand target name) →
      git.answer? call.behaviour = some answer → answer.commit? = some commit →
      Searched git source target revision (name :: others) [call] (.ok commit)
  | next {name : String} {others : List String} {call : Call} {calls : List Call}
      {answer : Answer} {outcome : Except Ending String} :
      call.start = git.start (resolveCommand target name) →
      git.answer? call.behaviour = some answer → answer.commit? = none →
      Searched git source target revision others calls outcome →
      Searched git source target revision (name :: others) (call :: calls) outcome
  | failed {name : String} {others : List String} {call : Call} {ending : Ending} :
      call.start = git.start (resolveCommand target name) →
      git.answer? call.behaviour = none →
      git.judge source (resolveCommand target name) call.behaviour = .error ending →
      Searched git source target revision (name :: others) [call] (.error ending)

/-- A revision is looked for under one name after another. -/
theorem resolve_searched {names : List String} {outcome : Except Ending String}
    (ran : (git.resolve source target revision names).Leads host before outcome after) :
    ∃ calls, Answered host before after calls ∧
      git.Searched source target revision names calls outcome := by
  induction names generalizing before with
  | nil =>
      rw [resolve] at ran
      obtain ⟨rfl, rfl⟩ := Act.leads_throw.1 ran
      exact ⟨[], .of_same (.refl after), .exhausted⟩
  | cons name others ih =>
      rw [resolve] at ran
      obtain ⟨answer, middle, first, ran⟩ | ⟨ending, first, rfl⟩ := Act.leads_bind.1 ran
      · obtain ⟨behaviour, answered, concluded⟩ := execute_answered first
        have answers := conclusion_eq_ok_iff.1 concluded.symm
        dsimp only at ran
        split at ran
        · rename_i names
          obtain ⟨rfl, rfl⟩ := Act.leads_pure.1 ran
          exact ⟨_, answered, .found rfl answers (by rw [Answer.commit?, if_pos names])⟩
        · rename_i nameless
          obtain ⟨calls, later, searched⟩ := ih ran
          exact ⟨_, answered.trans later,
            .next rfl answers (by rw [Answer.commit?, if_neg nameless]) searched⟩
      · obtain ⟨behaviour, answered, concluded⟩ := execute_answered first
        exact ⟨_, answered, .failed rfl (answer?_of_conclusion concluded.symm)
          (judge_of_error concluded.symm)⟩

/-! ## The fetch -/

/-- The commit that a call names. -/
def named? (git : Git) (call : Call) : Option String :=
  (git.answer? call.behaviour).bind Answer.commit?

/-- A fetch without a revision: the tip of the default branch is cloned, and that is all. -/
structure Unpinned (git : Git) (source : String) (target : Path) (clone : Call)
    (calls : List Call) (outcome : Except Ending Unit) : Prop where
  calls : calls = [clone]
  start : clone.start = git.start (cloneTipCommand source target)
  returns : outcome = .ok () ↔ git.succeeds clone.behaviour = true
  fails : git.succeeds clone.behaviour = false →
    git.Fails source (cloneTipCommand source target) clone.behaviour outcome

/-- A fetch with a revision, by the calls that it makes: the clone, the resolution of the
revision as it is and as a branch of the remote, and the checkout. Each is made exactly if
what came of those before it asks for it. -/
structure Pinned (git : Git) (source : String) (target : Path) (revision : String)
    (clone : Call) (asItIs asBranch checkout : Option Call) (calls : List Call)
    (outcome : Except Ending Unit) : Prop where
  calls : calls = clone :: (asItIs.toList ++ (asBranch.toList ++ checkout.toList))
  clone_start : clone.start = git.start (cloneAllCommand source target)
  asItIs_start : ∀ call, asItIs = some call →
    call.start = git.start (resolveCommand target revision)
  asBranch_start : ∀ call, asBranch = some call →
    call.start = git.start (resolveCommand target (remote ++ "/" ++ revision))
  /-- The revision is resolved exactly if the clone succeeds. -/
  asItIs_iff : asItIs.isSome = true ↔ git.succeeds clone.behaviour = true
  /-- The branch is looked for exactly if git answered without a commit before. -/
  asBranch_iff : asBranch.isSome = true ↔ ∃ call answer, asItIs = some call ∧
    git.answer? call.behaviour = some answer ∧ answer.commit? = none
  /-- There is a checkout exactly if a commit was named, and it is of the first one. -/
  checkout_start : checkout.map Call.start =
    ((asItIs.bind git.named?).or (asBranch.bind git.named?)).map
      fun commit => git.start (checkoutCommand target commit)
  returns : outcome = .ok () ↔
    ∃ call, checkout = some call ∧ git.succeeds call.behaviour = true
  clone_fails : git.succeeds clone.behaviour = false →
    git.Fails source (cloneAllCommand source target) clone.behaviour outcome
  asItIs_fails : ∀ call, asItIs = some call → git.answer? call.behaviour = none →
    git.Fails source (resolveCommand target revision) call.behaviour outcome
  asBranch_fails : ∀ call, asBranch = some call → git.answer? call.behaviour = none →
    git.Fails source (resolveCommand target (remote ++ "/" ++ revision)) call.behaviour outcome
  unresolved : ∀ call answer, asBranch = some call → git.answer? call.behaviour = some answer →
    answer.commit? = none → outcome = .error (unresolvedFailure source revision)
  checkout_fails : ∀ call commit, checkout = some call →
    call.start = git.start (checkoutCommand target commit) →
    git.succeeds call.behaviour = false →
    git.Fails source (checkoutCommand target commit) call.behaviour outcome

theorem unpinned_of_judge {behaviour : Behaviour} :
    git.Unpinned source target ⟨git.start (cloneTipCommand source target), behaviour⟩
      [⟨git.start (cloneTipCommand source target), behaviour⟩]
      (git.judge source (cloneTipCommand source target) behaviour) :=
  ⟨rfl, rfl, judge_eq_ok_iff, judge_fails⟩

/-- A clone that fails is all there is of a fetch. -/
theorem pinned_of_clone {behaviour : Behaviour} (failed : git.succeeds behaviour = false) :
    git.Pinned source target revision ⟨git.start (cloneAllCommand source target), behaviour⟩
      none none none [⟨git.start (cloneAllCommand source target), behaviour⟩]
      (git.judge source (cloneAllCommand source target) behaviour) := by
  have error : git.judge source (cloneAllCommand source target) behaviour ≠ .ok () := by
    rw [ne_eq, judge_eq_ok_iff, failed]
    simp
  constructor
  case clone_fails => exact judge_fails
  all_goals simp [failed, error]

/-- A resolution without a commit ends the fetch without a checkout. -/
theorem pinned_of_error {cloning : Behaviour} {calls : List Call} {ending : Ending}
    (succeeded : git.succeeds cloning = true)
    (searched : git.Searched source target revision (candidates revision) calls
      (.error ending)) :
    ∃ asItIs asBranch, git.Pinned source target revision
      ⟨git.start (cloneAllCommand source target), cloning⟩ asItIs asBranch none
      (⟨git.start (cloneAllCommand source target), cloning⟩ :: calls) (.error ending) := by
  rw [candidates] at searched
  cases searched with
  | @failed _ _ call _ first unanswered judged =>
      refine ⟨some call, none, ?_⟩
      have unsuccessful : git.succeeds call.behaviour = false := by simp [succeeds, unanswered]
      have fails : git.Fails source (resolveCommand target revision) call.behaviour _ :=
        judge_fails unsuccessful
      rw [judged] at fails
      constructor
      all_goals simp_all [named?]
  | @next _ _ call _ answer _ first answered nameless searched =>
      cases searched with
      | @failed _ _ last _ second unanswered judged =>
          refine ⟨some call, some last, ?_⟩
          have unsuccessful : git.succeeds last.behaviour = false := by simp [succeeds, unanswered]
          have fails : git.Fails source (resolveCommand target (remote ++ "/" ++ revision))
              last.behaviour _ := judge_fails unsuccessful
          rw [judged] at fails
          constructor
          case unresolved =>
            intro _ other equal answers
            cases equal
            rw [unanswered] at answers
            cases answers
          all_goals simp_all [named?]
      | @next _ _ last _ other _ second answeredToo namelessToo searched =>
          cases searched
          refine ⟨some call, some last, ?_⟩
          constructor
          all_goals simp_all [named?]

theorem pinned_of_commit {cloning : Behaviour} {calls : List Call} {commit : String}
    (behaviour : Behaviour) (succeeded : git.succeeds cloning = true)
    (searched : git.Searched source target revision (candidates revision) calls (.ok commit)) :
    ∃ asItIs asBranch, git.Pinned source target revision
      ⟨git.start (cloneAllCommand source target), cloning⟩ asItIs asBranch
      (some ⟨git.start (checkoutCommand target commit), behaviour⟩)
      (⟨git.start (cloneAllCommand source target), cloning⟩ ::
        (calls ++ [⟨git.start (checkoutCommand target commit), behaviour⟩]))
      (git.judge source (checkoutCommand target commit) behaviour) := by
  have checkout_fails (other : String)
      (same : git.start (checkoutCommand target commit) = git.start (checkoutCommand target other))
      (failed : git.succeeds behaviour = false) :
      git.Fails source (checkoutCommand target other) behaviour
        (git.judge source (checkoutCommand target commit) behaviour) := by
    have equal : commit = other := by simpa [Git.start, checkoutCommand] using same
    subst equal
    exact judge_fails failed
  rw [candidates] at searched
  cases searched with
  | @found _ _ _ call answer first answered names =>
      refine ⟨some call, none, ?_⟩
      constructor
      case checkout_fails =>
        intro _ other equal
        cases equal
        exact checkout_fails other
      all_goals simp_all [named?, judge_eq_ok_iff]
  | @next _ _ call _ answer _ first answered nameless searched =>
      cases searched with
      | @found _ _ _ last other second answeredToo names =>
          refine ⟨some call, some last, ?_⟩
          constructor
          case checkout_fails =>
            intro _ other equal
            cases equal
            exact checkout_fails other
          case unresolved =>
            intro _ other equal answers nameless
            cases equal
            rw [answeredToo] at answers
            cases answers
            rw [names] at nameless
            cases nameless
          all_goals simp_all [named?, judge_eq_ok_iff]
      | next _ _ _ searched => cases searched

/-- How the calls of a fetch come about and how it ends, with a revision and without one. -/
def Decided (git : Git) (source : String) (target : Path) (calls : List Call)
    (outcome : Except Ending Unit) : Option String → Prop
  | none => ∃ clone, git.Unpinned source target clone calls outcome
  | some revision => ∃ clone asItIs asBranch checkout,
      git.Pinned source target revision clone asItIs asBranch checkout calls outcome

/-- Every fetch makes its calls one after another, each as what came of those before asks for
it, and ends as they say. -/
theorem fetch_decided (git : Git) (source : String) (target : Path) (revision : Option String)
    (host : Host) (before : World) :
    ∃ outcome after calls,
      (git.fetch source target revision).Leads host before outcome after ∧
      Answered host before after calls ∧ git.Decided source target calls outcome revision := by
  obtain ⟨outcome, after, ran⟩ := (git.fetch source target revision).exists_leads host before
  have went := ran
  refine ⟨outcome, after, ?_⟩
  cases revision with
  | none =>
      rw [fetch, Act.leads_log_bind] at ran
      obtain ⟨_, middle, first, ran⟩ | ⟨ending, first, rfl⟩ := Act.leads_bind.1 ran
      · obtain ⟨behaviour, answered, judged⟩ := succeed_answered first
        obtain ⟨rfl, rfl⟩ := Act.leads_log.1 ran
        exact ⟨_, went, answered.logged.andLogged, _, judged ▸ unpinned_of_judge⟩
      · obtain ⟨behaviour, answered, judged⟩ := succeed_answered first
        exact ⟨_, went, answered.logged, _, judged ▸ unpinned_of_judge⟩
  | some revision =>
      rw [fetch] at ran
      obtain ⟨_, cloned, first, ran⟩ | ⟨ending, first, rfl⟩ := Act.leads_bind.1 ran
      · obtain ⟨behaviour, answered, judged⟩ := succeed_answered first
        have succeeded := judge_eq_ok_iff.1 judged.symm
        obtain ⟨commit, resolved, second, ran⟩ | ⟨ending, second, rfl⟩ := Act.leads_bind.1 ran
        · obtain ⟨calls, answeredToo, searched⟩ := resolve_searched second
          obtain ⟨_, checked, third, ran⟩ | ⟨ending, third, rfl⟩ := Act.leads_bind.1 ran
          · obtain ⟨last, answeredLast, judgedLast⟩ := succeed_answered third
            obtain ⟨rfl, rfl⟩ := Act.leads_log.1 ran
            obtain ⟨asItIs, asBranch, pinned⟩ := pinned_of_commit last succeeded searched
            rw [← judgedLast] at pinned
            exact ⟨_, went, (answered.trans (answeredToo.trans answeredLast)).andLogged,
              _, asItIs, asBranch, _, pinned⟩
          · obtain ⟨last, answeredLast, judgedLast⟩ := succeed_answered third
            obtain ⟨asItIs, asBranch, pinned⟩ := pinned_of_commit last succeeded searched
            rw [← judgedLast] at pinned
            exact ⟨_, went, answered.trans (answeredToo.trans answeredLast),
              _, asItIs, asBranch, _, pinned⟩
        · obtain ⟨calls, answeredToo, searched⟩ := resolve_searched second
          obtain ⟨asItIs, asBranch, pinned⟩ := pinned_of_error succeeded searched
          exact ⟨_, went, answered.trans answeredToo, _, asItIs, asBranch, none, pinned⟩
      · obtain ⟨behaviour, answered, judged⟩ := succeed_answered first
        have failed : git.succeeds behaviour = false := by
          cases succeeded : git.succeeds behaviour with
          | false => rfl
          | true =>
              rw [judge_eq_ok_iff.2 succeeded] at judged
              cases judged
        have pinned : git.Pinned source target revision _ none none none _ _ :=
          pinned_of_clone failed
        rw [← judged] at pinned
        exact ⟨_, went, answered, _, none, none, none, pinned⟩

end Git

end Toolset
