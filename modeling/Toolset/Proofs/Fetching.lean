import Toolset.Proofs.Calls

/-!
# Fetches, call by call

A fetch is a sequence of calls of git.  Each of them is collected before the
next one starts, so the first that is not ends the fetch: as a failure to fetch,
or by something that escapes from it.  A fetch returns exactly if each of its steps
succeeds, which can be read off what the calls answer.
-/

namespace Toolset.Git

variable {α : Type} {git : Git} {source : String} {host : Host} {before middle after : World}

/-- The start of a call, and the course that its process took. -/
def passage (git : Git) (call : Call) : Start × Course :=
  (call.start, git.course call.behaviour)

/-- How a sequence of calls ends: with a value if all are collected, as a failure
to fetch if nothing escapes, and otherwise by what escapes from the last. All calls
before the last are collected in any case. -/
inductive Ends (git : Git) (source : String) : List Call → Except Ending α → Prop where
  | done {calls : List Call} {a : α} :
      (∀ call ∈ calls, git.course call.behaviour = .collected) → Ends git source calls (.ok a)
  | failed {calls : List Call} {cause : String} :
      (∀ call ∈ calls.dropLast, git.course call.behaviour = .collected) →
      (∀ call ∈ calls, git.escape? call.behaviour = none) →
      Ends git source calls (.error (.failed (.fetch source cause) none))
  | escaped {calls : List Call} {last : Call} {ending : Ending} :
      (∀ call ∈ calls, git.course call.behaviour = .collected) →
      git.escape? last.behaviour = some ending →
      Ends git source (calls ++ [last]) (.error ending)

/-- A sequence of calls of git and nothing else, and how it ended. -/
structure Ran (git : Git) (source : String) (before after : World) (calls : List Call)
    (outcome : Except Ending α) : Prop where
  issued : ∀ call ∈ calls, ∃ arguments, call.start = git.start arguments
  added : ∃ deeds, Traced (calls.map git.passage) deeds ∧ Added before after calls deeds []
  ends : git.Ends source calls outcome

theorem escape?_of_collected {behaviour : Behaviour}
    (collected : git.course behaviour = .collected) : git.escape? behaviour = none := by
  apply escape?_of_isAwaited
  rw [collected]
  rfl

namespace Ends

/-- Calls that were collected may come before any others. -/
theorem append {calls later : List Call} {a : α} {β : Type} {outcome : Except Ending β}
    (first : git.Ends source calls (.ok a)) (second : git.Ends source later outcome) :
    git.Ends source (calls ++ later) outcome := by
  cases first with
  | done collected =>
      have regular : ∀ call ∈ calls, git.escape? call.behaviour = none :=
        fun call member => escape?_of_collected (collected call member)
      cases second with
      | done others =>
          apply Ends.done
          intro call member
          exact (List.mem_append.1 member).elim (collected call) (others call)
      | failed before others =>
          apply Ends.failed
          · intro call member
            cases later with
            | nil =>
                rw [List.append_nil] at member
                exact collected call (List.dropLast_subset _ member)
            | cons next rest =>
                rw [List.dropLast_append_of_ne_nil (List.cons_ne_nil _ _)] at member
                exact (List.mem_append.1 member).elim (collected call) (before call)
          · intro call member
            exact (List.mem_append.1 member).elim (regular call) (others call)
      | @escaped calls' last ending others escapes =>
          rw [← List.append_assoc]
          refine Ends.escaped ?_ escapes
          intro call member
          exact (List.mem_append.1 member).elim (collected call) (others call)

theorem collected_of_ok {calls : List Call} {a : α} (ends : git.Ends source calls (.ok a)) :
    ∀ call ∈ calls, git.course call.behaviour = .collected := by
  cases ends with
  | done collected => exact collected

theorem regular_of_ok {calls : List Call} {a : α} (ends : git.Ends source calls (.ok a)) :
    ∀ call ∈ calls, git.escape? call.behaviour = none :=
  fun call member => escape?_of_collected (ends.collected_of_ok call member)

/-- What ends calls without a value does not depend on the value they were made
for. -/
theorem of_error {calls : List Call} {ending : Ending} {β : Type}
    (ends : git.Ends source calls (.error ending : Except Ending α)) :
    git.Ends source calls (.error ending : Except Ending β) := by
  cases ends with
  | failed before regular => exact .failed before regular
  | escaped before escapes => exact .escaped before escapes

theorem collected_dropLast {calls : List Call} {outcome : Except Ending α}
    (ends : git.Ends source calls outcome) :
    ∀ call ∈ calls.dropLast, git.course call.behaviour = .collected := by
  cases ends with
  | done collected => exact fun call member => collected call (List.dropLast_subset _ member)
  | failed before _ => exact before
  | escaped before _ =>
      rw [List.dropLast_concat]
      exact before

theorem error_of_escape {calls : List Call} {last : Call} {ending : Ending}
    {outcome : Except Ending α} (ends : git.Ends source (calls ++ [last]) outcome)
    (escapes : git.escape? last.behaviour = some ending) : outcome = .error ending := by
  have isLast : last ∈ calls ++ [last] := List.mem_concat_self
  generalize whole : calls ++ [last] = all at ends isLast
  cases ends with
  | done collected =>
      rw [escape?_of_collected (collected last isLast)] at escapes
      cases escapes
  | failed _ regular =>
      rw [regular last isLast] at escapes
      cases escapes
  | escaped _ escapesToo =>
      rcases List.append_inj' whole rfl with ⟨_, same⟩
      cases same
      rw [escapes] at escapesToo
      cases escapesToo
      rfl

theorem single {start : Start} {behaviour : Behaviour} {arguments : List String} :
    git.Ends source [⟨start, behaviour⟩] (git.conclusion source arguments behaviour) := by
  cases escapes : git.escape? behaviour with
  | some ending =>
      rw [conclusion_of_escape escapes]
      have none : ∀ call ∈ ([] : List Call), git.course call.behaviour = .collected := by simp
      exact .escaped none escapes
  | none =>
      rcases conclusion_of_no_escape escapes with ⟨answer, equal, collected⟩ | ⟨cause, equal⟩
      · rw [equal]
        exact .done (by simpa using collected)
      · rw [equal]
        exact .failed (by simp) (by simpa using escapes)

/-- What ends calls without a value is a failure to fetch, or it escaped from one
of them. -/
theorem error_cases {calls : List Call} {ending : Ending}
    (ends : git.Ends source calls (.error ending : Except Ending α)) :
    (∃ cause, ending = .failed (.fetch source cause) none ∧
      ∀ call ∈ calls, git.escape? call.behaviour = none) ∨
    ∃ call ∈ calls, git.escape? call.behaviour = some ending := by
  cases ends with
  | failed _ regular => exact .inl ⟨_, rfl, regular⟩
  | escaped _ escapes => exact .inr ⟨_, by simp, escapes⟩

end Ends

namespace Ran

theorem nil (world : World) {outcome : Except Ending α} (ends : git.Ends source [] outcome) :
    git.Ran source world world [] outcome :=
  ⟨by simp, ⟨[], .nil, .refl world⟩, ends⟩

theorem trans {calls later : List Call} {a : α} {β : Type} {outcome : Except Ending β}
    (first : git.Ran source before middle calls (.ok a))
    (second : git.Ran source middle after later outcome) :
    git.Ran source before after (calls ++ later) outcome := by
  rcases first.added with ⟨deeds, trace, added⟩
  rcases second.added with ⟨laterDeeds, laterTrace, laterAdded⟩
  refine ⟨?_, ⟨deeds ++ laterDeeds, ?_, added.trans laterAdded⟩, first.ends.append second.ends⟩
  · intro call member
    exact (List.mem_append.1 member).elim (first.issued call) (second.issued call)
  · rw [List.map_append]
    refine trace.append ?_ laterTrace
    intro passage member
    rcases List.mem_map.1 member with ⟨call, among, rfl⟩
    simp [Git.passage, first.ends.collected_of_ok call among]

theorem andLogged {record : Log.Record} {calls : List Call} {outcome : Except Ending α}
    (ran : git.Ran source before after calls outcome) :
    git.Ran source before (after.logged host record) calls outcome := by
  rcases ran.added with ⟨deeds, trace, added⟩
  refine ⟨ran.issued, ⟨deeds, trace, ?_⟩, ran.ends⟩
  simpa using added.trans (.logged after host record)

theorem logged {record : Log.Record} {calls : List Call} {outcome : Except Ending α}
    (ran : git.Ran source (before.logged host record) after calls outcome) :
    git.Ran source before after calls outcome := by
  rcases ran.added with ⟨deeds, trace, added⟩
  exact ⟨ran.issued, ⟨deeds, trace, (Added.logged before host record).trans added⟩, ran.ends⟩

end Ran

theorem Ran.of_error {calls : List Call} {ending : Ending} {β : Type}
    (ran : git.Ran source before after calls (.error ending : Except Ending α)) :
    git.Ran source before after calls (.error ending : Except Ending β) :=
  ⟨ran.issued, ran.added, ran.ends.of_error⟩

/-! ## The steps of a fetch -/

/-- A call succeeds: its process ends by itself, and with the exit code of success. -/
def succeeds (git : Git) (behaviour : Behaviour) : Bool :=
  (git.answer? behaviour).any Answer.succeeded

/-- The commit that an answer names, if the call succeeded and wrote one. -/
def Answer.commit? (answer : Answer) : Option String :=
  if answer.succeeded && !(Text.strip answer.output).isEmpty then some (Text.strip answer.output)
  else none

/-- Calls that resolve a revision: one for each name, up to the first whose answer names a
commit. -/
inductive Resolved (git : Git) (target : Path) : List String → List Call → String → Prop where
  | found {name commit : String} {others : List String} {call : Call} {answer : Answer} :
      call.start = git.start (resolveCommand target name) →
      git.answer? call.behaviour = some answer → answer.commit? = some commit →
      Resolved git target (name :: others) [call] commit
  | next {name commit : String} {others : List String} {call : Call} {calls : List Call}
      {answer : Answer} :
      call.start = git.start (resolveCommand target name) →
      git.answer? call.behaviour = some answer → answer.commit? = none →
      Resolved git target others calls commit →
      Resolved git target (name :: others) (call :: calls) commit

/-- Calls that fetch a source, each step of which succeeds: the clone, and with a revision
its resolution to a commit and the checkout of that. -/
inductive Fetched (git : Git) (source : String) (target : Path) :
    Option String → List Call → Prop where
  | tip {clone : Call} :
      clone.start = git.start (cloneTipCommand source target) →
      git.succeeds clone.behaviour = true → Fetched git source target none [clone]
  | pinned {revision commit : String} {clone checkout : Call} {resolution : List Call} :
      clone.start = git.start (cloneAllCommand source target) →
      git.succeeds clone.behaviour = true →
      git.Resolved target (candidates revision) resolution commit →
      checkout.start = git.start (checkoutCommand target commit) →
      git.succeeds checkout.behaviour = true →
      Fetched git source target (some revision) (clone :: (resolution ++ [checkout]))

/-- Calls after which there is no commit do not begin with any that resolve the revision. -/
def Unresolved (git : Git) (target : Path) (names : List String) (calls : List Call) : Prop :=
  ∀ resolution commit, git.Resolved target names resolution commit → ¬resolution <+: calls

/-- A call that does not answer leaves the revision unresolved. -/
theorem unresolved_of_no_answer {target : Path} {names : List String} {call : Call}
    (none : git.answer? call.behaviour = none) : git.Unresolved target names [call] := by
  intro resolution commit resolved starts
  have begins {first : Call} {rest : List Call} {answer : Answer}
      (starts : first :: rest <+: [call]) (answers : git.answer? first.behaviour = some answer) :
      False := by
    rw [(List.cons_prefix_cons.1 starts).1, none] at answers
    cases answers
  cases resolved with
  | found _ answers _ => exact begins starts answers
  | next _ answers _ _ => exact begins starts answers

theorem unresolved_cons {target : Path} {name : String} {others : List String} {call : Call}
    {calls : List Call} {answer : Answer} (answers : git.answer? call.behaviour = some answer)
    (nameless : answer.commit? = none) (rest : git.Unresolved target others calls) :
    git.Unresolved target (name :: others) (call :: calls) := by
  intro resolution commit resolved starts
  cases resolved with
  | found _ answersToo names =>
      rw [(List.cons_prefix_cons.1 starts).1, answers] at answersToo
      cases answersToo
      rw [nameless] at names
      cases names
  | next _ _ _ others => exact rest _ _ others (List.cons_prefix_cons.1 starts).2

theorem execute_ran {arguments : List String} {outcome : Except Ending Answer}
    (ran : (git.execute source arguments).Leads host before outcome after) :
    ∃ call, call.start = git.start arguments ∧ git.Ran source before after [call] outcome ∧
      ∀ answer, outcome = .ok answer ↔ git.answer? call.behaviour = some answer := by
  rcases execute_leads ran with ⟨behaviour, called, rfl⟩
  rcases called.added with ⟨pid, added⟩
  refine ⟨⟨git.start arguments, behaviour⟩, rfl, ⟨?_, ⟨_, .single _ _ pid, added⟩, .single⟩,
    fun _ => conclusion_eq_ok_iff⟩
  intro call member
  exact ⟨arguments, by rw [List.mem_singleton.1 member]⟩

theorem answer?_of_error {ending : Ending} {behaviour : Behaviour}
    (answers_iff : ∀ answer, (.error ending : Except Ending Answer) = .ok answer ↔
      git.answer? behaviour = some answer) : git.answer? behaviour = none := by
  cases answered : git.answer? behaviour with
  | none => rfl
  | some answer => cases (answers_iff answer).2 answered

theorem succeed_ran {arguments : List String} {outcome : Except Ending Unit}
    (ran : (git.succeed source arguments).Leads host before outcome after) :
    ∃ call, call.start = git.start arguments ∧ git.Ran source before after [call] outcome ∧
      (outcome = .ok () ↔ git.succeeds call.behaviour = true) := by
  rw [succeed] at ran
  rcases Act.leads_bind.1 ran with ⟨answer, middle, first, ran⟩ | ⟨ending, first, rfl⟩
  · rcases execute_ran first with ⟨call, same, called, answers⟩
    refine ⟨call, same, ?_⟩
    rw [succeeds, (answers answer).1 rfl, Option.any_some]
    cases succeeded : answer.succeeded with
    | true =>
        rw [succeeded, if_pos rfl] at ran
        rcases Act.leads_pure.1 ran with ⟨rfl, rfl⟩
        exact ⟨⟨called.issued, called.added, .done called.ends.collected_of_ok⟩, by simp⟩
    | false =>
        rw [succeeded, if_neg (by simp)] at ran
        rcases Act.leads_throw.1 ran with ⟨rfl, rfl⟩
        exact ⟨⟨called.issued, called.added, .failed (by simp) called.ends.regular_of_ok⟩, by simp⟩
  · rcases execute_ran first with ⟨call, same, called, answers⟩
    refine ⟨call, same, called.of_error, ?_⟩
    rw [succeeds, answer?_of_error answers]
    simp

/-- Resolving a revision calls git once for each name, up to the first that has a
commit. -/
theorem resolve_ran {target : Path} {revision : String} {names : List String}
    {outcome : Except Ending String}
    (ran : (git.resolve source target revision names).Leads host before outcome after) :
    ∃ calls, git.Ran source before after calls outcome ∧
      match outcome with
      | .ok commit => git.Resolved target names calls commit
      | .error _ => git.Unresolved target names calls := by
  induction names generalizing before with
  | nil =>
      rw [resolve] at ran
      rcases Act.leads_throw.1 ran with ⟨rfl, rfl⟩
      refine ⟨[], .nil _ (.failed (by simp) (by simp)), ?_⟩
      intro resolution commit resolved
      cases resolved
  | cons name others ih =>
      rw [resolve] at ran
      rcases Act.leads_bind.1 ran with ⟨answer, middle, first, ran⟩ | ⟨ending, first, rfl⟩
      · rcases execute_ran first with ⟨call, same, called, answers⟩
        have answered := (answers answer).1 rfl
        dsimp only at ran
        split at ran
        · rename_i names
          rcases Act.leads_pure.1 ran with ⟨rfl, rfl⟩
          refine ⟨[call], ⟨called.issued, called.added, .done called.ends.collected_of_ok⟩, ?_⟩
          exact .found same answered (by rw [Answer.commit?, if_pos names])
        · rename_i nameless
          have none : answer.commit? = none := by rw [Answer.commit?, if_neg nameless]
          rcases ih ran with ⟨calls, later, resolution⟩
          refine ⟨_, called.trans later, ?_⟩
          cases outcome with
          | ok commit => exact .next same answered none resolution
          | error ending => exact unresolved_cons answered none resolution
      · rcases execute_ran first with ⟨call, _, called, answers⟩
        exact ⟨[call], called.of_error, unresolved_of_no_answer (answer?_of_error answers)⟩

/-- A fetch calls git at least once, and nothing but git; it returns exactly if each of its
steps succeeds. -/
theorem fetch_ran {target : Path} {revision : Option String} {outcome : Except Ending Unit}
    (ran : (git.fetch source target revision).Leads host before outcome after) :
    ∃ call calls, git.Ran source before after (call :: calls) outcome ∧
      (outcome = .ok () ↔ git.Fetched source target revision (call :: calls)) := by
  cases revision with
  | none =>
      rw [fetch, Act.leads_log_bind] at ran
      have fetched_iff {call : Call}
          (same : call.start = git.start (cloneTipCommand source target)) :
          git.Fetched source target none [call] ↔ git.succeeds call.behaviour = true := by
        constructor
        · rintro ⟨_, succeeded⟩
          exact succeeded
        · exact .tip same
      rcases Act.leads_bind.1 ran with ⟨_, middle, first, ran⟩ | ⟨ending, first, rfl⟩
      · rcases succeed_ran first with ⟨call, same, called, succeeded⟩
        rcases Act.leads_log.1 ran with ⟨rfl, rfl⟩
        exact ⟨call, [], called.logged.andLogged, by rw [fetched_iff same, succeeded]⟩
      · rcases succeed_ran first with ⟨call, same, called, succeeded⟩
        exact ⟨call, [], called.logged, by rw [fetched_iff same, succeeded]⟩
  | some revision =>
      rw [fetch] at ran
      rcases Act.leads_bind.1 ran with ⟨_, cloned, first, ran⟩ | ⟨ending, first, rfl⟩
      · rcases succeed_ran first with ⟨call, sameClone, clone, cloneSucceeded⟩
        rcases Act.leads_bind.1 ran with ⟨commit, resolved, second, ran⟩ | ⟨ending, second, rfl⟩
        · rcases resolve_ran second with ⟨calls, resolution, resolves⟩
          have fetched_iff {last : Call}
              (same : last.start = git.start (checkoutCommand target commit)) :
              git.Fetched source target (some revision) ((call :: calls) ++ [last]) ↔
                git.succeeds last.behaviour = true := by
            constructor
            · intro fetched
              rw [List.cons_append] at fetched
              generalize whole : calls ++ [last] = others at fetched
              cases fetched with
              | pinned _ _ _ _ succeeded =>
                  rcases List.append_inj' whole rfl with ⟨_, equal⟩
                  cases equal
                  exact succeeded
            · exact .pinned sameClone (cloneSucceeded.1 rfl) resolves same
          rcases Act.leads_bind.1 ran with ⟨_, checked, third, ran⟩ | ⟨ending, third, rfl⟩
          · rcases succeed_ran third with ⟨last, same, checkout, succeeded⟩
            rcases Act.leads_log.1 ran with ⟨rfl, rfl⟩
            exact ⟨call, _, ((clone.trans resolution).trans checkout).andLogged,
              by rw [succeeded]; exact (fetched_iff same).symm⟩
          · rcases succeed_ran third with ⟨last, same, checkout, succeeded⟩
            exact ⟨call, _, (clone.trans resolution).trans checkout,
              by rw [succeeded]; exact (fetched_iff same).symm⟩
        · rcases resolve_ran second with ⟨calls, resolution, unresolved⟩
          refine ⟨call, _, clone.trans resolution.of_error, ?_⟩
          refine iff_of_false (by simp) ?_
          rintro (_ | ⟨_, _, resolves, _, _⟩)
          exact unresolved _ _ resolves (List.prefix_append _ _)
      · rcases succeed_ran first with ⟨call, _, clone, succeeded⟩
        refine ⟨call, [], clone, ?_⟩
        refine iff_of_false (by simp) ?_
        intro fetched
        generalize none : [] = others at fetched
        cases fetched with
        | pinned => cases List.append_ne_nil_of_right_ne_nil _ (List.cons_ne_nil _ _) none.symm

/-! ## Calls that do their part -/

/-- A call does its part: it succeeds, and if it resolves a revision it names a commit. -/
structure Serves (git : Git) (target : Path) (call : Call) : Prop where
  succeeds : git.succeeds call.behaviour = true
  names : ∀ name answer, call.start = git.start (resolveCommand target name) →
    git.answer? call.behaviour = some answer → answer.commit? ≠ none

/-- An action calls git, and returns if each of its calls does its part. -/
def Rests (git : Git) (host : Host) (target : Path) (act : Act α) : Prop :=
  ∀ before outcome after, act.Leads host before outcome after →
    ∃ calls, after.calls = before.calls ++ calls ∧
      ((∀ call ∈ calls, git.Serves target call) → ∃ result, outcome = .ok result)

theorem Ran.calls_eq {calls : List Call} {outcome : Except Ending α}
    (ran : git.Ran source before after calls outcome) : after.calls = before.calls ++ calls := by
  rcases ran.added with ⟨_, _, added⟩
  exact added.calls

section

variable {target : Path}

theorem rests_log (record : Log.Record) : git.Rests host target (Act.log record) := by
  intro before outcome after ran
  rcases Act.leads_log.1 ran with ⟨rfl, rfl⟩
  refine ⟨[], ?_, fun _ => ⟨(), rfl⟩⟩
  rw [List.append_nil, (SameDeeds.logged before host record).calls]

theorem Rests.bind {β : Type} {act : Act α} {next : α → Act β} (first : git.Rests host target act)
    (rest : ∀ a, git.Rests host target (next a)) : git.Rests host target (act >>= next) := by
  intro before outcome after ran
  rcases Act.leads_bind.1 ran with ⟨a, middle, begun, later⟩ | ⟨ending, failed, rfl⟩
  · rcases first _ _ _ begun with ⟨calls, added, _⟩
    rcases rest a _ _ _ later with ⟨others, addedToo, returns⟩
    refine ⟨calls ++ others, by rw [addedToo, added, List.append_assoc], ?_⟩
    intro serve
    exact returns fun call member => serve call (List.mem_append_right calls member)
  · rcases first _ _ _ failed with ⟨calls, added, returns⟩
    refine ⟨calls, added, ?_⟩
    intro serve
    rcases returns serve with ⟨_, equal⟩
    cases equal

theorem rests_succeed (arguments : List String) :
    git.Rests host target (git.succeed source arguments) := by
  intro before outcome after ran
  rcases succeed_ran ran with ⟨call, _, called, succeeded⟩
  refine ⟨[call], called.calls_eq, ?_⟩
  intro serve
  exact ⟨(), succeeded.2 (serve call List.mem_cons_self).succeeds⟩

/-- If the call for the first name does its part, there is a commit. -/
theorem rests_resolve (revision name : String) (others : List String) :
    git.Rests host target (git.resolve source target revision (name :: others)) := by
  intro before outcome after ran
  rw [resolve] at ran
  rcases Act.leads_bind.1 ran with ⟨answer, middle, first, ran⟩ | ⟨ending, first, rfl⟩
  · rcases execute_ran first with ⟨call, same, called, answers⟩
    dsimp only at ran
    split at ran
    · rcases Act.leads_pure.1 ran with ⟨rfl, rfl⟩
      exact ⟨[call], called.calls_eq, fun _ => ⟨_, rfl⟩⟩
    · rename_i nameless
      have none : answer.commit? = none := by rw [Answer.commit?, if_neg nameless]
      rcases resolve_ran ran with ⟨calls, later, _⟩
      refine ⟨_, (called.trans later).calls_eq, ?_⟩
      intro serve
      have names := (serve call List.mem_cons_self).names name answer same
      exact absurd none (names ((answers answer).1 rfl))
  · rcases execute_ran first with ⟨call, _, called, answers⟩
    refine ⟨[call], called.calls_eq, ?_⟩
    intro serve
    have succeeded := (serve call List.mem_cons_self).succeeds
    rw [succeeds, answer?_of_error answers] at succeeded
    cases succeeded

/-- A fetch returns if each of its calls does its part. -/
theorem rests_fetch (revision : Option String) :
    git.Rests host target (git.fetch source target revision) := by
  cases revision with
  | none =>
      rw [fetch]
      apply (rests_log _).bind
      intro _
      apply (rests_succeed _).bind
      intro _
      exact rests_log _
  | some revision =>
      rw [fetch]
      apply (rests_succeed _).bind
      intro _
      apply (rests_resolve revision revision _).bind
      intro commit
      apply (rests_succeed _).bind
      intro _
      exact rests_log _

end

theorem told_of_fetch {target : Path} {revision : Option String} {outcome : Except Ending Unit}
    (ran : (git.fetch source target revision).Leads host before outcome after) :
    after.told = before.told := by
  rcases fetch_ran ran with ⟨call, calls, fetching, _⟩
  rcases fetching.added with ⟨deeds, _, added⟩
  simpa using added.told

end Toolset.Git
