import Toolset.Proofs.Action
import Toolset.Launch

/-!
# Runs that are alike

Two runs are compared step by step.  What is said of a run, to sinks and to the log, is
no part of what is done in it: two worlds are alike if the same was done in both and the
accounts of it fit each other.  Two actions agree if in worlds that are alike they end in
the same way and leave worlds that are alike.  Agreement is kept by every way to compose
actions, so it is proved of a program one function at a time.
-/

namespace Toolset

/-- What is said of a run: the events that were told, those that were recorded, and what was
counted of them. -/
structure Account where
  told : List Event
  heard : List Event
  metrics : Metrics

def World.account (world : World) : Account := ⟨world.told, world.heard, world.metrics⟩

/-- A comparison of runs: the hosts that they run under, whose programs, clocks and process
groups are the same, and how the accounts of the runs have to fit each other. -/
structure Comparison where
  left : Host
  right : Host
  program : left.program = right.program
  tick : left.tick = right.tick
  killing : left.killing = right.killing
  fits : Account → Account → Prop

namespace Comparison

/-- A comparison under which the accounts fit each other in another way. -/
def fitting (comparison : Comparison) (fits : Account → Account → Prop) : Comparison :=
  { comparison with fits }

variable {α β : Type} {comparison : Comparison} {left right : World}

/-- The same was done in two worlds, and what is said of it fits. -/
structure Alike (comparison : Comparison) (left right : World) : Prop where
  tree : left.tree = right.tree
  time : left.time = right.time
  readings : left.readings = right.readings
  calls : left.calls = right.calls
  deeds : left.deeds = right.deeds
  account : comparison.fits left.account right.account

/-- Two actions end in the same way from two worlds, and leave worlds that are alike. -/
def AgreeAt (comparison : Comparison) (left right : World) (first second : Act α) : Prop :=
  ∃ outcome leftAfter rightAfter, first.Leads comparison.left left outcome leftAfter ∧
    second.Leads comparison.right right outcome rightAfter ∧
    comparison.Alike leftAfter rightAfter

/-- Two actions agree wherever two worlds are alike. -/
def Agree (comparison : Comparison) (first second : Act α) : Prop :=
  ∀ ⦃left right : World⦄, comparison.Alike left right → comparison.AgreeAt left right first second

/-- Two actions that agree end in the same way, wherever they lead. -/
theorem Agree.leads {first second : Act α} (agree : comparison.Agree first second)
    (alike : comparison.Alike left right) {outcome : Except Ending α} {leftAfter : World}
    (ran : first.Leads comparison.left left outcome leftAfter) :
    ∃ rightAfter, second.Leads comparison.right right outcome rightAfter ∧
      comparison.Alike leftAfter rightAfter := by
  rcases agree alike with ⟨other, leftWorld, rightAfter, first, second, after⟩
  rcases ran.unique first with ⟨rfl, rfl⟩
  exact ⟨rightAfter, second, after⟩

/-! ## Ways to compose actions -/

theorem agree_pure (a : α) : comparison.Agree (pure a : Act α) (pure a) :=
  fun _ _ alike => ⟨.ok a, _, _, Act.leads_pure.2 ⟨rfl, rfl⟩, Act.leads_pure.2 ⟨rfl, rfl⟩, alike⟩

theorem agree_throw (ending : Ending) : comparison.Agree (throw ending : Act α) (throw ending) :=
  fun _ _ alike =>
    ⟨.error ending, _, _, Act.leads_throw.2 ⟨rfl, rfl⟩, Act.leads_throw.2 ⟨rfl, rfl⟩, alike⟩

theorem agree_resume (ended : Except Ending α) :
    comparison.Agree (Act.resume ended) (Act.resume ended) := by
  cases ended with
  | ok a => exact agree_pure a
  | error ending => exact agree_throw ending

theorem agree_answer (answered : Except SystemError α) :
    comparison.Agree (Act.answer answered) (Act.answer answered) := by
  cases answered with
  | ok a => exact agree_pure a
  | error error => exact agree_throw _

theorem AgreeAt.bind {first second : Act α} {next other : α → Act β}
    (agree : comparison.AgreeAt left right first second)
    (rest : ∀ a, comparison.Agree (next a) (other a)) :
    comparison.AgreeAt left right (first >>= next) (second >>= other) := by
  rcases agree with ⟨outcome, leftMiddle, rightMiddle, ranFirst, ranSecond, middle⟩
  cases outcome with
  | ok a =>
      rcases rest a middle with ⟨outcome, leftAfter, rightAfter, ranNext, ranOther, after⟩
      exact ⟨outcome, leftAfter, rightAfter, (Act.leads_bind_of_ok ranFirst).2 ranNext,
        (Act.leads_bind_of_ok ranSecond).2 ranOther, after⟩
  | error ending =>
      exact ⟨.error ending, leftMiddle, rightMiddle, Act.leads_bind.2 (.inr ⟨_, ranFirst, rfl⟩),
        Act.leads_bind.2 (.inr ⟨_, ranSecond, rfl⟩), middle⟩

theorem Agree.bind {first second : Act α} {next other : α → Act β}
    (agree : comparison.Agree first second) (rest : ∀ a, comparison.Agree (next a) (other a)) :
    comparison.Agree (first >>= next) (second >>= other) :=
  fun _ _ alike => (agree alike).bind rest

theorem Agree.outcome {first second : Act α} (agree : comparison.Agree first second) :
    comparison.Agree first.outcome second.outcome := by
  intro left right alike
  rcases agree alike with ⟨outcome, leftAfter, rightAfter, ranFirst, ranSecond, after⟩
  exact ⟨.ok outcome, leftAfter, rightAfter, Act.leads_outcome ranFirst,
    Act.leads_outcome ranSecond, after⟩

theorem agree_ite {condition : Prop} [Decidable condition] {first second other another : Act α}
    (agree : condition → comparison.Agree first second)
    (otherwise : ¬condition → comparison.Agree other another) :
    comparison.Agree (if condition then first else other)
      (if condition then second else another) := by
  by_cases holds : condition
  · simpa only [if_pos holds] using agree holds
  · simpa only [if_neg holds] using otherwise holds

/-! ## Single steps -/

/-- A record in the log is no part of what is done. -/
theorem Alike.logged (alike : comparison.Alike left right) (leftHost rightHost : Host)
    (first second : Log.Record) :
    comparison.Alike (left.logged leftHost first) (right.logged rightHost second) := by
  have fields (world : World) (host : Host) (record : Log.Record) :
      ∃ log, world.logged host record = { world with log } := by
    rw [World.logged]
    split
    · exact ⟨_, rfl⟩
    · exact ⟨world.log, rfl⟩
  rcases fields left leftHost first with ⟨leftLog, leftEqual⟩
  rcases fields right rightHost second with ⟨rightLog, rightEqual⟩
  rw [leftEqual, rightEqual]
  exact ⟨alike.tree, alike.time, alike.readings, alike.calls, alike.deeds, alike.account⟩

theorem agree_log (first second : Log.Record) :
    comparison.Agree (Act.log first) (Act.log second) :=
  fun _ _ alike => ⟨.ok (), _, _, Act.leads_log.2 ⟨rfl, rfl⟩, Act.leads_log.2 ⟨rfl, rfl⟩,
    alike.logged _ _ first second⟩

theorem Alike.performed (alike : comparison.Alike left right) (deed : Deed) :
    comparison.Alike { left with deeds := left.deeds ++ [deed] }
      { right with deeds := right.deeds ++ [deed] } where
  tree := alike.tree
  time := alike.time
  readings := alike.readings
  calls := alike.calls
  deeds := by rw [alike.deeds]
  account := alike.account

theorem agree_perform (deed : Deed) :
    comparison.Agree (Act.perform deed) (Act.perform deed) :=
  fun _ _ alike => ⟨.ok (), _, _, Act.leads_perform.2 ⟨rfl, rfl⟩, Act.leads_perform.2 ⟨rfl, rfl⟩,
    alike.performed deed⟩

theorem Alike.ticked (alike : comparison.Alike left right) :
    comparison.Alike (Act.ticked comparison.left left) (Act.ticked comparison.right right) where
  tree := alike.tree
  time := by
    simp only [Act.ticked]
    rw [alike.time, alike.readings, comparison.tick]
  readings := congrArg (· + 1) alike.readings
  calls := alike.calls
  deeds := alike.deeds
  account := alike.account

theorem agree_clock : comparison.Agree Act.clock Act.clock := by
  intro left right alike
  refine ⟨.ok left.time, _, _, rfl, ?_, alike.ticked⟩
  rw [alike.time]
  rfl

/-- What looks at two worlds agrees if it agrees for these worlds. -/
theorem agree_get {next other : World → Act α}
    (agree : ∀ left right, comparison.Alike left right →
      comparison.AgreeAt left right (next left) (other right)) :
    comparison.Agree (get >>= next) (get >>= other) :=
  fun left right alike => agree left right alike

theorem agree_setTree (tree : FileTree) :
    comparison.Agree (modify fun world => { world with tree })
      (modify fun world => { world with tree }) :=
  fun _ _ alike => ⟨.ok ⟨⟩, _, _, Act.leads_modify.2 ⟨rfl, rfl⟩, Act.leads_modify.2 ⟨rfl, rfl⟩,
    ⟨rfl, alike.time, alike.readings, alike.calls, alike.deeds, alike.account⟩⟩

/-! ## Starting and killing programs -/

/-- A program that is started does the same, and is started as the same process. -/
theorem agree_launch (start : Start) : comparison.Agree (launch start) (launch start) := by
  intro left right alike
  simp only [AgreeAt, launch, Act.leads_get_bind, Act.leads_read_bind, ← comparison.program,
    ← alike.calls, ← alike.tree]
  generalize (comparison.left.program left.calls.length start left.tree).settle left.tree = settled
  rcases settled with ⟨tree, behaviour⟩
  simp only [Act.leads_set_bind, Act.leads_perform_bind]
  have started : comparison.Alike
      { left with tree, calls := left.calls ++ [⟨start, behaviour⟩],
                  deeds := left.deeds ++ [.started start] }
      { right with tree, calls := left.calls ++ [⟨start, behaviour⟩],
                   deeds := right.deeds ++ [.started start] } :=
    ⟨rfl, alike.time, alike.readings, rfl, by rw [alike.deeds], alike.account⟩
  cases behaviour with
  | refused interruption => exact agree_pure _ started
  | nullCharacter => exact agree_throw _ started
  | runs process =>
      simp only [Act.leads_get_bind, ← alike.deeds]
      rw [← alike.deeds] at started
      exact ((agree_perform _).bind fun _ => agree_pure _) started

theorem agree_kill (pid : Nat) : comparison.Agree (kill pid) (kill pid) := by
  apply (agree_perform _).bind
  intro _ left right alike
  simp only [AgreeAt, Act.leads_read_bind, ← comparison.killing]
  have rest : comparison.Agree
      (do if comparison.left.killing = .denied then Act.log (deniedRecord pid)
          Act.perform (.waited pid))
      (do if comparison.left.killing = .denied then Act.log (deniedRecord pid)
          Act.perform (.waited pid)) := by
    apply agree_ite
    · intro _
      exact (agree_log _ _).bind fun _ => agree_perform _
    · intro _
      exact agree_perform _
  exact rest alike

end Comparison

end Toolset
