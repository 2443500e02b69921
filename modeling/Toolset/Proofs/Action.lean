import Toolset.World

/-!
# Where actions lead

An action is a function on worlds, and it always ends: with a value, or with an
ending of another kind.  `Leads` names both its end and the world that it leaves.
The equivalences below open an action one step at a time, so that later proofs
follow the steps of an action and never look at how actions are encoded.
-/

namespace Toolset

theorem Log.Level.passes_of_le {threshold : Log.Threshold} {low high : Log.Level}
    (passes : low.passes threshold = true) (higher : low.rank ≤ high.rank) :
    high.passes threshold = true := by
  rw [Log.Level.passes, decide_eq_true_eq] at passes ⊢
  exact Nat.le_trans passes higher

/-- The world after a record was logged. -/
def World.logged (world : World) (host : Host) (record : Log.Record) : World :=
  if record.level.passes host.threshold then { world with log := world.log ++ [record] }
  else world

namespace Act

variable {α β : Type} {host : Host} {before after : World}

/-- Under a host, an action leads from one world to an outcome and another
world. -/
def Leads (act : Act α) (host : Host) (before : World) (outcome : Except Ending α)
    (after : World) : Prop :=
  act.outcome host before = .ok outcome after

theorem exists_leads (act : Act α) (host : Host) (before : World) :
    ∃ outcome after, act.Leads host before outcome after := by
  simp only [Leads, outcome]
  cases act host before with
  | ok a world => exact ⟨.ok a, world, rfl⟩
  | error ending world => exact ⟨.error ending, world, rfl⟩

theorem Leads.unique {act : Act α} {first second : Except Ending α} {left right : World}
    (toFirst : act.Leads host before first left) (toSecond : act.Leads host before second right) :
    first = second ∧ left = right := by
  rw [Leads] at toFirst toSecond
  rw [toFirst] at toSecond
  cases toSecond
  exact ⟨rfl, rfl⟩

theorem leads_ok_iff {act : Act α} {a : α} :
    act.Leads host before (.ok a) after ↔ act host before = .ok a after := by
  rw [Leads, outcome]
  cases act host before <;> simp

theorem leads_error_iff {act : Act α} {ending : Ending} :
    act.Leads host before (.error ending) after ↔ act host before = .error ending after := by
  rw [Leads, outcome]
  cases act host before <;> simp

/-- Actions that always lead to the same place are the same. -/
theorem eq_of_leads {first second : Act α}
    (same : ∀ host before outcome after, first.Leads host before outcome after →
      second.Leads host before outcome after) : first = second := by
  funext host before
  rcases first.exists_leads host before with ⟨outcome, after, ran⟩
  have again := same host before outcome after ran
  cases outcome with
  | ok a => rw [leads_ok_iff.1 ran, leads_ok_iff.1 again]
  | error ending => rw [leads_error_iff.1 ran, leads_error_iff.1 again]

/-! ## Single steps -/

@[simp] theorem leads_pure {a : α} {outcome : Except Ending α} :
    (pure a : Act α).Leads host before outcome after ↔ outcome = .ok a ∧ after = before := by
  change EStateM.Result.ok (Except.ok a) before = EStateM.Result.ok outcome after ↔ _
  rw [EStateM.Result.ok.injEq, eq_comm, @eq_comm _ before]

@[simp] theorem leads_throw {ending : Ending} {outcome : Except Ending α} :
    (throw ending : Act α).Leads host before outcome after ↔
      outcome = .error ending ∧ after = before := by
  change EStateM.Result.ok (Except.error ending) before = EStateM.Result.ok outcome after ↔ _
  rw [EStateM.Result.ok.injEq, eq_comm, @eq_comm _ before]

/-- An action followed by another: either the first has a value and the second
goes on from there, or the first ends otherwise and the second never starts. -/
theorem leads_bind {act : Act α} {next : α → Act β} {outcome : Except Ending β} :
    (act >>= next).Leads host before outcome after ↔
      (∃ a middle, act.Leads host before (.ok a) middle ∧
        (next a).Leads host middle outcome after) ∨
      ∃ ending, act.Leads host before (.error ending) after ∧ outcome = .error ending := by
  simp only [leads_ok_iff, leads_error_iff]
  have step : (act >>= next) host before =
      EStateM.bind (act host) (fun a => next a host) before := rfl
  rw [Leads, Act.outcome, step, EStateM.bind]
  cases act host before with
  | ok a world =>
      simp only [EStateM.Result.ok.injEq, reduceCtorEq, false_and, exists_false, or_false]
      constructor
      · intro rest
        exact ⟨a, world, ⟨rfl, rfl⟩, rest⟩
      · rintro ⟨_, _, ⟨rfl, rfl⟩, rest⟩
        exact rest
  | error ending world =>
      simp only [EStateM.Result.ok.injEq, reduceCtorEq, false_and, exists_false,
        EStateM.Result.error.injEq, false_or]
      constructor
      · rintro ⟨rfl, rfl⟩
        exact ⟨ending, ⟨rfl, rfl⟩, rfl⟩
      · rintro ⟨_, ⟨rfl, rfl⟩, rfl⟩
        exact ⟨rfl, rfl⟩

@[simp] theorem leads_throw_bind {ending : Ending} {next : α → Act β} {outcome : Except Ending β} :
    (throw ending >>= next : Act β).Leads host before outcome after ↔
      outcome = .error ending ∧ after = before :=
  leads_throw

theorem leads_bind_of_ok {act : Act α} {next : α → Act β} {outcome : Except Ending β} {a : α}
    {middle : World} (first : act.Leads host before (.ok a) middle) :
    (act >>= next).Leads host before outcome after ↔
      (next a).Leads host middle outcome after := by
  rw [leads_bind]
  constructor
  · rintro (⟨b, world, other, rest⟩ | ⟨ending, other, _⟩)
    · rcases first.unique other with ⟨equal, rfl⟩
      cases equal
      exact rest
    · cases (first.unique other).1
  · intro rest
    exact .inl ⟨a, middle, first, rest⟩

theorem leads_outcome {act : Act α} {ended : Except Ending α}
    (ran : act.Leads host before ended after) :
    act.outcome.Leads host before (.ok ended) after :=
  leads_ok_iff.2 ran

theorem leads_outcome_bind {act : Act α} {next : Except Ending α → Act β}
    {outcome : Except Ending β} :
    (act.outcome >>= next).Leads host before outcome after ↔
      ∃ ended middle, act.Leads host before ended middle ∧
        (next ended).Leads host middle outcome after := by
  rcases act.exists_leads host before with ⟨ended, middle, ran⟩
  rw [leads_bind_of_ok (leads_outcome ran)]
  constructor
  · intro rest
    exact ⟨ended, middle, ran, rest⟩
  · rintro ⟨other, world, again, rest⟩
    rcases ran.unique again with ⟨rfl, rfl⟩
    exact rest

@[simp] theorem leads_get_bind {next : World → Act α} {outcome : Except Ending α} :
    (get >>= next : Act α).Leads host before outcome after ↔
      (next before).Leads host before outcome after := Iff.rfl

@[simp] theorem leads_read_bind {next : Host → Act α} {outcome : Except Ending α} :
    (read >>= next : Act α).Leads host before outcome after ↔
      (next host).Leads host before outcome after := Iff.rfl

@[simp] theorem leads_modify_bind {change : World → World} {next : PUnit → Act α}
    {outcome : Except Ending α} :
    (modify change >>= next : Act α).Leads host before outcome after ↔
      (next ⟨⟩).Leads host (change before) outcome after := Iff.rfl

@[simp] theorem leads_set_bind {world : World} {next : PUnit → Act α}
    {outcome : Except Ending α} :
    (set world >>= next : Act α).Leads host before outcome after ↔
      (next ⟨⟩).Leads host world outcome after := Iff.rfl

@[simp] theorem leads_modify {change : World → World} {outcome : Except Ending PUnit} :
    (modify change : Act PUnit).Leads host before outcome after ↔
      outcome = .ok ⟨⟩ ∧ after = change before := by
  change (pure ⟨⟩ : Act PUnit).Leads host (change before) outcome after ↔ _
  exact leads_pure

@[simp] theorem leads_perform {deed : Deed} {outcome : Except Ending Unit} :
    (perform deed).Leads host before outcome after ↔
      outcome = .ok () ∧ after = { before with deeds := before.deeds ++ [deed] } :=
  leads_modify

@[simp] theorem leads_perform_bind {deed : Deed} {next : Unit → Act α}
    {outcome : Except Ending α} :
    (perform deed >>= next).Leads host before outcome after ↔
      (next ()).Leads host { before with deeds := before.deeds ++ [deed] } outcome after := Iff.rfl

@[simp] theorem leads_log {record : Log.Record} {outcome : Except Ending Unit} :
    (log record).Leads host before outcome after ↔
      outcome = .ok () ∧ after = before.logged host record := by
  rw [log, World.logged]
  rw [leads_read_bind]
  split
  · exact leads_modify
  · exact leads_pure

@[simp] theorem leads_log_bind {record : Log.Record} {next : Unit → Act α}
    {outcome : Except Ending α} :
    (log record >>= next).Leads host before outcome after ↔
      (next ()).Leads host (before.logged host record) outcome after :=
  leads_bind_of_ok (leads_log.2 ⟨rfl, rfl⟩)

/-- The world after the clock was read. -/
def ticked (host : Host) (world : World) : World :=
  { world with
    time := world.time + host.tick world.readings, readings := world.readings + 1 }

@[simp] theorem leads_clock {outcome : Except Ending Float} :
    clock.Leads host before outcome after ↔
      outcome = .ok before.time ∧ after = ticked host before := by
  change EStateM.Result.ok (Except.ok before.time) (ticked host before) =
    EStateM.Result.ok outcome after ↔ _
  rw [EStateM.Result.ok.injEq, eq_comm, @eq_comm _ (ticked host before)]

@[simp] theorem leads_clock_bind {next : Float → Act α} {outcome : Except Ending α} :
    (clock >>= next).Leads host before outcome after ↔
      (next before.time).Leads host (ticked host before) outcome after := Iff.rfl

theorem leads_answer_bind {answered : Except SystemError α} {next : α → Act β}
    {outcome : Except Ending β} :
    (answer answered >>= next).Leads host before outcome after ↔
      (∃ a, answered = .ok a ∧ (next a).Leads host before outcome after) ∨
      ∃ error, answered = .error error ∧ outcome = .error (.system error) ∧ after = before := by
  cases answered with
  | ok a =>
      change (pure a >>= next).Leads host before outcome after ↔ _
      rw [pure_bind]
      simp
  | error error =>
      change (throw (Ending.system error) >>= next).Leads host before outcome after ↔ _
      simp [leads_throw_bind]

end Act

end Toolset
