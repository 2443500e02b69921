import Toolset.Proofs.Action

/-!
# The history of a world

A world keeps what was done in it: the programs that were started, the deeds,
the events that were told, and the log.  An action only adds to that history.
The deeds of a process follow one of five courses; a process that was started
and never waited for is left alive, and nothing else is started after it.
-/

namespace Toolset

/-! ## What an action adds -/

/-- What was added to the history between two worlds. -/
structure Added (before after : World) (calls : List Call) (deeds : List Deed)
    (told : List Event) : Prop where
  calls : after.calls = before.calls ++ calls
  deeds : after.deeds = before.deeds ++ deeds
  told : after.told = before.told ++ told
  log : before.log <+: after.log

namespace Added

variable {before middle after : World}

theorem refl (world : World) : Added world world [] [] [] :=
  ⟨by simp, by simp, by simp, List.prefix_rfl⟩

theorem trans {calls calls' : List Call} {deeds deeds' : List Deed} {told told' : List Event}
    (first : Added before middle calls deeds told)
    (second : Added middle after calls' deeds' told') :
    Added before after (calls ++ calls') (deeds ++ deeds') (told ++ told') where
  calls := by rw [second.calls, first.calls, List.append_assoc]
  deeds := by rw [second.deeds, first.deeds, List.append_assoc]
  told := by rw [second.told, first.told, List.append_assoc]
  log := first.log.trans second.log

end Added

theorem World.log_logged (world : World) (host : Host) (record : Log.Record) :
    world.log <+: (world.logged host record).log := by
  rw [World.logged]
  split
  · exact List.prefix_append _ _
  · exact List.prefix_rfl

/-- Two worlds in which the same was done: they differ in what was said of it
at most. -/
structure SameDeeds (before after : World) : Prop where
  tree : after.tree = before.tree
  time : after.time = before.time
  readings : after.readings = before.readings
  calls : after.calls = before.calls
  deeds : after.deeds = before.deeds
  log : before.log <+: after.log

namespace SameDeeds

variable {before middle after : World}

theorem refl (world : World) : SameDeeds world world :=
  ⟨rfl, rfl, rfl, rfl, rfl, List.prefix_rfl⟩

theorem trans (first : SameDeeds before middle) (second : SameDeeds middle after) :
    SameDeeds before after where
  tree := second.tree.trans first.tree
  time := second.time.trans first.time
  readings := second.readings.trans first.readings
  calls := second.calls.trans first.calls
  deeds := second.deeds.trans first.deeds
  log := first.log.trans second.log

theorem logged (world : World) (host : Host) (record : Log.Record) :
    SameDeeds world (world.logged host record) := by
  have log := world.log_logged host record
  rw [World.logged] at log ⊢
  split
  · exact ⟨rfl, rfl, rfl, rfl, rfl, List.prefix_append _ _⟩
  · exact refl world

theorem added (same : SameDeeds before after) {told : List Event}
    (events : after.told = before.told ++ told) : Added before after [] [] told :=
  ⟨by simp [same.calls], by simp [same.deeds], events, same.log⟩

theorem silent (same : SameDeeds before after) (unsaid : after.told = before.told) :
    Added before after [] [] [] :=
  same.added (by simp [unsaid])

end SameDeeds

@[simp] theorem World.told_logged (world : World) (host : Host) (record : Log.Record) :
    (world.logged host record).told = world.told := by
  rw [World.logged]
  split <;> rfl

@[simp] theorem World.metrics_logged (world : World) (host : Host) (record : Log.Record) :
    (world.logged host record).metrics = world.metrics := by
  rw [World.logged]
  split <;> rfl

theorem Added.logged (world : World) (host : Host) (record : Log.Record) :
    Added world (world.logged host record) [] [] [] :=
  (SameDeeds.logged world host record).silent (by simp)

/-- The clock is no part of the history. -/
theorem Added.of_ticked {host : Host} {before after : World} {calls : List Call}
    {deeds : List Deed} {told : List Event}
    (added : Added (Act.ticked host before) after calls deeds told) :
    Added before after calls deeds told :=
  ⟨added.calls, added.deeds, added.told, added.log⟩

/-! ## Courses of processes -/

/-- What becomes of a program that is started. -/
inductive Course where
  /-- It does not start. -/
  | refused
  /-- Its end is awaited together with its output. -/
  | collected
  /-- Its end is awaited after its output. -/
  | waited
  /-- Its group is killed, and its end is awaited. -/
  | killed
  /-- It is left alone. -/
  | left
  deriving DecidableEq, Repr

namespace Course

/-- The deeds of a course. -/
def deeds (start : Start) (pid : Nat) : Course → List Deed
  | .refused => [.started start]
  | .collected => [.started start, .running pid, .collected pid]
  | .waited => [.started start, .running pid, .waited pid]
  | .killed => [.started start, .running pid, .killed pid, .waited pid]
  | .left => [.started start, .running pid]

/-- The end of the process is awaited without a kill. -/
def isAwaited : Course → Bool
  | .collected | .waited => true
  | .refused | .killed | .left => false

theorem ne_left_of_isAwaited {course : Course} (awaited : course.isAwaited = true) :
    course ≠ .left := by
  intro left
  rw [left] at awaited
  cases awaited

theorem killed_notMem_deeds {course : Course} (awaited : course.isAwaited = true) (start : Start)
    (pid other : Nat) : .killed other ∉ course.deeds start pid := by
  cases course <;> simp_all [isAwaited, deeds]

end Course

/-- The start that a deed is. -/
def Deed.start? : Deed → Option Start
  | .started start => some start
  | _ => none

/-- The deed is about a process. -/
def Deed.isProcess : Deed → Bool
  | .started _ | .running _ | .collected _ | .killed _ | .waited _ => true
  | .acquired _ | .released _ | .pushed _ _ => false

theorem alive_append_of_none {first : List Deed} (none : alive first = []) (second : List Deed) :
    alive (first ++ second) = alive second := by
  change first.foldl Deed.alive [] = [] at none
  change (first ++ second).foldl Deed.alive [] = second.foldl Deed.alive []
  rw [List.foldl_append, none]

@[simp] theorem alive_course (course : Course) (start : Start) (pid : Nat) :
    alive (course.deeds start pid) = if course = .left then [pid] else [] := by
  cases course <;> simp [alive, Course.deeds, Deed.alive]

theorem Course.isProcess (course : Course) (start : Start) (pid : Nat) :
    ∀ deed ∈ course.deeds start pid, deed.isProcess := by
  cases course <;> simp [Course.deeds, Deed.isProcess]

/-- Deeds that are those of courses, one after another. A process that is left
alone is the last one. -/
inductive Traced : List (Start × Course) → List Deed → Prop where
  | nil : Traced [] []
  | cons {start : Start} {course : Course} {pid : Nat} {rest : List (Start × Course)}
      {deeds : List Deed} :
      (course = .left → rest = []) → Traced rest deeds →
      Traced ((start, course) :: rest) (course.deeds start pid ++ deeds)

namespace Traced

variable {passages later : List (Start × Course)} {deeds laterDeeds : List Deed}

theorem single (start : Start) (course : Course) (pid : Nat) :
    Traced [(start, course)] (course.deeds start pid) := by
  rw [← List.append_nil (course.deeds start pid)]
  exact .cons (fun _ => rfl) .nil

theorem append (first : Traced passages deeds)
    (ended : ∀ passage ∈ passages, passage.2 ≠ .left) (second : Traced later laterDeeds) :
    Traced (passages ++ later) (deeds ++ laterDeeds) := by
  induction first with
  | nil => exact second
  | @cons start course pid rest deeds _ _ ih =>
      rw [List.cons_append, List.append_assoc]
      apply Traced.cons
      · intro left
        exact absurd left (ended (start, course) List.mem_cons_self)
      · exact ih fun passage member => ended passage (List.mem_cons_of_mem _ member)

/-- Such deeds end with those of the last course. -/
theorem of_concat {passage : Start × Course} (trace : Traced (passages ++ [passage]) deeds) :
    ∃ earlier pid, deeds = earlier ++ passage.2.deeds passage.1 pid ∧ Traced passages earlier := by
  induction passages generalizing deeds with
  | nil =>
      cases trace with
      | @cons start course pid _ _ _ rest =>
          cases rest
          exact ⟨[], pid, by simp, .nil⟩
  | cons first others ih =>
      cases trace with
      | @cons start course pid _ _ last rest =>
          rcases ih rest with ⟨earlier, lastPid, rfl, tail⟩
          refine ⟨course.deeds start pid ++ earlier, lastPid, by rw [List.append_assoc], ?_⟩
          apply Traced.cons _ tail
          intro left
          cases List.append_ne_nil_of_right_ne_nil others (List.cons_ne_nil passage []) (last left)

theorem killed_notMem (trace : Traced passages deeds)
    (awaited : ∀ passage ∈ passages, passage.2.isAwaited = true) (pid : Nat) :
    .killed pid ∉ deeds := by
  induction trace with
  | nil => simp
  | @cons start course _ rest deeds _ _ ih =>
      rw [List.forall_mem_cons] at awaited
      rw [List.mem_append]
      rintro (here | there)
      · exact Course.killed_notMem_deeds awaited.1 start _ pid here
      · exact ih awaited.2 there

/-- No process is alive after such deeds, unless one was left alone. -/
theorem alive_eq_nil_iff (trace : Traced passages deeds) :
    alive deeds = [] ↔ ∀ passage ∈ passages, passage.2 ≠ .left := by
  induction trace with
  | nil => simp [alive]
  | @cons start course pid rest deeds last tail ih =>
      by_cases left : course = .left
      -- the only process that may be left alone is the last one
      · have none := last left
        subst none
        cases tail
        simp [left]
      · rw [alive_append_of_none (by simp [left]), ih]
        simp [left]

theorem filterMap_start? (trace : Traced passages deeds) :
    deeds.filterMap Deed.start? = passages.map Prod.fst := by
  induction trace with
  | nil => rfl
  | @cons start course pid rest deeds _ _ ih =>
      rw [List.filterMap_append, ih]
      cases course <;> rfl

theorem isProcess (trace : Traced passages deeds) : ∀ deed ∈ deeds, deed.isProcess := by
  induction trace with
  | nil => simp
  | @cons start course pid rest deeds _ _ ih =>
      intro deed member
      rcases List.mem_append.1 member with here | there
      · exact course.isProcess start pid deed here
      · exact ih deed there

end Traced

end Toolset
