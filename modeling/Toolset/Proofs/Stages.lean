import Toolset.Proofs.Fetching
import Toolset.Proofs.Telling

/-!
# The stages of a run

The work of a run is a sequence of errands: calls of git, then calls of the
installer, with events told in between.  A stage is a part of that sequence.
Stages that follow one another make up a stage, and so do telling of an event, a
fetch, and the installation of one tool; what is proved of stages therefore holds
of the whole work.
-/

namespace Toolset

namespace Ending

/-- The ending is a failure of a run. -/
def isFailure : Ending → Bool
  | .failed _ _ => true
  | _ => false

/-- The ending is a failure that the callers of a run are told to expect: the
workspace could not be prepared, the source not be fetched, or a tool not be
installed. -/
def isDocumented : Ending → Bool
  | .failed (.workspace _) _ | .failed (.fetch _ _) _ | .failed (.install _ _) _ => true
  | _ => false

theorem isDocumented_of_not_isFailure {ending : Ending} (none : ending.isFailure = false) :
    ending.isDocumented = false := by
  cases ending <;> first | rfl | cases none

end Ending

/-- An outcome that the callers of a run are told to expect. -/
def Documented {α : Type} (outcome : Except Ending α) : Prop :=
  ∀ ending, outcome = .error ending → ending.isDocumented = true

theorem documented_ok {α : Type} {a : α} : Documented (.ok a) := by
  intro ending equal
  cases equal

theorem documented_error {α : Type} {ending : Ending} :
    Documented (.error ending : Except Ending α) ↔ ending.isDocumented = true := by
  constructor
  · intro documented
    exact documented ending rfl
  · intro documented other equal
    cases equal
    exact documented

/-- The kind of the events that tell of steps. -/
def EventKind.isStep : EventKind → Bool
  | .stepStarted | .stepCompleted => true
  | .error | .completion | .cleanupWarning => false

/-- A call that a run makes, and what it is for. -/
inductive Errand where
  | fetching (call : Call)
  | installing (call : Call)

/-- The call of an errand. -/
def Errand.call : Errand → Call
  | .fetching call => call
  | .installing call => call

namespace Provisioner

variable {α β : Type} {provisioner : Provisioner} {host : Host} {before middle after : World}

/-- The course that the process of an errand takes. -/
def course (provisioner : Provisioner) : Errand → Course
  | .fetching call => provisioner.git.course call.behaviour
  | .installing call => provisioner.installer.course call.behaviour

/-- What escapes from an errand. -/
def escape? (provisioner : Provisioner) : Errand → Option Ending
  | .fetching call => provisioner.git.escape? call.behaviour
  | .installing call => provisioner.installer.escape? call.behaviour

theorem escape?_of_isAwaited {errand : Errand}
    (awaited : (provisioner.course errand).isAwaited = true) :
    provisioner.escape? errand = none := by
  cases errand with
  | fetching call => exact Git.escape?_of_isAwaited awaited
  | installing call => exact Installer.escape?_of_isAwaited awaited

/-- The start of an errand, and the course of its process. -/
def passage (provisioner : Provisioner) (errand : Errand) : Start × Course :=
  (errand.call.start, provisioner.course errand)

/-- Nothing escapes from any errand, and no event makes the sink call the work
off. -/
structure Regular (provisioner : Provisioner) (errands : List Errand) (told : List Event) :
    Prop where
  errands : ∀ errand ∈ errands, provisioner.escape? errand = none
  told : ∀ event ∈ told, provisioner.sink.cancels event = false

theorem regular_append {errands later : List Errand} {told toldLater : List Event} :
    provisioner.Regular (errands ++ later) (told ++ toldLater) ↔
      provisioner.Regular errands told ∧ provisioner.Regular later toldLater := by
  constructor
  · intro regular
    have errands := List.forall_mem_append.1 regular.errands
    have told := List.forall_mem_append.1 regular.told
    exact ⟨⟨errands.1, told.1⟩, ⟨errands.2, told.2⟩⟩
  · rintro ⟨first, second⟩
    exact ⟨List.forall_mem_append.2 ⟨first.errands, second.errands⟩,
      List.forall_mem_append.2 ⟨first.told, second.told⟩⟩

theorem regular_singleton {errand : Errand} :
    provisioner.Regular [errand] [] ↔ provisioner.escape? errand = none := by
  constructor
  · intro regular
    exact regular.errands errand (List.mem_singleton_self errand)
  · intro none
    exact ⟨by simpa using none, by simp⟩

/-- A part of the work of a run: its errands, the events that were told, and how
it ended. -/
structure Stage (provisioner : Provisioner) (before after : World) (errands : List Errand)
    (told : List Event) (outcome : Except Ending α) : Prop where
  added : ∃ deeds, Traced (errands.map provisioner.passage) deeds ∧
    Added before after (errands.map Errand.call) deeds told
  steps : ∀ event ∈ told, event.kind.isStep = true
  /-- A stage that has a value awaits the end of every process. -/
  settled : ∀ a, outcome = .ok a →
    ∀ errand ∈ errands, (provisioner.course errand).isAwaited = true
  /-- Every stage does so before its last errand. -/
  earlier : ∀ errand ∈ errands.dropLast, (provisioner.course errand).isAwaited = true
  /-- What escapes from the last errand is what the stage ends with. -/
  escaped : ∀ ending, errands.getLast?.bind provisioner.escape? = some ending →
    outcome = .error ending
  documented_iff : Documented outcome ↔ provisioner.Regular errands told

namespace Stage

variable {errands later : List Errand} {told toldLater : List Event}

/-- What was done in a stage that ended early does not depend on its value. -/
theorem of_error {ending : Ending}
    (stage : provisioner.Stage before after errands told (.error ending : Except Ending α)) :
    provisioner.Stage before after errands told (.error ending : Except Ending β) where
  added := stage.added
  steps := stage.steps
  settled := by
    intro a equal
    cases equal
  earlier := stage.earlier
  escaped := by
    intro other escapes
    cases stage.escaped other escapes
    rfl
  documented_iff := documented_error.trans (documented_error.symm.trans stage.documented_iff)

theorem of_ok {a : α} {b : β}
    (stage : provisioner.Stage before after errands told (.ok a : Except Ending α)) :
    provisioner.Stage before after errands told (.ok b : Except Ending β) where
  added := stage.added
  steps := stage.steps
  settled := fun _ _ => stage.settled a rfl
  earlier := stage.earlier
  escaped := by
    intro ending escapes
    cases stage.escaped ending escapes
  documented_iff :=
    ⟨fun _ => stage.documented_iff.1 documented_ok, fun _ => documented_ok⟩

theorem regular_of_ok {a : α}
    (stage : provisioner.Stage before after errands told (.ok a : Except Ending α)) :
    provisioner.Regular errands told :=
  stage.documented_iff.1 documented_ok

theorem refl (world : World) (a : α) : provisioner.Stage world world [] [] (.ok a) where
  added := ⟨[], .nil, .refl world⟩
  steps := by simp
  settled := by simp
  earlier := by simp
  escaped := by simp
  documented_iff := ⟨fun _ => ⟨by simp, by simp⟩, fun _ => documented_ok⟩

theorem logged {record : Log.Record} {outcome : Except Ending α}
    (stage : provisioner.Stage (before.logged host record) after errands told outcome) :
    provisioner.Stage before after errands told outcome := by
  rcases stage.added with ⟨deeds, trace, added⟩
  exact ⟨⟨deeds, trace, (Added.logged before host record).trans added⟩, stage.steps,
    stage.settled, stage.earlier, stage.escaped, stage.documented_iff⟩

theorem trans {a : α} {outcome : Except Ending β}
    (first : provisioner.Stage before middle errands told (.ok a : Except Ending α))
    (second : provisioner.Stage middle after later toldLater outcome) :
    provisioner.Stage before after (errands ++ later) (told ++ toldLater) outcome where
  added := by
    rcases first.added with ⟨deeds, trace, added⟩
    rcases second.added with ⟨laterDeeds, laterTrace, laterAdded⟩
    refine ⟨deeds ++ laterDeeds, ?_, ?_⟩
    · rw [List.map_append]
      refine trace.append ?_ laterTrace
      intro passage member
      rcases List.mem_map.1 member with ⟨errand, among, rfl⟩
      exact Course.ne_left_of_isAwaited (first.settled a rfl errand among)
    · rw [List.map_append]
      exact added.trans laterAdded
  steps := List.forall_mem_append.2 ⟨first.steps, second.steps⟩
  settled := by
    intro b equal
    exact List.forall_mem_append.2 ⟨first.settled a rfl, second.settled b equal⟩
  earlier := by
    cases later with
    | nil =>
        rw [List.append_nil]
        exact first.earlier
    | cons errand rest =>
        rw [List.dropLast_append_of_ne_nil (List.cons_ne_nil _ _)]
        exact List.forall_mem_append.2 ⟨first.settled a rfl, second.earlier⟩
  escaped := by
    intro ending escapes
    cases later with
    | nil =>
        rw [List.append_nil] at escapes
        cases first.escaped ending escapes
    | cons errand rest =>
        have last : (errands ++ errand :: rest).getLast? = (errand :: rest).getLast? := by
          simp [List.getLast?_append, List.getLast?_cons]
        rw [last] at escapes
        exact second.escaped ending escapes
  documented_iff := by
    rw [second.documented_iff, regular_append]
    exact ⟨fun regular => ⟨first.regular_of_ok, regular⟩, fun both => both.2⟩

end Stage

/-- Telling of a step is a stage without errands. -/
theorem tell_stage {source : String} {kind : EventKind} {details : List Field}
    {outcome : Except Ending Unit} (step : kind.isStep = true)
    (ran : (tell provisioner.sink source kind details).Leads host before outcome after) :
    provisioner.Stage before after [] [event host before source kind details] outcome := by
  rcases tell_leads ran with ⟨same, told, equal⟩
  refine ⟨⟨[], .nil, same.added told⟩, ?_, by simp, by simp, by simp, ?_⟩
  · intro other member
    rw [List.mem_singleton.1 member]
    exact step
  · rw [equal]
    cases cancelled : provisioner.sink.cancels (event host before source kind details) with
    | true =>
        simp only [↓reduceIte, documented_error]
        constructor
        · intro documented
          cases documented
        · intro regular
          have none := regular.told _ (List.mem_singleton_self _)
          rw [cancelled] at none
          cases none
    | false =>
        simp only [Bool.false_eq_true, ↓reduceIte]
        exact ⟨fun _ => ⟨by simp, by simpa using cancelled⟩, fun _ => documented_ok⟩

theorem Stage.tell {errands : List Errand} {told : List Event} {a : α} {source : String}
    {kind : EventKind} {details : List Field} {outcome : Except Ending Unit}
    (stage : provisioner.Stage before middle errands told (.ok a : Except Ending α))
    (step : kind.isStep = true)
    (ran : (tell provisioner.sink source kind details).Leads host middle outcome after) :
    provisioner.Stage before after errands
      (told ++ [event host middle source kind details]) outcome := by
  have whole := stage.trans (tell_stage step ran)
  rw [List.append_nil] at whole
  exact whole

end Provisioner

end Toolset
