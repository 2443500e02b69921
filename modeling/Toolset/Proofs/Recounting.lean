import Toolset.Proofs.FailFast

/-!
# What is said of the attempts of a run

Among the events of a run there is one for each tool that was installed, in the order of
the attempts; what is said of the source before them says of no tool that it was installed.
-/

namespace Toolset

/-- The tool that a saying says was installed. -/
def Saying.installed? (saying : Saying) : Option String :=
  match saying.kind, field? saying.details "step", field? saying.details "tool_path" with
  | .stepCompleted, some (.text step), some (.text tool) =>
      if step == "install" then some tool else none
  | _, _, _ => none

/-- The tool that an event says was installed. -/
def Event.installed? (event : Event) : Option String := event.saying.installed?

namespace Provisioner

open Workspace (acquire)

variable {provisioner : Provisioner} {spec : Spec} {host : Host} {before after : World}
  {outcome : Except Ending Report}

theorem installed?_sourceSayings (spec : Spec) (fetch : Option (Except Ending Unit)) :
    (sourceSayings spec fetch).filterMap Saying.installed? = [] := by
  cases fetch with
  | none => rfl
  | some ended => cases ended <;> rfl

theorem installed?_attemptSayings (spec : Spec) (attempts : List Attempt) :
    (attempts.flatMap (attemptSayings spec)).filterMap Saying.installed? =
      (attempts.filter Attempt.succeeded).map Attempt.tool := by
  induction attempts with
  | nil => rfl
  | cons attempt rest ih =>
      rw [List.flatMap_cons, List.filterMap_append, ih, List.filter_cons, attemptSayings]
      cases attempt.succeeded <;> rfl

theorem filterMap_installed? (told : List Event) :
    told.filterMap Event.installed? = (told.map Event.saying).filterMap Saying.installed? := by
  rw [List.filterMap_map]
  rfl

theorem Worked.installed {workspace : Workspace} {fetching : List Call} {attempts : List Attempt}
    {told : List Event} {ended : Except Ending Done} (quiet : provisioner.sink.IsQuiet)
    (whole : provisioner.Worked spec host workspace before after fetching attempts told ended) :
    told.filterMap Event.installed? =
      (attempts.filter Attempt.succeeded).map Attempt.tool := by
  rcases whole.said quiet with ⟨fetch, spoken⟩
  rw [filterMap_installed?, spoken, List.filterMap_append, installed?_sourceSayings,
    installed?_attemptSayings, List.nil_append]

/-- What a run did and what is said of that: of the source, if there was work, of each
attempt to install a tool, and of the end. -/
structure Recounted (provisioner : Provisioner) (spec : Spec) (host : Host)
    (before after : World) (outcome : Except Ending Report) (attempts : List Attempt)
    (told : List Event) : Prop where
  inOrder : ∃ fetching, provisioner.InOrder spec host before after outcome fetching attempts
  added : after.told = before.told ++ told
  said : ∃ opening, (opening = [] ∨ ∃ fetch, opening = sourceSayings spec fetch) ∧
    told.map Event.saying =
      opening ++ attempts.flatMap (attemptSayings spec) ++ closingSayings spec outcome

/-- What a run does is told, if its sink calls nothing off. -/
theorem recounted_of_quiet (quiet : provisioner.sink.IsQuiet)
    (ran : (provisioner.provision spec).Leads host before outcome after) :
    ∃ attempts told, provisioner.Recounted spec host before after outcome attempts told := by
  cases provision_went ran with
  | refused refused conclude =>
      rcases conclude_leads conclude with ⟨told, concluded⟩
      rcases conclude_of_quiet quiet conclude with ⟨_, said, added, spoken⟩
      have whole := added_of_refused refused concluded
      rw [concluded.added.told] at added
      cases List.append_cancel_left added
      exact ⟨[], told, ⟨[], inOrder_of_refused refused concluded⟩, whole.told, [], .inl rfl, spoken⟩
  | @worked workspace acquired worked closed done released taken work release conclude =>
      rcases (Workspace.acquire_leads taken).workspace_eq with ⟨_, _, rfl⟩
      rcases work_leads rfl work with ⟨fetching, attempts, told, whole⟩
      rcases conclude_leads conclude with ⟨toldLast, concluded⟩
      rcases conclude_of_quiet quiet conclude with ⟨_, said, added, spoken⟩
      rcases added_of_worked taken whole release concluded with ⟨_, _, all⟩
      rcases whole.said quiet with ⟨fetch, saysWork⟩
      rw [concluded.added.told] at added
      cases List.append_cancel_left added
      refine ⟨attempts, told ++ toldLast,
        ⟨fetching, inOrder_of_worked taken whole release concluded⟩, all.told,
        sourceSayings spec fetch, .inr ⟨fetch, rfl⟩, ?_⟩
      rw [List.map_append, saysWork, spoken]

end Provisioner

end Toolset
