import Toolset.Proofs.Acceptance
import Toolset.Proofs.Agreement
import Toolset.Proofs.Run

/-!
# Sinks are kept apart from runs

What a run does and how it ends is the same for every sink that calls nothing off, however
many sinks it is made of and whatever they do with the events, failures included: it is
what the run does that nobody is told of.
-/

namespace Toolset

open Comparison

/-- The comparison of runs under one host, whose accounts need not fit each other. -/
def Comparison.unheard (host : Host) : Comparison where
  left := host
  right := host
  program := rfl
  tick := rfl
  killing := rfl
  fits := fun _ _ => True

namespace Provisioner

/-- Two sinks that call nothing off are told alike if the accounts still fit each other once
both were told: both leave the run as it is. -/
theorem tellAlike_of_quiet {comparison : Comparison} {first second : Sink} (quiet : first.IsQuiet)
    (other : second.IsQuiet)
    (fits : ∀ {source kind details left right leftAfter rightAfter},
      comparison.Alike left right →
      (tell first source kind details).Leads comparison.left left (.ok ()) leftAfter →
      (tell second source kind details).Leads comparison.right right (.ok ()) rightAfter →
      comparison.fits leftAfter.account rightAfter.account) :
    TellAlike comparison first second := by
  intro source kind details left right alike
  rcases (tell first source kind details).exists_leads comparison.left left with
    ⟨outcome, leftAfter, ran⟩
  rcases (tell second source kind details).exists_leads comparison.right right with
    ⟨ended, rightAfter, ranOther⟩
  rcases tell_of_quiet quiet ran with ⟨rfl, same, _⟩
  rcases tell_of_quiet other ranOther with ⟨rfl, sameOther, _⟩
  refine ⟨.ok (), leftAfter, rightAfter, ran, ranOther, ?_⟩
  exact {
    tree := by rw [same.tree, sameOther.tree, alike.tree]
    time := by rw [same.time, sameOther.time, alike.time]
    readings := by rw [same.readings, sameOther.readings, alike.readings]
    calls := by rw [same.calls, sameOther.calls, alike.calls]
    deeds := by rw [same.deeds, sameOther.deeds, alike.deeds]
    account := fits alike ran ranOther }

/-- A run whose sink calls nothing off ends as the run does that nobody is told of, after
the same programs and deeds, and leaves the same tree. -/
theorem provision_isolated {provisioner : Provisioner} (quiet : provisioner.sink.IsQuiet)
    (spec : Spec) (host : Host) (before : World) :
    ∃ outcome after untold,
      (provisioner.provision spec).Leads host before outcome after ∧
      ((provisioner.toldTo .silent).provision spec).Leads host before outcome untold ∧
      after.calls = untold.calls ∧ after.deeds = untold.deeds ∧ after.tree = untold.tree := by
  have told : TellAlike (.unheard host) provisioner.sink .silent :=
    tellAlike_of_quiet quiet Sink.isQuiet_silent fun _ _ _ => trivial
  have start : (Comparison.unheard host).Alike before before := ⟨rfl, rfl, rfl, rfl, rfl, trivial⟩
  rcases agree_provision provisioner spec told rfl start with
    ⟨outcome, after, untold, ran, ranUntold, alike⟩
  exact ⟨outcome, after, untold, ran, ranUntold, alike.calls, alike.deeds, alike.tree⟩

/-- A provisioner that tells the log, the counts, and two sinks of one's own together, one of
which fails on the end of each step. -/
def observed : Provisioner where
  git := {}
  installer := { command := ["install"] }
  sink := .several [.logger none, .counter, .several [
    .custom "Failing" false fun event =>
      if event.kind = .stepCompleted then .fails ⟨"RuntimeError", "lost"⟩ else .takes,
    .custom "Recorder" true fun _ => .takes]]

theorem isQuiet_observed : observed.sink.IsQuiet := by
  have failing (event : Event) : (if event.kind = .stepCompleted then
      Reaction.fails ⟨"RuntimeError", "lost"⟩ else .takes) ≠ .cancels := by
    split <;> simp
  simp [observed, Sink.isQuiet_several_iff, Sink.isQuiet_custom_iff, Sink.isQuiet_logger,
    Sink.isQuiet_counter, failing]

theorem provision_isolated_observed :
    observed.sink.IsQuiet ∧ ∃ outcome after untold,
      (observed.provision Spec.sample).Leads .quiet {} outcome after ∧
      ((observed.toldTo .silent).provision Spec.sample).Leads .quiet {} outcome untold ∧
      after.calls = untold.calls ∧ after.deeds = untold.deeds ∧ after.tree = untold.tree :=
  ⟨isQuiet_observed, provision_isolated isQuiet_observed Spec.sample .quiet {}⟩

end Provisioner

end Toolset
