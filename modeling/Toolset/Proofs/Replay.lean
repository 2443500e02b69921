import Toolset.Proofs.Keeping

/-!
# Replaying programs

The work of a run changes the tree in one way only: it starts programs.  So the tree that the
work leaves is the one to which the programs lead when they are started again in the same
order, and what none of them changes is as it was.
-/

namespace Toolset

namespace Host

variable {host : Host} {places : Location → Prop} {number : Nat} {tree : FileTree}
  {starts : List Start}

/-- The tree after a start, by its number. -/
def treeAfter (host : Host) (number : Nat) (start : Start) (tree : FileTree) : FileTree :=
  ((host.program number start tree).settle tree).1

/-- The tree after some starts, one after another, by the number of the first. -/
def replay (host : Host) : Nat → FileTree → List Start → FileTree
  | _, tree, [] => tree
  | number, tree, start :: rest =>
      host.replay (number + 1) (host.treeAfter number start tree) rest

/-- No start among some, one after another, changes what is at certain places. -/
def Spares (host : Host) (places : Location → Prop) : Nat → FileTree → List Start → Prop
  | _, _, [] => True
  | number, tree, start :: rest =>
      (∀ place, places place → (host.treeAfter number start tree).get? place = tree.get? place) ∧
        host.Spares places (number + 1) (host.treeAfter number start tree) rest

theorem replay_append (host : Host) (number : Nat) (tree : FileTree) (first second : List Start) :
    host.replay number tree (first ++ second) =
      host.replay (number + first.length) (host.replay number tree first) second := by
  induction first generalizing number tree with
  | nil => rfl
  | cons start rest ih =>
      rw [List.cons_append, replay, replay, ih, List.length_cons, Nat.add_right_comm, Nat.add_assoc]

theorem get?_replay {place : Location} (spares : host.Spares places number tree starts)
    (spared : places place) : (host.replay number tree starts).get? place = tree.get? place := by
  induction starts generalizing number tree with
  | nil => rfl
  | cons start rest ih => exact (ih spares.2).trans (spares.1 place spared)

theorem spares_of_stays (stays : ∀ number start, host.treeAfter number start tree = tree)
    (places : Location → Prop) (number : Nat) (starts : List Start) :
    host.Spares places number tree starts := by
  induction starts generalizing number with
  | nil => trivial
  | cons start rest ih =>
      rw [Spares, stays]
      exact ⟨fun _ _ => rfl, ih (number + 1)⟩

end Host

/-- Between two worlds some calls were made, and nothing else changed the tree. -/
structure Replayed (host : Host) (before after : World) (calls : List Call) : Prop where
  tree : after.tree = host.replay before.calls.length before.tree (calls.map Call.start)
  calls : after.calls = before.calls ++ calls

namespace Replayed

variable {host : Host} {before middle after : World}

theorem trans {calls later : List Call} (first : Replayed host before middle calls)
    (second : Replayed host middle after later) : Replayed host before after (calls ++ later) where
  tree := by
    rw [second.tree, first.tree, first.calls, List.map_append, Host.replay_append,
      List.length_append, List.length_map]
  calls := by rw [second.calls, first.calls, List.append_assoc]

theorem of_same (same : SameDeeds before after) : Replayed host before after [] :=
  ⟨same.tree, by simp [same.calls]⟩

theorem of_called {start : Start} {behaviour : Behaviour} {course : Course}
    (called : Called host start before after behaviour course) :
    Replayed host before after [⟨start, behaviour⟩] := by
  rcases called.added with ⟨pid, added⟩
  refine ⟨?_, added.calls⟩
  simp only [List.map_cons, List.map_nil, Host.replay, Host.treeAfter, called.settled]

end Replayed

/-! ## Actions that do nothing else -/

/-- Wherever an action leads, it changes the tree by its calls only. -/
def Act.Replays {α : Type} (host : Host) (act : Act α) : Prop :=
  ∀ before outcome after, act.Leads host before outcome after →
    ∃ calls, Replayed host before after calls

theorem Replayed.accompanies (host : Host) (sink : Sink) (source : String) :
    Accompanies host sink source fun before after => ∃ calls, Replayed host before after calls := by
  apply Accompanies.of_sameDeeds
  · intro before after same
    exact ⟨[], .of_same same⟩
  · intro before middle after ⟨calls, first⟩ ⟨later, second⟩
    exact ⟨calls ++ later, first.trans second⟩

/-- The work of a run changes the tree by its calls only. -/
theorem Provisioner.replays_work {host : Host} (provisioner : Provisioner) (spec : Spec)
    (workspace : Workspace) : (provisioner.work spec workspace).Replays host := by
  apply keeps_work (Replayed.accompanies host _ _)
  · intro arguments before outcome after ran
    obtain ⟨behaviour, called, _⟩ := Git.execute_leads ran
    exact ⟨_, .of_called called⟩
  · intro tool directory before outcome after ran
    obtain ⟨behaviour, _, called, _⟩ := Installer.run_leads ran
    exact ⟨_, .of_called called⟩

end Toolset
