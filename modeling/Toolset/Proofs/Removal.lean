import Toolset.Proofs.Walks

/-!
# Removing a tree of files

Removing a directory takes away all that is at its place or below it.  A walk that
led to the directory leads nowhere afterwards: it goes as before until it would
step to the place that was removed, and there it ends.  Nothing can be said of the
root, which is never listed; a path whose last name is a step down does not lead
to it.  A removal that breaks off leaves some of all that; it brings nothing into
being, and does not touch what is outside.
-/

namespace Toolset.FileTree

/-! ## What is at a place -/

theorem get?_prune_of_under {tree : FileTree} {place there : Location} (under : place <+: there)
    (notRoot : there ≠ []) : (tree.prune place).get? there = none := by
  rw [get?, if_neg notRoot, prune, lookup_filter fun location => !place.isPrefixOf location]
  rw [List.isPrefixOf_iff_prefix.2 under]
  rfl

theorem get?_prune_of_outside {tree : FileTree} {place there : Location}
    (outside : ¬place <+: there) : (tree.prune place).get? there = tree.get? there := by
  rw [get?, get?]
  split
  · rfl
  · rw [prune, lookup_filter fun location => !place.isPrefixOf location, if_pos]
    rw [Bool.not_eq_true', ← Bool.not_eq_true, List.isPrefixOf_iff_prefix]
    exact outside

theorem get?_thin_of_outside {tree : FileTree} {place there : Location}
    {spared : Location → Bool} (outside : ¬place <+: there) :
    (tree.thin place spared).get? there = tree.get? there := by
  rw [get?, get?]
  split
  · rfl
  · rw [thin, lookup_filter fun location => !place.isPrefixOf location || spared location, if_pos]
    rw [Bool.or_eq_true, Bool.not_eq_true', ← Bool.not_eq_true, List.isPrefixOf_iff_prefix]
    exact .inl outside

/-! ## Where walks arrive -/

theorem getLast?_of_cons {first name : String} {rest : List String}
    (last : (first :: rest).getLast? = some name) (different : first ≠ name) :
    rest.getLast? = some name := by
  cases rest with
  | nil => exact absurd (by simpa using last) different
  | cons second others => rwa [List.getLast?_cons_cons] at last

theorem Arrives.ne_root {tree : FileTree} {links : Nat} {here place : Location} {entry : Entry}
    {names : List String} {name : String}
    (arrives : tree.Arrives false links here names (.found place entry)) (down : IsStepDown name)
    (last : names.getLast? = some name) : place ≠ [] := by
  generalize found : Finding.found place entry = finding at arrives
  induction arrives with
  | stop => cases last
  | up _ ih => exact ih (getLast?_of_cons last down.1.symm) found
  | stay _ ih => exact ih (getLast?_of_cons last down.2.symm) found
  | free => cases found
  | file | link =>
      cases found
      simp
  | @down _ _ _ rest _ _ _ _ _ arrives ih =>
      cases rest with
      | nil =>
          cases arrives
          cases found
          simp
      | cons second others =>
          rw [List.getLast?_cons_cons] at last
          exact ih last found
  | @along _ _ _ _ rest _ _ _ _ goesOn _ ih =>
      cases rest with
      | nil => simp at goesOn
      | cons second others =>
          rw [List.getLast?_cons_cons] at last
          apply ih _ found
          rw [List.getLast?_append, last]
          rfl

/-! ## Walking after a removal -/

/-- Nothing is found, and no name is too long. -/
def IsGone (result : Except Obstacle Finding) : Prop :=
  result = .error .missing ∨ ∃ place, result = .ok (.free place)

/-- A walk that would step to a place where nothing is finds nothing. -/
theorem isGone_walk_of_free {tree : FileTree} {here : Location} {follow : Bool} {links : Nat}
    {name : String} {rest : List String} (down : IsStepDown name)
    (short : ¬longestName < name.utf8ByteSize) (isFree : tree.get? (here ++ [name]) = none) :
    IsGone (tree.walk follow links here (name :: rest)) := by
  rw [walk, if_neg down.1, if_neg down.2, if_neg short]
  simp only [isFree]
  split
  · exact .inr ⟨_, rfl⟩
  · exact .inl rfl

theorem isGone_walk_of_under {tree : FileTree} {place here : Location} {follow : Bool}
    {links : Nat} {name : String} {rest : List String} (down : IsStepDown name)
    (short : ¬longestName < name.utf8ByteSize) (under : place <+: here ++ [name]) :
    IsGone ((tree.prune place).walk follow links here (name :: rest)) :=
  isGone_walk_of_free down short (get?_prune_of_under under (by simp))

/-- Where a walk arrived at a directory before, nothing is found after its removal. -/
theorem Arrives.isGone_walk {tree : FileTree} {place : Location} {mode : Nat} {links : Nat}
    {here : Location} {names : List String}
    (arrives : tree.Arrives false links here names (.found place (.directory mode)))
    (outside : ¬place <+: here) :
    IsGone ((tree.prune place).walk true links here names) := by
  generalize found : Finding.found place (.directory mode) = finding at arrives
  induction arrives with
  | stop =>
      cases found
      exact absurd List.prefix_rfl outside
  | @up _ here _ _ _ ih =>
      rw [walk_up]
      exact ih (fun under => outside (under.trans (List.dropLast_prefix here))) found
  | stay _ ih =>
      rw [walk_stay]
      exact ih outside found
  | free | file | link => cases found
  | @down _ here name _ _ _ down short isThere _ ih =>
      -- either this step leads into what was removed, or it is as it was before
      by_cases under : place <+: here ++ [name]
      · exact isGone_walk_of_under down short under
      · rw [walk_down down short ((get?_prune_of_outside under).trans isThere)]
        exact ih under found
  | @along _ here name target _ _ down short isThere _ _ ih =>
      by_cases under : place <+: here ++ [name]
      · exact isGone_walk_of_under down short under
      · rw [walk_follow down short ((get?_prune_of_outside under).trans isThere) (.inl rfl)]
        apply ih _ found
        -- a link sets out at the root, which is outside unless all was removed
        rw [setOut]
        split
        · intro above
          rw [List.prefix_nil.1 above] at outside
          exact outside List.nil_prefix
        · exact outside

/-! ## Removals that break off -/

theorem get?_thin (tree : FileTree) (place there : Location) (spared : Location → Bool) :
    (tree.thin place spared).get? there = tree.get? there ∨
      (tree.thin place spared).get? there = none := by
  rw [get?, get?]
  split
  · exact .inl rfl
  · rw [thin, lookup_filter fun location => !place.isPrefixOf location || spared location]
    split
    · exact .inl rfl
    · exact .inr rfl

/-- A walk in what is left of a tree goes as in the whole of it, unless it would step to
something that is not left. -/
theorem walk_thin (tree : FileTree) (place : Location) (spared : Location → Bool)
    (follow : Bool) (links : Nat) (here : Location) (names : List String) :
    (tree.thin place spared).walk follow links here names = tree.walk follow links here names ∨
      IsGone ((tree.thin place spared).walk follow links here names) := by
  have sameOrGone (there : Location) := get?_thin tree place there spared
  generalize tree.thin place spared = left at sameOrGone ⊢
  -- a step down is gone, or finds the same entry in both trees
  have steps {links : Nat} {here : Location} {name : String} {rest : List String}
      (down : IsStepDown name) (short : ¬longestName < name.utf8ByteSize)
      (same : left.get? (here ++ [name]) = tree.get? (here ++ [name]) →
        left.walk follow links here (name :: rest) = tree.walk follow links here (name :: rest) ∨
          IsGone (left.walk follow links here (name :: rest))) :
      left.walk follow links here (name :: rest) = tree.walk follow links here (name :: rest) ∨
        IsGone (left.walk follow links here (name :: rest)) := by
    rcases sameOrGone (here ++ [name]) with equal | gone
    · exact same equal
    · exact .inr (isGone_walk_of_free down short gone)
  induction links, here, names using FileTree.walk.induct tree follow with
  | case1 links here entry isThere =>
      rcases sameOrGone here with same | gone
      · exact .inl (by simp only [walk, same])
      · exact .inr (.inl (by simp only [walk, gone]))
  | case2 links here isFree =>
      rcases sameOrGone here with same | gone
      · exact .inl (by simp only [walk, same])
      · exact .inr (.inl (by simp only [walk, gone]))
  | case3 links here rest ih => simpa only [walk, ↓reduceIte] using ih
  | case4 links here rest notUp ih => simpa only [walk, if_neg notUp, ↓reduceIte] using ih
  | case5 links here name rest notUp notHere long =>
      exact .inl (by simp only [walk, notUp, notHere, long, ↓reduceIte])
  | case8 links here name rest notUp notHere short there mode isThere ih =>
      apply steps ⟨notUp, notHere⟩ short
      intro same
      simp only [there] at isThere
      simp only [walk, notUp, notHere, short, ↓reduceIte, same, isThere]
      exact ih
  | case13 here name rest notUp notHere short there target isThere last links start ih =>
      apply steps ⟨notUp, notHere⟩ short
      intro same
      simp only [there] at isThere
      simp only [walk, notUp, notHere, short, ↓reduceIte, same, isThere, last]
      exact ih
  | case6 links here name rest notUp notHere short there isThere last
  | case7 links here name rest notUp notHere short there isThere last
  | case9 links here name rest notUp notHere short there mode content isThere last
  | case10 links here name rest notUp notHere short there mode content isThere last
  | case11 links here name rest notUp notHere short there target isThere last
  | case12 here name rest notUp notHere short there target isThere last =>
      -- the walk ends with this step
      apply steps ⟨notUp, notHere⟩ short
      intro same
      simp only [there] at isThere
      exact .inl (by simp only [walk, notUp, notHere, short, ↓reduceIte, same, isThere, last])

theorem exists?_thin (tree : FileTree) (place : Location) (spared : Location → Bool)
    (path : Path) :
    (tree.thin place spared).exists? path = tree.exists? path ∨
      (tree.thin place spared).exists? path = .ok false := by
  by_cases null : hasNull path = true
  · exact .inr (by simp only [exists?, test, null, ↓reduceIte])
  by_cases long : longestPath < path.toString.utf8ByteSize
  · exact .inl (by simp only [exists?, test, find, null, long, ↓reduceIte])
  simp only [exists?, test, find, null, long, Bool.false_eq_true, ↓reduceIte]
  rcases walk_thin tree place spared true mostLinks [] path.names with
    same | missing | ⟨free, isFree⟩
  · exact .inl (by rw [same])
  · exact .inr (by rw [missing])
  · exact .inr (by rw [isFree])

theorem exists?_breakOff (tree : FileTree) (path : Path) (spared : Location → Bool) :
    (tree.breakOff path spared).exists? path = tree.exists? path ∨
      (tree.breakOff path spared).exists? path = .ok false := by
  rw [breakOff]
  split
  · exact exists?_thin tree _ spared path
  · exact .inl rfl

/-! ## What is at a path -/

/-- A removed tree was a directory, and is pruned. -/
theorem find_of_removeTree {tree after : FileTree} {path : Path}
    (removed : tree.removeTree path = .ok after) :
    ∃ place mode, tree.find false path = .ok (.found place (.directory mode)) ∧
      after = tree.prune place := by
  rw [removeTree] at removed
  split at removed
  · cases removed
    exact ⟨_, _, ‹_›, rfl⟩
  all_goals cases removed

theorem exists?_of_removeTree {tree after : FileTree} {path : Path} {name : String}
    (down : IsStepDown name) (last : path.names.getLast? = some name)
    (removed : tree.removeTree path = .ok after) : after.exists? path = .ok false := by
  rcases find_of_removeTree removed with ⟨place, mode, found, rfl⟩
  rw [exists?, test]
  split
  · rfl
  · rw [find] at found ⊢
    split at found
    · cases found
    · rw [if_neg ‹_›]
      have arrives := walk_eq_ok_iff.1 found
      have notRoot := arrives.ne_root down last
      have gone := arrives.isGone_walk fun under => notRoot (List.prefix_nil.1 under)
      rcases gone with gone | ⟨free, gone⟩ <;> rw [gone]

end Toolset.FileTree
