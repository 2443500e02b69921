import Toolset.FileTree
import Toolset.Proofs.Entries

/-!
# The ways of walks

A walk that arrives somewhere goes step by step: up, down, or along a link.  Each step depends
on the place that it looks at and on no other.  So a walk arrives at the same place in a tree
that is the same where it looks, a directory is found again in a tree that has grown, and a
directory that is made where nothing was is found there.  One more step down arrives below the
directory that was found.
-/

namespace Toolset.FileTree

/-- The place that something was looked for at. -/
def Finding.place : Finding → Location
  | .found place _ => place
  | .free place => place

/-- A name that is a step down. -/
def IsStepDown (name : String) : Prop := name ≠ ".." ∧ name ≠ "."

/-- The place at which a link sets out. -/
def setOut (here : Location) (target : String) : Location :=
  if (Path.ofString target).isAbsolute then [] else here

instance (name : String) : Decidable (IsStepDown name) := inferInstanceAs (Decidable (_ ∧ _))

variable {tree other : FileTree} {follow : Bool} {links : Nat} {here place : Location}
  {name : String} {rest names : List String} {finding : Finding}

/-- The target of a link that does not ask for a directory is walked as it is written. -/
theorem targetNames_eq {target : String} (noSlash : ¬"/".toList <:+ target.toList)
    (noStep : ¬"/.".toList <:+ target.toList) :
    targetNames target = (Path.ofString target).names := by
  have ends (pattern : String) (other : ¬pattern.toList <:+ target.toList) :
      target.endsWith pattern = false := by
    rwa [String.endsWith_eq_endsWith_toSlice, String.Slice.endsWith_string_eq_false_iff,
      String.copy_toSlice]
  rw [targetNames, ends "/" noSlash, ends "/." noStep]
  rfl

/-! ## The steps of a walk -/

theorem walk_up : tree.walk follow links here (".." :: rest) =
    tree.walk follow links here.dropLast rest := by
  rw [walk, if_pos rfl]

theorem walk_stay : tree.walk follow links here ("." :: rest) =
    tree.walk follow links here rest := by
  rw [walk, if_neg (by decide), if_pos rfl]

theorem walk_down {mode : Nat} (down : IsStepDown name) (short : ¬longestName < name.utf8ByteSize)
    (isThere : tree.get? (here ++ [name]) = some (.directory mode)) :
    tree.walk follow links here (name :: rest) = tree.walk follow links (here ++ [name]) rest := by
  rw [walk, if_neg down.1, if_neg down.2, if_neg short]
  simp only [isThere]

theorem walk_follow {target : String} (down : IsStepDown name)
    (short : ¬longestName < name.utf8ByteSize)
    (isThere : tree.get? (here ++ [name]) = some (.link target))
    (goesOn : follow = true ∨ rest ≠ []) :
    tree.walk follow (links + 1) here (name :: rest) =
      tree.walk follow links (setOut here target) (targetNames target ++ rest) := by
  have notLast : (rest.isEmpty && !follow) = false := by
    rcases goesOn with rfl | more
    · simp
    · simp [more]
  rw [walk, if_neg down.1, if_neg down.2, if_neg short]
  simp only [isThere, notLast, Bool.false_eq_true, ↓reduceIte]
  rfl

theorem walk_last (down : IsStepDown name) (short : ¬longestName < name.utf8ByteSize) :
    tree.walk false links here [name] = .ok (match tree.get? (here ++ [name]) with
      | none => .free (here ++ [name])
      | some entry => .found (here ++ [name]) entry) := by
  rw [walk, if_neg down.1, if_neg down.2, if_neg short]
  cases isThere : tree.get? (here ++ [name]) with
  | none => simp [isThere]
  | some entry => cases entry <;> simp [isThere, walk]

/-- A walk arrives at what it finds. -/
inductive Arrives (tree : FileTree) (follow : Bool) :
    Nat → Location → List String → Finding → Prop where
  | stop {links : Nat} {here : Location} {entry : Entry} :
      tree.get? here = some entry → Arrives tree follow links here [] (.found here entry)
  | up {links : Nat} {here : Location} {rest : List String} {finding : Finding} :
      Arrives tree follow links here.dropLast rest finding →
      Arrives tree follow links here (".." :: rest) finding
  | stay {links : Nat} {here : Location} {rest : List String} {finding : Finding} :
      Arrives tree follow links here rest finding →
      Arrives tree follow links here ("." :: rest) finding
  | free {links : Nat} {here : Location} {name : String} :
      IsStepDown name → ¬longestName < name.utf8ByteSize → tree.get? (here ++ [name]) = none →
      Arrives tree follow links here [name] (.free (here ++ [name]))
  | file {links : Nat} {here : Location} {name content : String} {mode : Nat} :
      IsStepDown name → ¬longestName < name.utf8ByteSize →
      tree.get? (here ++ [name]) = some (.file mode content) →
      Arrives tree follow links here [name] (.found (here ++ [name]) (.file mode content))
  | link {links : Nat} {here : Location} {name target : String} :
      IsStepDown name → ¬longestName < name.utf8ByteSize →
      tree.get? (here ++ [name]) = some (.link target) → follow = false →
      Arrives tree follow links here [name] (.found (here ++ [name]) (.link target))
  | down {links : Nat} {here : Location} {name : String} {rest : List String} {mode : Nat}
      {finding : Finding} :
      IsStepDown name → ¬longestName < name.utf8ByteSize →
      tree.get? (here ++ [name]) = some (.directory mode) →
      Arrives tree follow links (here ++ [name]) rest finding →
      Arrives tree follow links here (name :: rest) finding
  | along {links : Nat} {here : Location} {name target : String} {rest : List String}
      {finding : Finding} :
      IsStepDown name → ¬longestName < name.utf8ByteSize →
      tree.get? (here ++ [name]) = some (.link target) → (follow = true ∨ rest ≠ []) →
      Arrives tree follow links (setOut here target) (targetNames target ++ rest) finding →
      Arrives tree follow (links + 1) here (name :: rest) finding

/-- A walk that arrives is a walk that finds. -/
theorem walk_eq_ok_iff :
    tree.walk follow links here names = .ok finding ↔
      tree.Arrives follow links here names finding := by
  constructor
  · intro found
    induction links, here, names using FileTree.walk.induct tree follow with
    | case1 links here entry isThere =>
        simp only [walk, isThere] at found
        cases found
        exact .stop isThere
    | case2 links here isFree => simp [walk, isFree] at found
    | case3 links here rest ih =>
        rw [walk_up] at found
        exact .up (ih found)
    | case4 links here rest notUp ih =>
        rw [walk_stay] at found
        exact .stay (ih found)
    | case5 links here name rest notUp notHere long => simp [walk, notUp, notHere, long] at found
    | case6 links here name rest notUp notHere short there isFree last =>
        have nothing : rest = [] := by simpa using last
        subst nothing
        simp only [there] at isFree
        simp only [walk, notUp, notHere, short, ↓reduceIte, isFree, last] at found
        cases found
        exact .free ⟨notUp, notHere⟩ short isFree
    | case8 links here name rest notUp notHere short there mode isThere ih =>
        rw [walk_down ⟨notUp, notHere⟩ short isThere] at found
        exact .down ⟨notUp, notHere⟩ short isThere (ih found)
    | case9 links here name rest notUp notHere short there mode content isThere last =>
        have nothing : rest = [] := by simpa using last
        subst nothing
        simp only [there] at isThere
        simp only [walk, notUp, notHere, short, ↓reduceIte, isThere, last] at found
        cases found
        exact .file ⟨notUp, notHere⟩ short isThere
    | case11 links here name rest notUp notHere short there target isThere last =>
        rcases Bool.and_eq_true_iff.1 last with ⟨nothing, unfollowed⟩
        have nothing : rest = [] := by simpa using nothing
        subst nothing
        simp only [there] at isThere
        simp only [walk, notUp, notHere, short, ↓reduceIte, isThere, last] at found
        cases found
        exact .link ⟨notUp, notHere⟩ short isThere (by simpa using unfollowed)
    | case13 here name rest notUp notHere short there target isThere last links start ih =>
        have goesOn : follow = true ∨ rest ≠ [] := by
          by_cases some : rest = []
          · exact .inl (by simpa [some] using last)
          · exact .inr some
        rw [walk_follow ⟨notUp, notHere⟩ short isThere goesOn] at found
        exact .along ⟨notUp, notHere⟩ short isThere goesOn (ih found)
    | case7 links here name rest notUp notHere short there isThere last
    | case10 links here name rest notUp notHere short there mode content isThere last
    | case12 here name rest notUp notHere short there target isThere last =>
        simp only [there] at isThere
        simp only [walk, notUp, notHere, short, ↓reduceIte, isThere, last] at found
        cases found
  · intro arrives
    induction arrives with
    | stop isThere => simp only [walk, isThere]
    | up _ ih => rw [walk_up, ih]
    | stay _ ih => rw [walk_stay, ih]
    | free down short isFree => simp [walk, down.1, down.2, short, isFree]
    | file down short isThere => simp [walk, down.1, down.2, short, isThere]
    | link down short isThere unfollowed =>
        simp [walk, down.1, down.2, short, isThere, unfollowed]
    | down down short isThere _ ih => rw [walk_down down short isThere, ih]
    | along down short isThere goesOn _ ih => rw [walk_follow down short isThere goesOn, ih]

theorem Arrives.isThere {entry : Entry}
    (arrives : tree.Arrives follow links here names (.found place entry)) :
    tree.get? place = some entry := by
  generalize found : Finding.found place entry = finding at arrives
  induction arrives with
  | stop isThere | file _ _ isThere | link _ _ isThere _ =>
      cases found
      exact isThere
  | free => cases found
  | up _ ih | stay _ ih | down _ _ _ _ ih | along _ _ _ _ _ ih => exact ih found

/-- A walk that goes on after a directory goes on from there, with the links that are left. -/
theorem Arrives.exists_walk_append {mode : Nat} {more : List String} (goesOn : more ≠ [])
    (arrives : tree.Arrives true links here names (.found place (.directory mode))) :
    ∃ left, ∀ follow, tree.walk follow links here (names ++ more) =
      tree.walk follow left place more := by
  generalize found : Finding.found place (.directory mode) = finding at arrives
  induction arrives with
  | stop _ =>
      cases found
      exact ⟨_, fun _ => rfl⟩
  | up _ ih =>
      obtain ⟨left, same⟩ := ih found
      exact ⟨left, fun follow => by rw [List.cons_append, walk_up, same]⟩
  | stay _ ih =>
      obtain ⟨left, same⟩ := ih found
      exact ⟨left, fun follow => by rw [List.cons_append, walk_stay, same]⟩
  | free | file | link => cases found
  | down step short isThere _ ih =>
      obtain ⟨left, same⟩ := ih found
      exact ⟨left, fun follow => by rw [List.cons_append, walk_down step short isThere, same]⟩
  | along step short isThere _ _ ih =>
      -- a link at the end is followed, for it is not the end any more
      obtain ⟨left, same⟩ := ih found
      refine ⟨left, fun follow => ?_⟩
      rw [List.cons_append, walk_follow step short isThere
        (.inr (List.append_ne_nil_of_right_ne_nil _ goesOn)), ← List.append_assoc, same]

theorem Arrives.walk_concat {mode : Nat} (down : IsStepDown name)
    (arrives : tree.Arrives true links here names (.found place (.directory mode))) :
    tree.walk false links here (names ++ [name]) = tree.walk false 0 place [name] := by
  obtain ⟨left, same⟩ := arrives.exists_walk_append (List.cons_ne_nil name [])
  rw [same]
  by_cases short : longestName < name.utf8ByteSize
  · simp [walk, down.1, down.2, short]
  · rw [walk_last down short, walk_last down short]

/-! ## Looking at places -/

/-- A walk that follows all links looks at a place on its way. -/
inductive LooksAt (tree : FileTree) : Nat → Location → List String → Location → Prop where
  /-- The place where it ends. -/
  | here {links : Nat} {here : Location} : LooksAt tree links here [] here
  | up {links : Nat} {here place : Location} {rest : List String} :
      LooksAt tree links here.dropLast rest place → LooksAt tree links here (".." :: rest) place
  | stay {links : Nat} {here place : Location} {rest : List String} :
      LooksAt tree links here rest place → LooksAt tree links here ("." :: rest) place
  /-- The place to which it steps down. -/
  | step {links : Nat} {here : Location} {name : String} {rest : List String} :
      IsStepDown name → LooksAt tree links here (name :: rest) (here ++ [name])
  | down {links : Nat} {here place : Location} {name : String} {rest : List String} {mode : Nat} :
      IsStepDown name → tree.get? (here ++ [name]) = some (.directory mode) →
      LooksAt tree links (here ++ [name]) rest place → LooksAt tree links here (name :: rest) place
  | follow {links : Nat} {here place : Location} {name target : String} {rest : List String} :
      IsStepDown name → tree.get? (here ++ [name]) = some (.link target) →
      LooksAt tree links (setOut here target) (targetNames target ++ rest) place →
      LooksAt tree (links + 1) here (name :: rest) place

/-- A walk arrives at the same in a tree that is the same where it looks. -/
theorem Arrives.congr (arrives : tree.Arrives true links here names finding)
    (same : ∀ place, tree.LooksAt links here names place → other.get? place = tree.get? place) :
    other.Arrives true links here names finding := by
  induction arrives with
  | stop isThere => exact .stop ((same _ .here).trans isThere)
  | up _ ih => exact .up (ih fun place looks => same place (.up looks))
  | stay _ ih => exact .stay (ih fun place looks => same place (.stay looks))
  | free down short isFree => exact .free down short ((same _ (.step down)).trans isFree)
  | file down short isThere => exact .file down short ((same _ (.step down)).trans isThere)
  | link _ _ _ unfollowed => cases unfollowed
  | down down short isThere _ ih =>
      exact .down down short ((same _ (.step down)).trans isThere)
        (ih fun place looks => same place (.down down isThere looks))
  | along down short isThere goesOn _ ih =>
      exact .along down short ((same _ (.step down)).trans isThere) goesOn
        (ih fun place looks => same place (.follow down isThere looks))

/-- A way that only steps down, and meets no link. -/
structure IsPlain (tree : FileTree) (here : Location) (names : List String) : Prop where
  downward : ∀ name ∈ names, IsStepDown name
  noLink : ∀ above target, above <+: names → tree.get? (here ++ above) ≠ some (.link target)

namespace IsPlain

theorem tail (plain : tree.IsPlain here (name :: rest)) : tree.IsPlain (here ++ [name]) rest where
  downward := fun next member => plain.downward next (List.mem_cons_of_mem name member)
  noLink := by
    intro above target leads
    rw [← List.append_cons]
    exact plain.noLink (name :: above) target (List.cons_prefix_cons.2 ⟨rfl, leads⟩)

theorem ne_up (plain : tree.IsPlain here (".." :: rest)) : False :=
  (plain.downward ".." List.mem_cons_self).1 rfl

theorem ne_stay (plain : tree.IsPlain here ("." :: rest)) : False :=
  (plain.downward "." List.mem_cons_self).2 rfl

theorem ne_link {target : String} (plain : tree.IsPlain here (name :: rest))
    (isThere : tree.get? (here ++ [name]) = some (.link target)) : False :=
  plain.noLink [name] target ⟨rest, rfl⟩ isThere

theorem place_eq (plain : tree.IsPlain here names)
    (arrives : tree.Arrives follow links here names finding) : finding.place = here ++ names := by
  induction arrives with
  | stop _ => simp [Finding.place]
  | up => exact plain.ne_up.elim
  | stay => exact plain.ne_stay.elim
  | free | file => rfl
  | link _ _ isThere _ => exact (plain.ne_link isThere).elim
  | down _ _ _ _ ih => rw [ih plain.tail, ← List.append_cons]
  | along _ _ isThere _ _ => exact (plain.ne_link isThere).elim

/-- On a plain way a walk looks at places along it only. -/
theorem prefix_of_looksAt (plain : tree.IsPlain here names)
    (looks : tree.LooksAt links here names place) : place <+: here ++ names := by
  induction looks with
  | here => exact List.prefix_append _ _
  | up => exact plain.ne_up.elim
  | stay => exact plain.ne_stay.elim
  | step _ => exact (List.prefix_append_right_inj _).2 ⟨_, rfl⟩
  | down _ _ _ ih =>
      rw [List.append_cons]
      exact ih plain.tail
  | follow _ isThere => exact (plain.ne_link isThere).elim

end IsPlain

/-! ## Trees that grow -/

theorem get?_root (tree : FileTree) : tree.get? [] = some (.directory directoryMode) := by
  rw [get?, if_pos rfl]

theorem get?_put_self {entry : Entry} (notRoot : place ≠ []) :
    (tree.put place entry).get? place = some entry := by
  rw [get?, if_neg notRoot, put, List.lookup_cons, beq_self_eq_true]

theorem get?_put_of_ne {there : Location} {entry : Entry} (different : there ≠ place) :
    (tree.put place entry).get? there = tree.get? there := by
  rw [get?, get?]
  split
  · rfl
  · rw [put, List.lookup_cons, beq_false_of_ne different, lookup_filter (· != place),
      if_pos (bne_iff_ne.2 different)]

/-- What is in a tree is in another one as well, directories with another mode at most. -/
structure Grows (tree other : FileTree) : Prop where
  directory : ∀ place mode, tree.get? place = some (.directory mode) →
    ∃ mode, other.get? place = some (.directory mode)
  file : ∀ place mode content, tree.get? place = some (.file mode content) →
    other.get? place = some (.file mode content)
  link : ∀ place target, tree.get? place = some (.link target) →
    other.get? place = some (.link target)

theorem Arrives.of_grows {mode : Nat} (grows : tree.Grows other)
    (arrives : tree.Arrives true links here names (.found place (.directory mode))) :
    ∃ mode, other.Arrives true links here names (.found place (.directory mode)) := by
  generalize found : Finding.found place (.directory mode) = finding at arrives
  induction arrives with
  | stop isThere =>
      cases found
      rcases grows.directory _ _ isThere with ⟨mode, grown⟩
      exact ⟨mode, .stop grown⟩
  | up _ ih => exact (ih found).imp fun _ => .up
  | stay _ ih => exact (ih found).imp fun _ => .stay
  | free | file | link => cases found
  | down down short isThere _ ih =>
      rcases grows.directory _ _ isThere with ⟨_, grown⟩
      exact (ih found).imp fun _ => .down down short grown
  | along down short isThere goesOn _ ih =>
      exact (ih found).imp fun _ => .along down short (grows.link _ _ isThere) goesOn

/-- A walk that ends where nothing is finds the directory that is made there. -/
theorem Arrives.put {mode : Nat} (arrives : tree.Arrives false links here names (.free place)) :
    tree.get? place = none ∧
      (tree.put place (.directory mode)).Arrives true links here names
        (.found place (.directory mode)) := by
  generalize free : Finding.free place = finding at arrives
  -- what the walk steps on is there, so it is not where the directory is made
  have kept {there : Location} {entry : Entry} (nothing : tree.get? place = none)
      (isThere : tree.get? there = some entry) :
      (tree.put place (.directory mode)).get? there = some entry := by
    rw [get?_put_of_ne, isThere]
    rintro rfl
    rw [nothing] at isThere
    cases isThere
  induction arrives with
  | stop | file | link => cases free
  | up _ ih => exact (ih free).imp_right .up
  | stay _ ih => exact (ih free).imp_right .stay
  | @free _ here name down short isFree =>
      cases free
      have made : (tree.put (here ++ [name]) (.directory mode)).get? (here ++ [name]) =
          some (.directory mode) := get?_put_self (by simp)
      exact ⟨isFree, .down down short made (.stop made)⟩
  | down down short isThere _ ih =>
      rcases ih free with ⟨nothing, found⟩
      exact ⟨nothing, .down down short (kept nothing isThere) found⟩
  | along down short isThere _ _ ih =>
      rcases ih free with ⟨nothing, found⟩
      exact ⟨nothing, .along down short (kept nothing isThere) (.inl rfl) found⟩

end Toolset.FileTree
