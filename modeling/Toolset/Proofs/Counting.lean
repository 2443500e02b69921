import Toolset.Metrics
import Toolset.Proofs.Comparing
import Toolset.Proofs.Entries

/-!
# Exact counts

Counting a key once more adds one to its count and leaves all other counts as they are.
The keys of a tally stay distinct, so what a tally lists is what it counts.  A histogram
counts each duration that is a number: the last of its buckets holds whatever no other does.
-/

namespace Toolset

theorem Histogram.total_append (first second : List Nat) :
    total (first ++ second) = total first + total second := by
  induction first with
  | nil => exact (Nat.zero_add _).symm
  | cons n rest ih =>
      change n + total (rest ++ second) = n + total rest + total second
      rw [ih, Nat.add_assoc]

namespace Tally

variable {κ : Type} [DecidableEq κ] {tally : Tally κ}

theorem lookup_isSome (tally : Tally κ) (key : κ) :
    (tally.counts.lookup key).isSome = tally.has key := by
  rw [has]
  induction tally.counts with
  | nil => rfl
  | cons entry rest ih =>
      rcases entry with ⟨other, n⟩
      rw [List.lookup_cons, List.any_cons, ← ih, Bool.beq_comm]
      cases other == key <;> rfl

/-- Counting a key that is there changes nothing but its count. -/
theorem lookup_increment (counts : List (κ × Nat)) (key other : κ) :
    (counts.map fun entry => if entry.1 = key then (key, entry.2 + 1) else entry).lookup other =
      (counts.lookup other).map fun n => if other = key then n + 1 else n := by
  induction counts with
  | nil => rfl
  | cons entry rest ih =>
      rcases entry with ⟨listed, n⟩
      rw [List.map_cons, List.lookup_cons]
      by_cases counted : listed = key
      · subst counted
        rw [if_pos rfl, List.lookup_cons, ih]
        by_cases same : other = listed
        · simp [same]
        · simp [same, beq_false_of_ne same]
      · rw [if_neg counted, List.lookup_cons, ih]
        by_cases same : other = listed
        · simp [same, counted]
        · simp [beq_false_of_ne same]

theorem count_bump (tally : Tally κ) (key other : κ) :
    (tally.bump key).count other = tally.count other + if other = key then 1 else 0 := by
  have there := tally.lookup_isSome key
  rw [count, count, bump]
  cases present : tally.has key with
  | true =>
      rw [present] at there
      rw [if_pos rfl, lookup_increment]
      by_cases same : other = key
      · subst same
        rcases Option.isSome_iff_exists.1 there with ⟨n, found⟩
        simp [found]
      · cases tally.counts.lookup other <;> simp [same]
  | false =>
      rw [present, Option.isSome_eq_false_iff, Option.isNone_iff_eq_none] at there
      rw [if_neg (by simp), List.lookup_append, List.lookup_cons]
      by_cases same : other = key
      · subst same
        simp [there]
      · cases tally.counts.lookup other <;> simp [same, beq_false_of_ne same]

/-- The keys of a tally are distinct, and each was counted. -/
structure Proper (tally : Tally κ) : Prop where
  distinct : (tally.counts.map Prod.fst).Nodup
  counted : ∀ entry ∈ tally.counts, 0 < entry.2

theorem proper_empty {ι : Type} : ({} : Tally ι).Proper :=
  ⟨List.nodup_nil, by simp⟩

theorem keys_bump (tally : Tally κ) (key : κ) :
    (tally.bump key).counts.map Prod.fst =
      if tally.has key then tally.counts.map Prod.fst
      else tally.counts.map Prod.fst ++ [key] := by
  rw [bump]
  split
  · rw [List.map_map]
    apply List.map_congr_left
    intro entry _
    dsimp only [Function.comp]
    split
    · rename_i same
      exact same.symm
    · rfl
  · rw [List.map_append]
    rfl

theorem Proper.bump (proper : tally.Proper) (key : κ) : (tally.bump key).Proper where
  distinct := by
    rw [keys_bump]
    split
    · exact proper.distinct
    · rename_i absent
      rw [List.nodup_append_comm, List.singleton_append, List.nodup_cons]
      refine ⟨?_, proper.distinct⟩
      intro member
      rcases List.mem_map.1 member with ⟨entry, among, same⟩
      exact absent (List.any_eq_true.2 ⟨entry, among, beq_iff_eq.2 same⟩)
  counted := by
    rw [Tally.bump]
    split
    · rw [List.forall_mem_map]
      intro entry member
      split
      · exact Nat.succ_pos _
      · exact proper.counted entry member
    · rw [List.forall_mem_append, List.forall_mem_singleton]
      exact ⟨proper.counted, Nat.one_pos⟩

theorem Proper.mem_counts_iff (proper : tally.Proper) {key : κ} {n : Nat} :
    (key, n) ∈ tally.counts ↔ tally.count key = n ∧ 0 < n := by
  constructor
  · intro member
    refine ⟨?_, proper.counted _ member⟩
    rw [count, (mem_entries_iff proper.distinct).1 member]
    rfl
  · rintro ⟨counted, positive⟩
    rw [mem_entries_iff proper.distinct]
    rw [count] at counted
    cases found : tally.counts.lookup key with
    | none =>
        rw [found] at counted
        subst counted
        exact absurd positive (Nat.lt_irrefl 0)
    | some m =>
        rw [found] at counted
        exact congrArg some counted

/-- The sum of the counts of all keys that pass a test. -/
def total (tally : Tally κ) (passes : κ → Bool) : Nat :=
  Histogram.total ((tally.counts.filter fun entry => passes entry.1).map Prod.snd)

theorem total_cons {ι : Type} (entry : ι × Nat) (counts : List (ι × Nat)) (passes : ι → Bool) :
    total ⟨entry :: counts⟩ passes =
      (if passes entry.1 then entry.2 else 0) + total ⟨counts⟩ passes := by
  rw [total, List.filter_cons]
  cases passes entry.1 with
  | true => rfl
  | false => exact (Nat.zero_add _).symm

/-- Among distinct keys one that is counted once more adds one to the sum. -/
theorem total_increment {counts : List (κ × Nat)} {key : κ} (passes : κ → Bool)
    (distinct : (counts.map Prod.fst).Nodup) (there : key ∈ counts.map Prod.fst) :
    total ⟨counts.map fun entry => if entry.1 = key then (key, entry.2 + 1) else entry⟩ passes =
      total ⟨counts⟩ passes + if passes key then 1 else 0 := by
  induction counts with
  | nil => cases there
  | cons entry rest ih =>
      rcases entry with ⟨listed, n⟩
      rw [List.map_cons, List.nodup_cons] at distinct
      rw [List.map_cons, total_cons, total_cons]
      by_cases same : listed = key
      · subst same
        -- the key is not there a second time
        have others : rest.map (fun entry => if entry.1 = listed then (listed, entry.2 + 1)
            else entry) = rest := by
          refine (List.map_congr_left ?_).trans (List.map_id rest)
          intro entry member
          refine if_neg fun again => ?_
          exact distinct.1 (List.mem_map.2 ⟨entry, member, again⟩)
        rw [others, if_pos rfl]
        cases passes listed with
        | true =>
            simp only [↓reduceIte]
            omega
        | false => simp
      · have further := (List.mem_cons.1 there).resolve_left (Ne.symm same)
        rw [if_neg same, ih distinct.2 further]
        omega

/-- Counting a key adds one to the sum of all keys that pass the same test. -/
theorem Proper.total_bump (proper : tally.Proper) (key : κ) (passes : κ → Bool) :
    (tally.bump key).total passes = tally.total passes + if passes key then 1 else 0 := by
  rw [Tally.bump]
  split
  · rename_i present
    rcases List.any_eq_true.1 present with ⟨entry, member, same⟩
    exact total_increment passes proper.distinct
      (List.mem_map.2 ⟨entry, member, beq_iff_eq.1 same⟩)
  · rw [total, total, List.filter_append, List.map_append, Histogram.total_append]
    congr 1
    cases passing : passes key <;> simp [passing, Histogram.total]

/-! ## Counting several keys -/

/-- Count keys one after another. -/
def bumpAll (tally : Tally κ) (keys : List κ) : Tally κ := keys.foldl bump tally

theorem bumpAll_append (tally : Tally κ) (first second : List κ) :
    tally.bumpAll (first ++ second) = (tally.bumpAll first).bumpAll second :=
  List.foldl_append

theorem count_bumpAll (tally : Tally κ) (keys : List κ) (key : κ) :
    (tally.bumpAll keys).count key = tally.count key + keys.count key := by
  induction keys generalizing tally with
  | nil => rfl
  | cons first rest ih =>
      change ((tally.bump first).bumpAll rest).count key = _
      rw [ih, count_bump, List.count_cons, Bool.beq_comm]
      by_cases same : key = first
      · rw [if_pos same, if_pos (beq_iff_eq.2 same)]
        omega
      · rw [if_neg same, if_neg (by simpa using same)]
        omega

/-- Counting the keys of items counts the items of each key. -/
theorem count_bumpAll_filterMap {α : Type} (tally : Tally κ) (key? : α → Option κ)
    (items : List α) (key : κ) :
    (tally.bumpAll (items.filterMap key?)).count key =
      tally.count key + items.countP fun item => decide (key? item = some key) := by
  rw [count_bumpAll, List.count_filterMap]
  congr 2
  funext item
  exact beq_eq_decide _ _

theorem Proper.bumpAll (proper : tally.Proper) (keys : List κ) : (tally.bumpAll keys).Proper := by
  induction keys generalizing tally with
  | nil => exact proper
  | cons first rest ih => exact ih (proper.bump first)

theorem Proper.total_bumpAll (proper : tally.Proper) (keys : List κ) (passes : κ → Bool) :
    (tally.bumpAll keys).total passes = tally.total passes + keys.countP passes := by
  induction keys generalizing tally with
  | nil => rfl
  | cons first rest ih =>
      change ((tally.bump first).bumpAll rest).total passes = _
      rw [ih (proper.bump first), proper.total_bump, List.countP_cons]
      omega

end Tally

namespace Histogram

/-- There is a bucket for each bound. -/
def Proper (histogram : Histogram) : Prop := histogram.buckets.length = durationBounds.length

theorem proper_empty : ({} : Histogram).Proper := rfl

theorem length_bumpAt (index : Nat) (counts : List Nat) :
    (bumpAt index counts).length = counts.length := by
  induction counts generalizing index with
  | nil => cases index <;> rfl
  | cons n rest ih =>
      cases index with
      | zero => rfl
      | succ index => rw [bumpAt, List.length_cons, List.length_cons, ih]

theorem total_bumpAt {index : Nat} {counts : List Nat} (there : index < counts.length) :
    total (bumpAt index counts) = total counts + 1 := by
  induction counts generalizing index with
  | nil => cases there
  | cons n rest ih =>
      cases index with
      | zero =>
          change n + 1 + total rest = n + total rest + 1
          omega
      | succ index =>
          change n + total (bumpAt index rest) = n + total rest + 1
          rw [ih (Nat.lt_of_succ_lt_succ there)]
          omega

theorem le_infinity_iff (x : Float) : x ≤ Decimal.infinity false ↔ x.isNaN = false := by
  have highest (y : Float.Model.UnpackedFloat) :
      Decimal.rankOf y ≤ Decimal.rankOf (.infinity .positive) := by
    rw [Prod.Lex.le_iff]
    cases y with
    | infinity sign => cases sign <;> decide
    | notANumber => decide
    | zero sign => cases sign <;> decide
    | finite sign =>
        -- the sign comes first, so the other parts do not matter
        cases sign with
        | negative => exact .inl (show (-1 : ℤ) < 2 by decide)
        | positive => exact .inl (show (1 : ℤ) < 2 by decide)
  rw [Decimal.le_iff]
  exact ⟨And.left, fun isNumber => ⟨isNumber, rfl, highest _⟩⟩

theorem not_le_of_isNaN {x : Float} (y : Float) (nan : x.isNaN = true) : ¬x ≤ y := by
  rw [Decimal.le_iff, nan]
  exact fun isNumber => Bool.noConfusion isNumber.1

/-- There is a bucket for each number, and for nothing else. -/
theorem bucketOf?_isSome (x : Float) : (bucketOf? x).isSome = !x.isNaN := by
  rw [bucketOf?, List.findIdx?_isSome]
  cases nan : x.isNaN with
  | true =>
      rw [Bool.not_true, List.any_eq_false]
      intro bound _
      simpa using not_le_of_isNaN bound nan
  | false =>
      have last : Decimal.infinity false ∈ durationBounds := by simp [durationBounds]
      rw [Bool.not_false, List.any_eq_true]
      exact ⟨_, last, decide_eq_true ((le_infinity_iff x).2 nan)⟩

variable {histogram : Histogram}

theorem Proper.observe (proper : histogram.Proper) (x : Float) : (histogram.observe x).Proper := by
  rw [Proper, Histogram.observe]
  dsimp only
  split
  · rw [length_bumpAt]
    exact proper
  · exact proper

theorem Proper.count_observe (proper : histogram.Proper) (x : Float) :
    (histogram.observe x).count = histogram.count + if x.isNaN then 0 else 1 := by
  have held := bucketOf?_isSome x
  rw [count, count, Histogram.observe]
  dsimp only
  cases bucket : bucketOf? x with
  | none =>
      rw [bucket] at held
      cases nan : x.isNaN with
      | true => rfl
      | false =>
          rw [nan] at held
          cases held
  | some index =>
      rw [bucket] at held
      have there : index < histogram.buckets.length := by
        rw [bucketOf?, List.findIdx?_eq_some_iff_getElem] at bucket
        rcases bucket with ⟨bounded, _⟩
        rw [proper]
        exact bounded
      cases nan : x.isNaN with
      | true =>
          rw [nan] at held
          cases held
      | false => exact total_bumpAt there

/-- Add durations one after another. -/
def observeAll (histogram : Histogram) (durations : List Float) : Histogram :=
  durations.foldl observe histogram

theorem Proper.observeAll (proper : histogram.Proper) (durations : List Float) :
    (histogram.observeAll durations).Proper := by
  induction durations generalizing histogram with
  | nil => exact proper
  | cons x rest ih => exact ih (proper.observe x)

/-- Durations add as much to the count as there are numbers among them. -/
theorem Proper.count_observeAll (proper : histogram.Proper) (durations : List Float) :
    (histogram.observeAll durations).count =
      histogram.count + durations.countP fun x => !x.isNaN := by
  induction durations generalizing histogram with
  | nil => rfl
  | cons x rest ih =>
      change ((histogram.observe x).observeAll rest).count = _
      rw [ih (proper.observe x), proper.count_observe, List.countP_cons]
      cases x.isNaN with
      | true => simp
      | false =>
          simp only [Bool.false_eq_true, ↓reduceIte, Bool.not_false]
          omega

theorem count_observeAll_of_numbers {durations : List Float}
    (numbers : ∀ x ∈ durations, x.isNaN = false) :
    (observeAll {} durations).count = durations.length := by
  rw [proper_empty.count_observeAll]
  refine (Nat.zero_add _).trans (List.countP_eq_length.2 fun x member => ?_)
  rw [numbers x member]
  rfl

end Histogram

end Toolset
