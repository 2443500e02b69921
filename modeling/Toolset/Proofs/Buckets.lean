import Toolset.Proofs.Comparing
import Toolset.Proofs.Samples

/-!
# Buckets of durations

Each duration is kept in the first bucket that holds it, and the buckets are read cumulatively:
each bound shows the number of durations up to it.  The bounds ascend, so a duration that one
of them holds is held by all later ones, and no order of the durations makes a difference.
-/

namespace Toolset

namespace Histogram

theorem ascending_durationBounds : durationBounds.Pairwise (· ≤ ·) := by
  decide +kernel

theorem total_take_bumpAt {index : Nat} {counts : List Nat} (there : index < counts.length)
    (n : Nat) :
    total ((bumpAt index counts).take n) =
      total (counts.take n) + if index < n then 1 else 0 := by
  induction counts generalizing index n with
  | nil => cases there
  | cons first rest ih =>
      cases n with
      | zero => rfl
      | succ n =>
          cases index with
          | zero =>
              change first + 1 + total (rest.take n) = first + total (rest.take n) + 1
              omega
          | succ index =>
              change first + total ((bumpAt index rest).take n) = first + total (rest.take n) + _
              rw [ih (Nat.lt_of_succ_lt_succ there)]
              simp only [Nat.add_lt_add_iff_right]
              omega

theorem le_bound_iff (x : Float) {n : Nat} (there : n < durationBounds.length) :
    x ≤ durationBounds[n] ↔ ∃ index, bucketOf? x = some index ∧ index ≤ n := by
  have first {index : Nat} := @List.findIdx?_eq_some_iff_getElem _ durationBounds
    (fun bound => decide (x ≤ bound)) index
  rw [bucketOf?]
  constructor
  · intro held
    cases found : durationBounds.findIdx? fun bound => decide (x ≤ bound) with
    | none =>
        rw [List.findIdx?_eq_none_iff] at found
        simpa [held] using found _ (List.getElem_mem there)
    | some index =>
        refine ⟨index, rfl, Nat.le_of_not_lt fun after => ?_⟩
        rcases first.1 found with ⟨_, _, before⟩
        simpa [held] using before n after
  · rintro ⟨index, found, before⟩
    rcases first.1 found with ⟨bounded, held, _⟩
    rcases Nat.lt_or_eq_of_le before with before | rfl
    · exact Decimal.le_of_le_of_le (of_decide_eq_true held)
        (List.pairwise_iff_getElem.1 ascending_durationBounds index n bounded there before)
    · exact of_decide_eq_true held

variable {histogram : Histogram}

/-- A duration adds one to what each bound that holds it shows. -/
theorem Proper.total_take_observe (proper : histogram.Proper) (x : Float) {n : Nat}
    (there : n < durationBounds.length) :
    total ((histogram.observe x).buckets.take (n + 1)) =
      total (histogram.buckets.take (n + 1)) + if x ≤ durationBounds[n] then 1 else 0 := by
  rw [Histogram.observe]
  dsimp only
  cases bucket : bucketOf? x with
  | none => simp [le_bound_iff x there, bucket]
  | some index =>
      have bounded : index < histogram.buckets.length := by
        rw [bucketOf?, List.findIdx?_eq_some_iff_getElem] at bucket
        rw [proper]
        exact bucket.1
      simp only [total_take_bumpAt bounded, Nat.lt_succ_iff, le_bound_iff x there, bucket,
        Option.some.injEq, exists_eq_left']

theorem Proper.total_take_observeAll (proper : histogram.Proper) (durations : List Float) {n : Nat}
    (there : n < durationBounds.length) :
    total ((histogram.observeAll durations).buckets.take (n + 1)) =
      total (histogram.buckets.take (n + 1)) +
        durations.countP fun x => decide (x ≤ durationBounds[n]) := by
  induction durations generalizing histogram with
  | nil => rfl
  | cons x rest ih =>
      change total (((histogram.observe x).observeAll rest).buckets.take (n + 1)) = _
      rw [ih (proper.observe x), proper.total_take_observe x there, List.countP_cons]
      simp only [decide_eq_true_eq]
      omega

/-- From nothing on, each bound shows the durations up to it. -/
theorem cumulative_observeAll (durations : List Float) :
    (observeAll {} durations).cumulative =
      durationBounds.map fun bound => durations.countP fun x => decide (x ≤ bound) := by
  have proper := proper_empty.observeAll durations
  have nothing : ∀ n < durationBounds.length,
      total ((({} : Histogram).buckets).take (n + 1)) = 0 := by decide
  apply List.ext_getElem
  · rw [cumulative, List.length_map, List.length_range, List.length_map, proper]
  · intro n _ there
    rw [List.length_map] at there
    simp only [cumulative, List.getElem_map, List.getElem_range,
      proper_empty.total_take_observeAll durations there, nothing n there, Nat.zero_add]

end Histogram

namespace Metrics

theorem nodup_boundLabels : (durationBounds.map boundLabel).Nodup := by
  decide +kernel

variable {metrics : Metrics} {source : String}

/-- A series of a bucket of durations is read off the bounds. -/
theorem mem_histogramSamples_bucket_iff {histogram : Histogram} {upTo : Float → Nat}
    (counted : histogram.cumulative = durationBounds.map upTo) {bound : Float}
    (isBound : bound ∈ durationBounds) {other : String} {value : Float} :
    ⟨"provision_run_duration_seconds_bucket", [("le", boundLabel bound), ("source", source)],
        value⟩ ∈ histogramSamples other histogram ↔
      source = other ∧ value = sampleValue (upTo bound) := by
  have paired : durationBounds.zip histogram.cumulative =
      durationBounds.map fun bound => (bound, upTo bound) := by
    rw [counted, ← List.zip_map', List.map_id']
  have called {bound' : Float} (isBound' : bound' ∈ durationBounds)
      (same : boundLabel bound' = boundLabel bound) : bound' = bound :=
    List.inj_on_of_nodup_map nodup_boundLabels isBound' isBound same
  rw [histogramSamples, paired, List.map_map, List.mem_append]
  constructor
  · rintro (bucket | rest)
    · rcases List.mem_map.1 bucket with ⟨bound', isBound', same⟩
      simp only [Function.comp_apply, Sample.mk.injEq, List.cons.injEq, Prod.mk.injEq, true_and,
        and_true] at same
      rcases same with ⟨⟨sameLabel, rfl⟩, rfl⟩
      rw [called isBound' sameLabel]
      exact ⟨rfl, rfl⟩
    · simp at rest
  · rintro ⟨rfl, rfl⟩
    exact .inl (List.mem_map.2 ⟨bound, isBound, rfl⟩)

/-- A bucket of a source is shown once there are durations, and shows what is counted up to its
bound. -/
theorem sampled_bucket (distinct : metrics.HasDistinctSources) {bound : Float}
    (isBound : bound ∈ durationBounds) {upTo : String → Float → Nat}
    (counted : ∀ entry ∈ metrics.durations,
      entry.2.cumulative = durationBounds.map (upTo entry.1)) (source : String) :
    metrics.sampled "provision_run_duration_seconds_bucket"
        [("le", boundLabel bound), ("source", source)] =
      (metrics.durations.lookup source).map fun _ => sampleValue (upTo source bound) := by
  apply sampled_eq
  intro value
  rw [allSamples_eq]
  simp (disch := decide) only [List.mem_append, notMem_tallySamples, false_or]
  rw [List.mem_flatMap, Option.map_eq_some_iff]
  constructor
  · rintro ⟨⟨other, histogram⟩, member, there⟩
    rcases (mem_histogramSamples_bucket_iff (counted _ member) isBound).1 there with ⟨rfl, rfl⟩
    exact ⟨histogram, (mem_entries_iff distinct).1 member, rfl⟩
  · rintro ⟨histogram, found, rfl⟩
    have member := (mem_entries_iff distinct).2 found
    exact ⟨_, member, (mem_histogramSamples_bucket_iff (counted _ member) isBound).2 ⟨rfl, rfl⟩⟩

end Metrics

end Toolset
