import Toolset.Proofs.Counting

/-!
# The samples of counts

Counts are read as samples: one number for each series, which goes by a name and labels.
Among the samples of proper counts no series is there twice, so a series shows the count
that it stands for, and a series of a tally is there exactly if something was counted.
-/

namespace Toolset.Metrics

variable {metrics : Metrics} {name source : String} {labels : List (String × String)}

/-- The number that a series shows, if the series is there. -/
def sampled (metrics : Metrics) (name : String) (labels : List (String × String)) :
    Option Float :=
  (metrics.samples.find? fun sample => sample.name == name && sample.labels == labels).map
    Sample.value

/-- What a series shows of a count; nothing is shown before something is counted. -/
def series (n : Nat) : Option Float := if n = 0 then none else some (sampleValue n)

/-- A series shows what all its samples agree on. -/
theorem sampled_eq {shown : Option Float}
    (agree : ∀ value, ⟨name, labels, value⟩ ∈ metrics.allSamples ↔ shown = some value) :
    metrics.sampled name labels = shown := by
  have mem_samples {sample : Sample} : sample ∈ metrics.samples ↔ sample ∈ metrics.allSamples :=
    (List.mergeSort_perm _ _).mem_iff
  rw [sampled]
  cases found : metrics.samples.find?
      fun sample => sample.name == name && sample.labels == labels with
  | some sample =>
      have there := mem_samples.1 (List.mem_of_find?_eq_some found)
      have same := List.find?_some found
      rw [Bool.and_eq_true, beq_iff_eq, beq_iff_eq] at same
      rcases sample with ⟨_, _, value⟩
      rcases same with ⟨rfl, rfl⟩
      exact ((agree value).1 there).symm
  | none =>
      rw [List.find?_eq_none] at found
      cases shown with
      | none => rfl
      | some value =>
          have there := mem_samples.2 ((agree value).2 rfl)
          exact absurd (by simp) (found _ there)

/-- The samples of a tally. -/
def tallySamples {κ : Type} (name : String) (labels : κ → List (String × String))
    (tally : Tally κ) : List Sample :=
  tally.counts.map fun entry => ⟨name, labels entry.1, sampleValue entry.2⟩

def runLabels (key : String × RunResult) : List (String × String) :=
  [("result", key.2.name), ("source", key.1)]

def stepLabels (key : String × String) : List (String × String) :=
  [("source", key.1), ("step", key.2)]

def sourceLabels (source : String) : List (String × String) := [("source", source)]

theorem allSamples_eq (metrics : Metrics) : metrics.allSamples =
    tallySamples "provision_runs_total" runLabels metrics.runs ++
    tallySamples "provision_step_failures_total" stepLabels metrics.stepFailures ++
    tallySamples "provision_tools_installed_total" sourceLabels metrics.toolsInstalled ++
    tallySamples "provision_cleanup_warnings_total" sourceLabels metrics.cleanupWarnings ++
    metrics.durations.flatMap fun (source, histogram) => histogramSamples source histogram := rfl

theorem name_of_mem_tallySamples {κ : Type} {labels : κ → List (String × String)}
    {tally : Tally κ} {sample : Sample} (member : sample ∈ tallySamples name labels tally) :
    sample.name = name := by
  rcases List.mem_map.1 member with ⟨_, _, rfl⟩
  rfl

/-- The names of the series of durations. -/
def durationNames : List String :=
  ["provision_run_duration_seconds_bucket", "provision_run_duration_seconds_count",
   "provision_run_duration_seconds_sum"]

theorem name_of_mem_histogramSamples {histogram : Histogram} {sample : Sample}
    (member : sample ∈ histogramSamples source histogram) : sample.name ∈ durationNames := by
  rw [histogramSamples, List.mem_append] at member
  rcases member with bucket | rest
  · rcases List.mem_map.1 bucket with ⟨_, _, rfl⟩
    simp [durationNames]
  · simp only [List.mem_cons, List.not_mem_nil, or_false] at rest
    rcases rest with rfl | rfl <;> simp [durationNames]

theorem mem_tallySamples_iff {κ : Type} [DecidableEq κ] {labels : κ → List (String × String)}
    {tally : Tally κ} {key : κ} {value : Float} (name : String) (proper : tally.Proper)
    (injective : ∀ other, labels other = labels key → other = key) :
    ⟨name, labels key, value⟩ ∈ tallySamples name labels tally ↔
      series (tally.count key) = some value := by
  rw [tallySamples, List.mem_map, series]
  constructor
  · rintro ⟨⟨other, n⟩, member, same⟩
    rw [Sample.mk.injEq] at same
    rcases same with ⟨_, sameLabels, rfl⟩
    rw [injective other sameLabels] at member
    rcases proper.mem_counts_iff.1 member with ⟨rfl, positive⟩
    rw [if_neg (Nat.pos_iff_ne_zero.1 positive)]
  · intro shown
    split at shown
    · cases shown
    · rename_i counted
      cases shown
      exact ⟨(key, tally.count key), proper.mem_counts_iff.2 ⟨rfl, Nat.pos_of_ne_zero counted⟩, rfl⟩

theorem notMem_tallySamples {κ : Type} {keyLabels : κ → List (String × String)}
    {tally : Tally κ} {other : String} {value : Float} (differs : other ≠ name) :
    ⟨other, labels, value⟩ ∉ tallySamples name keyLabels tally :=
  fun member => differs (name_of_mem_tallySamples member)

theorem notMem_durations {value : Float} (differs : name ∉ durationNames) :
    ⟨name, labels, value⟩ ∉ metrics.durations.flatMap
      fun (source, histogram) => histogramSamples source histogram := by
  intro member
  rcases List.mem_flatMap.1 member with ⟨_, _, there⟩
  exact differs (name_of_mem_histogramSamples there)

theorem sampled_runs (proper : metrics.runs.Proper) (source : String) (result : RunResult) :
    metrics.sampled "provision_runs_total" [("result", result.name), ("source", source)] =
      series (metrics.runs.count (source, result)) := by
  have injective (other : String × RunResult)
      (same : runLabels other = runLabels (source, result)) : other = (source, result) := by
    rcases other with ⟨otherSource, otherResult⟩
    cases otherResult <;> cases result <;> simp_all [runLabels, RunResult.name]
  apply sampled_eq
  intro value
  rw [← mem_tallySamples_iff "provision_runs_total" proper injective, allSamples_eq]
  simp (disch := decide) only [List.mem_append, notMem_tallySamples, notMem_durations, or_false,
    runLabels]

theorem sampled_stepFailures (proper : metrics.stepFailures.Proper) (source step : String) :
    metrics.sampled "provision_step_failures_total" [("source", source), ("step", step)] =
      series (metrics.stepFailures.count (source, step)) := by
  have injective (other : String × String) (same : stepLabels other = stepLabels (source, step)) :
      other = (source, step) := by
    simpa [stepLabels, Prod.ext_iff] using same
  apply sampled_eq
  intro value
  rw [← mem_tallySamples_iff "provision_step_failures_total" proper injective,
    allSamples_eq]
  simp (disch := decide) only [List.mem_append, notMem_tallySamples, notMem_durations, or_false,
    false_or, stepLabels]

theorem sourceLabels_injective (source other : String)
    (same : sourceLabels other = sourceLabels source) : other = source := by
  simpa [sourceLabels] using same

theorem sampled_toolsInstalled (proper : metrics.toolsInstalled.Proper) (source : String) :
    metrics.sampled "provision_tools_installed_total" [("source", source)] =
      series (metrics.toolsInstalled.count source) := by
  apply sampled_eq
  intro value
  rw [← mem_tallySamples_iff "provision_tools_installed_total" proper
    (sourceLabels_injective source), allSamples_eq]
  simp (disch := decide) only [List.mem_append, notMem_tallySamples, notMem_durations, or_false,
    false_or, sourceLabels]

theorem sampled_cleanupWarnings (proper : metrics.cleanupWarnings.Proper) (source : String) :
    metrics.sampled "provision_cleanup_warnings_total" [("source", source)] =
      series (metrics.cleanupWarnings.count source) := by
  apply sampled_eq
  intro value
  rw [← mem_tallySamples_iff "provision_cleanup_warnings_total" proper
    (sourceLabels_injective source), allSamples_eq]
  simp (disch := decide) only [List.mem_append, notMem_tallySamples, notMem_durations, or_false,
    false_or, sourceLabels]

/-- Each series of a source shows what is counted for it. -/
structure Shown (metrics : Metrics) (source : String) : Prop where
  runs : ∀ result : RunResult,
    metrics.sampled "provision_runs_total" [("result", result.name), ("source", source)] =
      series (metrics.runs.count (source, result))
  stepFailures : ∀ step,
    metrics.sampled "provision_step_failures_total" [("source", source), ("step", step)] =
      series (metrics.stepFailures.count (source, step))
  toolsInstalled : metrics.sampled "provision_tools_installed_total" [("source", source)] =
    series (metrics.toolsInstalled.count source)
  cleanupWarnings : metrics.sampled "provision_cleanup_warnings_total" [("source", source)] =
    series (metrics.cleanupWarnings.count source)

/-- Each source has durations once. -/
def HasDistinctSources (metrics : Metrics) : Prop := (metrics.durations.map Prod.fst).Nodup

theorem hasDistinctSources_empty : ({} : Metrics).HasDistinctSources := List.nodup_nil

theorem HasDistinctSources.recordDuration (distinct : metrics.HasDistinctSources)
    (source : String) (x : Float) : (metrics.recordDuration source x).HasDistinctSources := by
  rw [HasDistinctSources, Metrics.recordDuration]
  dsimp only
  rw [List.map_append, List.nodup_append_comm]
  refine List.nodup_cons.2 ⟨?_, distinct.sublist (List.filter_sublist.map _)⟩
  intro member
  rcases List.mem_map.1 member with ⟨entry, among, same⟩
  exact bne_iff_ne.1 (List.mem_filter.1 among).2 same

/-- The number of durations of a source is shown once there are durations. -/
theorem sampled_durationCount (distinct : metrics.HasDistinctSources) (source : String) :
    metrics.sampled "provision_run_duration_seconds_count" [("source", source)] =
      (metrics.durations.lookup source).map fun histogram => sampleValue histogram.count := by
  apply sampled_eq
  intro value
  have counted (other : String) (histogram : Histogram) :
      ⟨"provision_run_duration_seconds_count", [("source", source)], value⟩ ∈
        histogramSamples other histogram ↔
      source = other ∧ value = sampleValue histogram.count := by
    simp [histogramSamples]
  rw [allSamples_eq]
  simp (disch := decide) only [List.mem_append, notMem_tallySamples, false_or]
  rw [List.mem_flatMap, Option.map_eq_some_iff]
  constructor
  · rintro ⟨⟨other, histogram⟩, member, there⟩
    rcases (counted other histogram).1 there with ⟨rfl, rfl⟩
    exact ⟨histogram, (mem_entries_iff distinct).1 member, rfl⟩
  · rintro ⟨histogram, found, rfl⟩
    exact ⟨(source, histogram), (mem_entries_iff distinct).2 found,
      (counted source histogram).2 ⟨rfl, rfl⟩⟩

end Toolset.Metrics
