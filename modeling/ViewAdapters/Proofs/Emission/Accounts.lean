import Mathlib.Algebra.BigOperators.Ring.Finset
import ViewAdapters.Proofs.Emission.OutputDirectories

/-!
# Accounts of a run

A summary counts its outcomes by their statuses and by their platforms. Every pair of a
view-model and a requested platform has one outcome, in the order of the plan, and every outcome
has one status. So each count adds up, for a whole run and for each platform.

* `countP_statuses`, `countP_isGenerated`: each outcome has one status.
* `Summary.countFor_statuses`: what is counted for a platform.
* `Summary.sum_generatedFor`: what was generated is counted at one platform each.
* `countP_grid`: each platform has an outcome for each view-model.
* `cells_of_works`: the outcomes of a run are those of the pairs, one for each.
* `accounts_of_completes`: the counts of a run.
-/

namespace ViewAdapters

/-! ## Counting outcomes -/

/-- Each outcome has one of four statuses. -/
theorem countP_statuses (outcomes : List Outcome) :
    outcomes.countP (fun o => o.status = .clean) +
        outcomes.countP (fun o => o.status = .diagnostics) +
        outcomes.countP (fun o => o.status = .failed) +
        outcomes.countP (fun o => o.status = .skipped) = outcomes.length := by
  induction outcomes with
  | nil => rfl
  | cons o rest ih =>
    simp only [List.countP_cons, List.length_cons]
    cases o.status <;> simp only [decide_true, reduceCtorEq, decide_false, if_true,
      Bool.false_eq_true, if_false] <;> omega

theorem Outcome.isGenerated_eq (o : Outcome) :
    o.isGenerated = (decide (o.status = .clean) || decide (o.status = .diagnostics)) := by
  rw [Bool.eq_iff_iff, Bool.or_eq_true, decide_eq_true_iff, decide_eq_true_iff]
  exact o.path?_isSome_iff

/-- What was generated is clean or has diagnostics. -/
theorem countP_isGenerated (outcomes : List Outcome) :
    outcomes.countP (·.isGenerated) =
      outcomes.countP (fun o => o.status = .clean) +
        outcomes.countP (fun o => o.status = .diagnostics) := by
  induction outcomes with
  | nil => rfl
  | cons o rest ih =>
    simp only [List.countP_cons, Outcome.isGenerated_eq]
    simp only [Outcome.isGenerated_eq] at ih
    cases o.status <;> simp only [decide_true, reduceCtorEq, decide_false, Bool.or_false,
      Bool.or_true, if_true, Bool.false_eq_true, if_false] <;> omega

namespace Summary

/-- How many outcomes of a platform have a status. -/
def countFor (s : Summary) (platform : Platform) (status : Status) : Nat :=
  s.outcomes.countP fun o => o.status = status && o.platform = platform

theorem length_failures (s : Summary) : s.failures.length = s.count .failed :=
  List.countP_eq_length_filter.symm

theorem countFor_statuses (s : Summary) (platform : Platform) :
    s.generatedFor platform + s.countFor platform .failed + s.countFor platform .skipped =
      s.outcomes.countP fun o => o.platform = platform := by
  have hStatuses := countP_statuses (s.outcomes.filter fun o => o.platform = platform)
  rw [← countP_isGenerated, ← List.countP_eq_length_filter] at hStatuses
  simp only [List.countP_filter] at hStatuses
  exact hStatuses

theorem generatedFor_eq_count (s : Summary) (platform : Platform) :
    s.generatedFor platform =
      ((s.outcomes.filter (·.isGenerated)).map (·.platform)).count platform := by
  unfold generatedFor
  rw [List.count_eq_countP, List.countP_map, List.countP_filter]
  refine List.countP_congr fun o _ => ?_
  simp [and_comm]

/-- What was generated is counted for one platform of the summary. -/
theorem sum_generatedFor {s : Summary} (hNodup : s.platforms.Nodup)
    (hPlatforms : ∀ o ∈ s.outcomes, o.platform ∈ s.platforms) :
    (s.platforms.map s.generatedFor).sum = s.outcomes.countP (·.isGenerated) := by
  have hMem : ∀ p ∈ ((s.outcomes.filter (·.isGenerated)).map (·.platform) : Multiset Platform),
      p ∈ s.platforms.toFinset := by
    intro p hp
    obtain ⟨o, ho, rfl⟩ := List.mem_map.1 (Multiset.mem_coe.1 hp)
    exact List.mem_toFinset.2 (hPlatforms o (List.mem_of_mem_filter ho))
  have hSum := Multiset.sum_count_eq_card hMem
  rw [List.sum_toFinset _ hNodup, Multiset.coe_card, List.length_map,
    ← List.countP_eq_length_filter] at hSum
  rw [← hSum]
  refine congrArg List.sum (List.map_congr_left fun p _ => ?_)
  rw [generatedFor_eq_count, Multiset.coe_count]

end Summary

namespace Emission

/-! ## The outcomes of all pairs -/

/-- The names of view-models with platforms, view-model by view-model. -/
def grid (vs : List ViewModel) (platforms : List Platform) : List (String × Platform) :=
  vs.flatMap fun v => platforms.map fun p => (v.name, p)

theorem length_grid (vs : List ViewModel) (platforms : List Platform) :
    (grid vs platforms).length = vs.length * platforms.length := by
  simp [grid, List.length_flatMap]

theorem countP_grid {platforms : List Platform} (hNodup : platforms.Nodup) {p : Platform}
    (hp : p ∈ platforms) (vs : List ViewModel) :
    (grid vs platforms).countP (fun x => x.2 = p) = vs.length := by
  have hBlock : ∀ v : ViewModel,
      (platforms.map fun q => (v.name, q)).countP (fun x => x.2 = p) = 1 := by
    intro v
    rw [List.countP_map, ← List.count_eq_one_of_mem hNodup hp, List.count_eq_countP]
    refine List.countP_congr fun q _ => ?_
    simp
  unfold grid
  rw [List.countP_flatMap]
  simp only [Function.comp_def, hBlock]
  simp

theorem mem_of_mem_grid {vs : List ViewModel} {platforms : List Platform}
    {x : String × Platform} (h : x ∈ grid vs platforms) : x.2 ∈ platforms := by
  obtain ⟨v, -, hBlock⟩ := List.mem_flatMap.1 h
  obtain ⟨p, hp, rfl⟩ := List.mem_map.1 hBlock
  exact hp

/-- The outcomes of a run are those of the pairs, one for each. -/
theorem cells_of_works {s : Settings} {start final : Files} {emitters : List Emitter}
    {vs : List ViewModel} {outcomes : List Outcome}
    (h : Works s start (jobsOf (slotsOf emitters vs)) final outcomes) :
    (settle (slotsOf emitters vs) outcomes).map (fun o => (o.viewModel, o.platform)) =
      grid vs (emitters.map (·.platform)) := by
  have hCells : List.Forall₂ (fun x o => (x.1.1.name, x.1.2.platform) = (o.viewModel, o.platform))
      (slotsOf emitters vs) (settle (slotsOf emitters vs) outcomes) := by
    refine (settles_of_works h).imp fun x o hSettles => ?_
    rw [hSettles.names.1, hSettles.names.2]
  have hMap : (slotsOf emitters vs).map (fun x => (x.1.1.name, x.1.2.platform)) =
      (settle (slotsOf emitters vs) outcomes).map (fun o => (o.viewModel, o.platform)) := by
    rw [← List.forall₂_eq_eq_eq, List.forall₂_map_left_iff, List.forall₂_map_right_iff]
    exact hCells
  rw [← hMap]
  have hPairs : (slotsOf emitters vs).map Prod.fst = pairs emitters vs := plan_pairs [] _
  rw [show (fun x : Pair × Slot => (x.1.1.name, x.1.2.platform)) =
    (fun p : Pair => (p.1.name, p.2.platform)) ∘ Prod.fst from rfl, ← List.map_map, hPairs]
  simp [pairs, grid, List.map_flatMap, Function.comp_def]

/-- How the counts of a summary add up. -/
structure Accounts (vs : List ViewModel) (request : List Selector) (summary : Summary) :
    Prop where
  selected : Selector.select request = .ok summary.platforms
  nodup : summary.platforms.Nodup
  viewModels : summary.viewModels = vs.length
  /-- There is one outcome for each pair. -/
  pairs : summary.outcomes.map (fun o => (o.viewModel, o.platform)) = grid vs summary.platforms
  total : summary.count .clean + summary.count .diagnostics + summary.failures.length +
    summary.count .skipped = vs.length * summary.platforms.length
  keys : summary.generated.map Prod.fst = summary.platforms
  generated : (summary.generated.map Prod.snd).sum =
    summary.count .clean + summary.count .diagnostics
  platforms : ∀ x ∈ summary.generated,
    x.2 + summary.countFor x.1 .failed + summary.countFor x.1 .skipped = vs.length
  hasFailures : summary.hasFailures = true ↔ 0 < summary.failures.length

/-- All counts follow from which pairs have outcomes. -/
theorem accounts_of_grid {vs : List ViewModel} {request : List Selector} {summary : Summary}
    (hSelected : Selector.select request = .ok summary.platforms)
    (hNodup : summary.platforms.Nodup) (hViewModels : summary.viewModels = vs.length)
    (hPairs : summary.outcomes.map (fun o => (o.viewModel, o.platform)) =
      grid vs summary.platforms) : Accounts vs request summary := by
  have hLength : summary.outcomes.length = vs.length * summary.platforms.length := by
    rw [← length_grid, ← hPairs, List.length_map]
  have hPlatforms : ∀ o ∈ summary.outcomes, o.platform ∈ summary.platforms := by
    intro o ho
    have hCell := List.mem_map_of_mem (f := fun o : Outcome => (o.viewModel, o.platform)) ho
    rw [hPairs] at hCell
    exact mem_of_mem_grid hCell
  refine ⟨hSelected, hNodup, hViewModels, hPairs, ?_, summary.generated_platforms, ?_, ?_, ?_⟩
  · rw [← hLength, ← countP_statuses summary.outcomes, summary.length_failures]
    rfl
  · have hGenerated := countP_isGenerated summary.outcomes
    rw [← Summary.sum_generatedFor hNodup hPlatforms] at hGenerated
    rw [Summary.generated, List.map_map]
    exact hGenerated
  · intro x hx
    obtain ⟨p, hp, rfl⟩ := List.mem_map.1 hx
    have hPlatform : summary.outcomes.countP (fun o => o.platform = p) = vs.length := by
      rw [← countP_grid hNodup hp vs, ← hPairs, List.countP_map]
      rfl
    rw [← hPlatform]
    exact summary.countFor_statuses p
  · unfold Summary.hasFailures
    rw [List.length_pos_iff]
    simp

/-- Whatever its workers do, a run that returns has one outcome for each view-model on each
requested platform, and its counts add up to these. -/
theorem accounts_of_completes {s : Settings} {files final : Files} {vs : List ViewModel}
    {request : List Selector} {summary : Summary}
    (h : Completes s files vs request final (.ok summary)) : Accounts vs request summary := by
  obtain ⟨emitters, outcomes, hRequest, -, hWorks, rfl⟩ := worked_of_completes h
  obtain ⟨-, hSelected, hNodup, -⟩ := requested_spec hRequest
  exact accounts_of_grid hSelected hNodup rfl (cells_of_works hWorks)

/-- The summary of a run for both platforms, of which one was requested twice. The first of three
view-models with one file name is excluded on Android and owns the name elsewhere. -/
def mixedSummary : Summary :=
  ⟨3, [.ios, .android],
    [⟨"A", .ios, .generated ⟨"", ["out", "all", "AAdapter.swift"]⟩ []⟩,
      ⟨"A", .android, .skipped⟩,
      ⟨"AViewModel", .ios, .failed "AAdapter.swift is already produced by A"⟩,
      ⟨"AViewModel", .android, .generated ⟨"", ["out", "all", "AAdapter.kt"]⟩ []⟩,
      ⟨"A", .ios, .failed "AAdapter.swift is already produced by A"⟩,
      ⟨"A", .android, .failed "AAdapter.kt is already produced by AViewModel"⟩], false⟩

theorem accounts_mixed :
    Completes oneDirectory (Files.empty []) oneName [.platform .ios, .named "both"]
        (run oneDirectory (Files.empty []) oneName [.platform .ios, .named "both"]).files
        (.ok mixedSummary) ∧
      Accounts oneName [.platform .ios, .named "both"] mixedSummary := by
  have hRun : Completes oneDirectory (Files.empty []) oneName [.platform .ios, .named "both"]
      (run oneDirectory (Files.empty []) oneName [.platform .ios, .named "both"]).files
      (.ok mixedSummary) := completes_of_run (by decide +kernel)
  exact ⟨hRun, accounts_of_completes hRun⟩

end Emission
end ViewAdapters
