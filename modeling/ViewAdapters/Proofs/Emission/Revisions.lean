import ViewAdapters.Proofs.Emission.Completion
import ViewAdapters.Proofs.Emission.Requests

/-!
# Runs with revised emitters

The emitters of a run may be revised by what was reported before. That changes neither which
runs stop nor, if no emitter is revised to another one, what a run leaves.

* `runRevising_eq_files_iff`: a run stops at a file when its directories are not prepared.
* `runRevising_eq_run`: a revision that changes no emitter of the run changes nothing.
-/

namespace ViewAdapters.Emission

variable {revise : Revision} {s : Settings} {files : Files} {vs : List ViewModel}
  {request : List Selector}

theorem runRevising_eq_files_iff {f : FileFault} :
    (runRevising revise s files vs request).result = .error (.files f) ↔
      ∃ emitters, requested s vs request = .ok emitters ∧
        (preparation s files emitters).result = .error f := by
  unfold runRevising preparation
  rcases requested_cases s vs request with ⟨emitters, hRequested, -, -⟩ |
    ⟨fault, hFault, hNoFile, -⟩
  · rw [hRequested]
    dsimp only
    by_cases hDry : s.isDryRun
    · rw [if_pos hDry]
      simp [finish, hDry]
    · rw [if_neg hDry]
      cases hPrepared : (prepareAll s.calls s.root files emitters).result with
      | error fault => simp [hDry, hPrepared]
      | ok _ => simp [finish, hDry, hPrepared]
  · rw [hFault]
    simpa using hNoFile f

theorem runJobs_congr {slots : List (Pair × Slot)}
    (h : ∀ x ∈ slots, ∀ log, revise log x.1.2 = x.1.2) (before : Log) (f : Files) :
    runJobs revise s before f slots = runJobs (fun _ e => e) s before f slots := by
  induction slots generalizing before f with
  | nil => rfl
  | cons x rest ih =>
    obtain ⟨p, slot⟩ := x
    rw [List.forall_mem_cons] at h
    have hRest := ih h.2
    cases slot with
    | job =>
      simp only [runJobs, h.1 before, hRest]
    | excluded => simp only [runJobs, hRest]
    | taken => simp only [runJobs, hRest]

/-- A revision that changes no emitter of the run changes nothing. -/
theorem runRevising_eq_run
    (h : ∀ emitters, requested s vs request = .ok emitters →
      ∀ e ∈ emitters, ∀ log, revise log e = e) :
    runRevising revise s files vs request = run s files vs request := by
  unfold run runRevising
  cases hRequested : requested s vs request with
  | error fault => rfl
  | ok emitters =>
    have hJobs : ∀ before f, runJobs revise s before f (plan [] (pairs emitters vs)) =
        runJobs (fun _ e => e) s before f (plan [] (pairs emitters vs)) := by
      refine runJobs_congr fun x hx => ?_
      have hPair : x.1 ∈ pairs emitters vs := by
        rw [← plan_pairs [] (pairs emitters vs)]
        exact List.mem_map_of_mem hx
      exact h emitters hRequested x.1.2 (mem_pairs.1 hPair).2
    simp only [finish, hJobs]

end ViewAdapters.Emission
