import ViewAdapters.Proofs.Emission.Outcomes
import ViewAdapters.Report

/-!
# Dry runs

What a dry run says of the real run with the same settings, files and view-models. The two
ask for the same emitters and have the same slots. A dry run makes the adapters as the real
one does and leaves out what touches the files, so it cannot know of a write that fails. In all
else the two reports are the same.

* `settle_dry`, `files_of_worksDry`: what a dry run reports is settled by its slots alone, and
  it leaves the files as they are.
* `foretells_runJob`: one job in both runs.
* `predicts_of_completes`: a real run that returns is predicted by every dry run.
-/

namespace ViewAdapters

/-! ## Reports that differ in one field -/

/-- Two objects with the same names of fields, whose values differ at one name only. -/
def Json.DifferOnlyAt (name : String) : Json → Json → Prop
  | .object fields, .object others =>
    List.Forall₂ (fun x y => x.1 = y.1 ∧ (x.1 ≠ name → x.2 = y.2)) fields others
  | _, _ => False

theorem Summary.json_differOnlyAt (s : Summary) (isDryRun : Bool) :
    Json.DifferOnlyAt "dry_run" s.json { s with isDryRun := isDryRun }.json := by
  have hSame : ∀ x : String × Json, x.1 = x.1 ∧ (x.1 ≠ "dry_run" → x.2 = x.2) :=
    fun x => ⟨rfl, fun _ => rfl⟩
  have hDry : ∀ x y : Json, "dry_run" = "dry_run" ∧ ("dry_run" ≠ "dry_run" → x = y) :=
    fun x y => ⟨rfl, fun h => absurd rfl h⟩
  exact .cons (hSame _) <| .cons (hSame _) <| .cons (hSame _) <| .cons (hSame _) <|
    .cons (hSame _) <| .cons (hSame _) <| .cons (hSame _) <| .cons (hDry _ _) <|
    .cons (hSame _) .nil

namespace Emission

/-- The same settings for a dry run. -/
def Settings.dry (s : Settings) : Settings := { s with isDryRun := true }

/-! ## What a dry run does -/

/-- What a dry run reports of a pair with its slot. -/
def forecast (s : Settings) (p : Pair) : Slot → Outcome
  | .excluded => ⟨p.1.name, p.2.platform, .skipped⟩
  | .taken fileName owner => ⟨p.1.name, p.2.platform, .failed (takenMessage fileName owner)⟩
  | .job =>
    match p.2.generate p.1 with
    | .error error => ⟨p.1.name, p.2.platform, .failed error⟩
    | .ok adapter => ⟨p.1.name, p.2.platform, .generated (p.path s.root) adapter.diagnostics⟩

theorem forecast_dry (s : Settings) : forecast s.dry = forecast s := by
  funext p slot
  cases slot <;> rfl

theorem outcome_of_dry {s : Settings} (hDry : s.isDryRun = true) (f : Files) (p : Pair) :
    (runJob s f p).outcome = forecast s p .job := by
  rw [runJob_eq_endJob, forecast]
  cases p.2.generate p.1 with
  | error error => rfl
  | ok adapter => simp [endJob, writeJob, writeAdapter, hDry]

theorem forecast_of_settles {s : Settings} (hDry : s.isDryRun = true) {start : Files}
    {jobs : List Pair} {p : Pair} {slot : Slot} {o : Outcome}
    (h : Settles s start jobs p slot o) : o = forecast s p slot := by
  cases h with
  | excluded => rfl
  | taken fileName owner => rfl
  | @job pool hReach hSame => exact outcome_of_dry hDry pool.files p

section Works

variable {s : Settings} {start final : Files} {slots : List (Pair × Slot)}
  {outcomes : List Outcome}

theorem settle_dry (hDry : s.isDryRun = true)
    (h : Works s start (jobsOf slots) final outcomes) :
    settle slots outcomes = slots.map fun x => forecast s x.1 x.2 := by
  have hAll := (settles_of_works h).imp fun x o hSettles => forecast_of_settles hDry hSettles
  have hMap : List.Forall₂ (fun o x => o = forecast s x.1 x.2) (settle slots outcomes) slots :=
    hAll.flip
  rw [← List.forall₂_eq_eq_eq, List.forall₂_map_right_iff]
  exact hMap

theorem files_of_worksDry (hDry : s.isDryRun = true) {jobs : List Pair}
    (h : Works s start jobs final outcomes) : final = start := by
  refine Files.ext_get (sound_of_steps h).directories.1.workingPlace fun q => ?_
  rcases works_get h q with ⟨hSame, -⟩ | ⟨p, -, content, hWrites, -⟩
  · exact hSame
  · rw [hWrites.notDry] at hDry
    contradiction

end Works

/-! ## One pair in both runs -/

/-- A job makes an adapter that is not written, because the system refuses it or the text has no
bytes, with the files as they can be when the job ends. -/
structure WriteFails (s : Settings) (start : Files) (jobs : List Pair) (p : Pair)
    (adapter : Generated) (fault : WriteFault) : Prop where
  job : p ∈ jobs
  made : p.2.generate p.1 = .ok adapter
  refused : ∃ pool, Steps s jobs (Pool.submitted start jobs) pool ∧
    (pool.files.writeText (p.path s.root) adapter.text).2 = some fault

/-- What a real run reports of a pair, and what the dry run has reported of it. -/
inductive Foretells (s : Settings) (start : Files) (jobs : List Pair) :
    Outcome → Outcome → Prop where
  | same (o : Outcome) : Foretells s start jobs o o
  | unwritten (p : Pair) (adapter : Generated) (fault : WriteFault)
      (h : WriteFails s start jobs p adapter fault) :
      Foretells s start jobs ⟨p.1.name, p.2.platform, .failed fault.message⟩
        ⟨p.1.name, p.2.platform, .generated (p.path s.root) adapter.diagnostics⟩

theorem foretells_runJob {s : Settings} {start : Files} {jobs : List Pair} {p : Pair}
    {pool : Pool} (hJob : p ∈ jobs) (hReach : Steps s jobs (Pool.submitted start jobs) pool) :
    Foretells s start jobs (runJob s pool.files p).outcome (forecast s p .job) := by
  cases hMade : p.2.generate p.1 with
  | error error =>
    have hForecast : forecast s p .job = ⟨p.1.name, p.2.platform, .failed error⟩ := by
      simp only [forecast, hMade]
    rw [outcome_of_generate_error s pool.files hMade, hForecast]
    exact .same _
  | ok adapter =>
    have hForecast : forecast s p .job =
        ⟨p.1.name, p.2.platform, .generated (p.path s.root) adapter.diagnostics⟩ := by
      simp only [forecast, hMade]
    rw [hForecast]
    rcases outcome_of_generate_ok s pool.files hMade with hOutcome | ⟨fault, hWrite, hOutcome⟩
    · rw [hOutcome]
      exact .same _
    · rw [hOutcome]
      exact .unwritten p adapter fault ⟨hJob, hMade, pool, hReach, hWrite⟩

theorem foretells_of_works {s : Settings} {start final : Files} {slots : List (Pair × Slot)}
    {outcomes : List Outcome} (h : Works s start (jobsOf slots) final outcomes) :
    List.Forall₂ (Foretells s start (jobsOf slots)) (settle slots outcomes)
      (slots.map fun x => forecast s x.1 x.2) := by
  rw [List.forall₂_map_right_iff]
  refine List.Forall₂.flip (settle_forall₂
    (R := fun p slot o => Foretells s start (jobsOf slots) o (forecast s p slot))
    (fun p => .same _) (fun p fileName owner => .same _) ?_)
  refine (ended_of_works h).imp ?_
  rintro p o ⟨hJob, earlier, hReach, -, rfl⟩
  exact foretells_runJob hJob hReach

/-! ## Both runs -/

/-- The summary of a dry run beside that of the real run for the same emitters. -/
structure Predicts (s : Settings) (files : Files) (vs : List ViewModel) (emitters : List Emitter)
    (real dry : Summary) : Prop where
  viewModels : dry.viewModels = real.viewModels
  platforms : dry.platforms = real.platforms
  outcomes : List.Forall₂
    (Foretells s (preparation s files emitters).files (jobsOf (slotsOf emitters vs)))
    real.outcomes dry.outcomes
  /-- Where no write has failed, only the mark of the dry run tells the two apart. -/
  exact : (∀ p adapter fault,
      WriteFails s (preparation s files emitters).files (jobsOf (slotsOf emitters vs)) p adapter
        fault → ⟨p.1.name, p.2.platform, .failed fault.message⟩ ∉ real.outcomes) →
    dry = { real with isDryRun := true } ∧ Json.DifferOnlyAt "dry_run" real.json dry.json

theorem eq_of_foretells {s : Settings} {start : Files} {jobs : List Pair}
    {real dry : List Outcome} (h : List.Forall₂ (Foretells s start jobs) real dry)
    (hWritten : ∀ p adapter fault, WriteFails s start jobs p adapter fault →
      ⟨p.1.name, p.2.platform, .failed fault.message⟩ ∉ real) : dry = real := by
  induction h with
  | nil => rfl
  | @cons o o' rest rest' hFirst _ ih =>
    have hRest : rest' = rest := ih fun p adapter fault hFails hMem =>
      hWritten p adapter fault hFails (List.mem_cons_of_mem _ hMem)
    cases hFirst with
    | same => rw [hRest]
    | unwritten p adapter fault hFails => exact absurd (by simp) (hWritten p adapter fault hFails)

/-- If a run returns, the dry run with the same settings returns as well, leaves the files as they
were and reports the same, except where the real run could not write what it had made. -/
theorem predicts_of_completes {s : Settings} {files final : Files} {vs : List ViewModel}
    {request : List Selector} {real : Summary}
    (h : Completes s files vs request final (.ok real)) :
    (∃ dry, (run s.dry files vs request).result = .ok dry) ∧
      ∀ final' result, Completes s.dry files vs request final' result →
        final' = files ∧ ∃ dry emitters, result = .ok dry ∧
          requested s vs request = .ok emitters ∧ Predicts s files vs emitters real dry := by
  obtain ⟨emitters, outcomes, hRequest, -, hWorks, rfl⟩ := worked_of_completes h
  have hRequest' : requested s.dry vs request = .ok emitters := hRequest
  refine ⟨?_, fun final' result h' => ?_⟩
  · rcases run_of_requested files hRequest' with ⟨fault, hFault, -, -⟩ | ⟨-, -, hResult⟩
    · contradiction
    · exact ⟨_, hResult⟩
  cases h' with
  | refused hFault =>
    rw [hRequest'] at hFault
    contradiction
  | unprepared _ hFault => contradiction
  | worked hEmitters _ hDryWorks =>
    cases hRequest'.symm.trans hEmitters
    have hSettled := settle_dry (s := s.dry) rfl hDryWorks
    rw [forecast_dry] at hSettled
    have hForetold := foretells_of_works hWorks
    rw [← hSettled] at hForetold
    refine ⟨files_of_worksDry rfl hDryWorks, _, emitters, rfl, hRequest, rfl, rfl, hForetold,
      fun hWritten => ?_⟩
    have hSame := eq_of_foretells hForetold hWritten
    rw [hSame]
    exact ⟨rfl, Summary.json_differOnlyAt _ true⟩

/-- A name with a slash leads to a directory that is not there. -/
def unwritable : List ViewModel := [bare "A", bare "no/such"]

/-- The summary of a run in which the second adapter could not be written. -/
def unwritableSummary : Summary :=
  ⟨2, [.android], [⟨"A", .android, .generated ⟨"", ["out", "android", "AAdapter.kt"]⟩ []⟩,
    ⟨"no/such", .android, .failed
      "[Errno 2] No such file or directory: 'out/android/no/suchAdapter.kt'"⟩], false⟩

/-- The dry run reports an adapter that the real run fails to write. -/
theorem predicts_unwritable :
    Completes twoWorkers (Files.empty []) unwritable [.platform .android]
        (run twoWorkers (Files.empty []) unwritable [.platform .android]).files
        (.ok unwritableSummary) ∧
      ∃ dry emitters, (run twoWorkers.dry (Files.empty []) unwritable [.platform .android]).result =
          .ok dry ∧
        dry.outcomes[1]? = some ⟨"no/such", .android,
          .generated ⟨"", ["out", "android", "no", "suchAdapter.kt"]⟩ []⟩ ∧
        Predicts twoWorkers (Files.empty []) unwritable emitters unwritableSummary dry := by
  have hRun : Completes twoWorkers (Files.empty []) unwritable [.platform .android]
      (run twoWorkers (Files.empty []) unwritable [.platform .android]).files
      (.ok unwritableSummary) := completes_of_run (by decide +kernel)
  obtain ⟨-, hDry⟩ := predicts_of_completes hRun
  obtain ⟨-, dry, emitters, hResult, -, hPredicts⟩ := hDry _ _ (completes_run _ _ _ _)
  have hSecond : ((run twoWorkers.dry (Files.empty []) unwritable
      [.platform .android]).result.toOption.bind fun dry => dry.outcomes[1]?) =
        some ⟨"no/such", .android,
          .generated ⟨"", ["out", "android", "no", "suchAdapter.kt"]⟩ []⟩ := by decide +kernel
  rw [hResult] at hSecond
  exact ⟨hRun, dry, emitters, hResult, hSecond, hPredicts⟩

end Emission
end ViewAdapters
