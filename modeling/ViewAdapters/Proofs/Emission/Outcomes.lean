import ViewAdapters.Proofs.Emission.Completion

/-!
# Outcomes of a run

What a run reports of each pair. Pairs that are excluded or whose file name is taken
have their outcomes before the first job starts. A job reports what it would report
if it were alone, up to the wording of a failure to write where a name has slashes.

* `settle_forall₂`: the outcomes of the jobs come back to the slots that they were left
  out for.
* `settles_of_works`: where the outcomes of all pairs come from.
* `reported_of_completes`: what a run says of each pair.
-/

namespace ViewAdapters.Emission

/-- Where the outcome of a pair comes from: its slot, or its job on the files as they were
at some time. -/
inductive Settles (s : Settings) (start : Files) (jobs : List Pair) (p : Pair) :
    Slot → Outcome → Prop where
  | excluded : Settles s start jobs p .excluded ⟨p.1.name, p.2.platform, .skipped⟩
  | taken (fileName owner : String) :
      Settles s start jobs p (.taken fileName owner)
        ⟨p.1.name, p.2.platform, .failed (takenMessage fileName owner)⟩
  | job {earlier : Pool} (hReach : Steps s jobs (Pool.submitted start jobs) earlier)
      (hSame : start.SameDirectories earlier.files) :
      Settles s start jobs p .job (runJob s earlier.files p).outcome

theorem Settles.names {s : Settings} {start : Files} {jobs : List Pair} {p : Pair} {slot : Slot}
    {o : Outcome} (h : Settles s start jobs p slot o) :
    o.viewModel = p.1.name ∧ o.platform = p.2.platform := by
  cases h with
  | excluded => exact ⟨rfl, rfl⟩
  | taken fileName owner => exact ⟨rfl, rfl⟩
  | job _ _ => exact runJob_names s _ p

/-- The outcomes of jobs, which are in the order of the plan, go back to their slots. -/
theorem settle_forall₂ {R : Pair → Slot → Outcome → Prop} {slots : List (Pair × Slot)}
    {outcomes : List Outcome}
    (hExcluded : ∀ p, R p .excluded ⟨p.1.name, p.2.platform, .skipped⟩)
    (hTaken : ∀ p fileName owner, R p (.taken fileName owner)
      ⟨p.1.name, p.2.platform, .failed (takenMessage fileName owner)⟩)
    (hJobs : List.Forall₂ (fun p o => R p .job o) (jobsOf slots) outcomes) :
    List.Forall₂ (fun x o => R x.1 x.2 o) slots (settle slots outcomes) := by
  induction slots generalizing outcomes with
  | nil => exact .nil
  | cons x rest ih =>
    obtain ⟨p, slot⟩ := x
    cases slot with
    | excluded => exact .cons (hExcluded p) (ih hJobs)
    | taken fileName owner => exact .cons (hTaken p fileName owner) (ih hJobs)
    | job =>
      have hFirst : jobsOf ((p, .job) :: rest) = p :: jobsOf rest := rfl
      rw [hFirst] at hJobs
      cases hJobs with
      | cons hHead hTail => exact .cons hHead (ih hTail)

theorem settles_of_works {s : Settings} {start final : Files} {slots : List (Pair × Slot)}
    {outcomes : List Outcome} (h : Works s start (jobsOf slots) final outcomes) :
    List.Forall₂ (fun x o => Settles s start (jobsOf slots) x.1 x.2 o) slots
      (settle slots outcomes) := by
  refine settle_forall₂ (fun p => .excluded) (fun p fileName owner => .taken fileName owner) ?_
  refine (ended_of_works h).imp ?_
  rintro p o ⟨-, earlier, hReach, hSame, rfl⟩
  exact .job hReach hSame

/-- The outcome at the index of a slot. -/
theorem settles_getElem? {s : Settings} {start final : Files} {slots : List (Pair × Slot)}
    {outcomes : List Outcome} (h : Works s start (jobsOf slots) final outcomes) {k : Nat}
    {p : Pair} {slot : Slot} (hSlot : slots[k]? = some (p, slot)) :
    ∃ o, (settle slots outcomes)[k]? = some o ∧ Settles s start (jobsOf slots) p slot o := by
  have hAll := settles_of_works h
  obtain ⟨hk, hAt⟩ := List.getElem?_eq_some_iff.1 hSlot
  have hk' : k < (settle slots outcomes).length := hAll.length_eq ▸ hk
  refine ⟨(settle slots outcomes)[k], List.getElem?_eq_getElem hk', ?_⟩
  have hSettles := hAll.get hk hk'
  rw [List.get_eq_getElem, hAt] at hSettles
  exact hSettles

/-! ## What outcomes say -/

theorem error?_isSome_iff (o : Outcome) : o.error?.isSome ↔ o.status = .failed := by
  unfold Outcome.error? Outcome.status
  cases o.result with
  | generated path ds => cases ds <;> simp
  | failed error => simp
  | skipped => simp

theorem status_eq_diagnostics_iff {o : Outcome} :
    o.status = .diagnostics ↔ ∃ path ds, o.result = .generated path ds ∧ ds ≠ [] := by
  unfold Outcome.status
  cases o.result with
  | generated path ds => cases ds <;> simp
  | failed error => simp
  | skipped => simp

theorem status_eq_skipped_iff {o : Outcome} : o.status = .skipped ↔ o.result = .skipped := by
  unfold Outcome.status
  cases o.result with
  | generated path ds => cases ds <;> simp
  | failed error => simp
  | skipped => simp

theorem path?_isSome_iff_generated {o : Outcome} :
    o.path?.isSome ↔ ∃ path ds, o.result = .generated path ds := by
  unfold Outcome.path?
  cases o.result <;> simp

/-- A job has diagnostics exactly if it was generated and its adapter has some. -/
theorem runJob_diagnostics_iff {s : Settings} {f : Files} {p : Pair} :
    (runJob s f p).outcome.status = .diagnostics ↔
      (runJob s f p).outcome.path?.isSome ∧
        ∃ adapter, p.2.generate p.1 = .ok adapter ∧ adapter.diagnostics ≠ [] := by
  rw [status_eq_diagnostics_iff, path?_isSome_iff_generated]
  constructor
  · rintro ⟨path, ds, hResult, hDs⟩
    obtain ⟨adapter, hGen, -, rfl, -⟩ := runJob_generated_iff.1 hResult
    exact ⟨⟨path, _, hResult⟩, adapter, hGen, hDs⟩
  · rintro ⟨⟨path, ds, hResult⟩, adapter, hGen, hDs⟩
    obtain ⟨made, hMade, -, rfl, -⟩ := runJob_generated_iff.1 hResult
    cases hGen.symm.trans hMade
    exact ⟨path, _, hResult, hDs⟩

/-! ## Reports -/

/-- What a run says of a view-model on the platform of an emitter, in a slot of the plan.
Its jobs were submitted with the files `start`, and `earlier` are the view-models before. -/
structure Reported (s : Settings) (start : Files) (jobs : List Pair) (earlier : List ViewModel)
    (v : ViewModel) (e : Emitter) (slot : Slot) (o : Outcome) : Prop where
  viewModel : o.viewModel = v.name
  platform : o.platform = e.platform
  excluded : slot = .excluded ↔ v.excluded.get e.platform = true
  skipped : o.status = .skipped ↔ slot = .excluded
  /-- The owner of a file name is the first view-model that has it and is not excluded. -/
  taken : ∀ fileName owner, slot = .taken fileName owner ↔
    v.excluded.get e.platform = false ∧ fileName = v.fileName e.platform ∧
      ∃ w, claimant? earlier e.platform fileName = some w ∧ owner = w.name
  collision : ∀ fileName owner, slot = .taken fileName owner →
    o.result = .failed (takenMessage fileName owner)
  /-- A job reports how it went with the files as they were when it ended. -/
  job : slot = .job → ∃ pool, Steps s jobs (Pool.submitted start jobs) pool ∧
    o = (runJob s pool.files (v, e)).outcome
  /-- It reports what it would report as the first job, unless it fails to write what it
  has generated and its name has slashes. -/
  alone : slot = .job → o = (runJob s start (v, e)).outcome ∨
    '/' ∈ v.name.toList ∧ (∃ adapter, e.generate v = .ok adapter) ∧
      (runJob s start (v, e)).outcome.status = .failed ∧ o.status = .failed
  path : o.path?.isSome ↔ o.status = .clean ∨ o.status = .diagnostics
  error : o.error?.isSome ↔ o.status = .failed
  diagnostics : o.status = .diagnostics ↔
    o.path?.isSome ∧ ∃ adapter, e.generate v = .ok adapter ∧ adapter.diagnostics ≠ []

theorem reported_of_settles {s : Settings} {start : Files} {jobs : List Pair}
    {earlier : List ViewModel} {v : ViewModel} {e : Emitter} {o : Outcome}
    (hDir : s.isDryRun = true ∨ ∃ place, start.LeadsTo (e.path s.root) place)
    (h : Settles s start jobs (v, e) (slotAfter earlier v e.platform) o) :
    Reported s start jobs earlier v e (slotAfter earlier v e.platform) o := by
  have hExcluded : slotAfter earlier v e.platform = .excluded ↔
      v.excluded.get e.platform = true := slotAfter_eq_excluded_iff
  have hTaken : ∀ fileName owner, slotAfter earlier v e.platform = .taken fileName owner ↔
      v.excluded.get e.platform = false ∧ fileName = v.fileName e.platform ∧
        ∃ w, claimant? earlier e.platform fileName = some w ∧ owner = w.name :=
    fun fileName owner => slotAfter_eq_taken_iff
  generalize slotAfter earlier v e.platform = slot at h hExcluded hTaken ⊢
  cases h with
  | excluded =>
    refine ⟨rfl, rfl, hExcluded, by simp [Outcome.status], hTaken, ?_, ?_, ?_,
      Outcome.path?_isSome_iff _, error?_isSome_iff _,
      by simp [Outcome.status, Outcome.path?]⟩
    · intro name other hSlot
      contradiction
    · intro hSlot
      contradiction
    · intro hSlot
      contradiction
  | taken fileName owner =>
    refine ⟨rfl, rfl, hExcluded, by simp [Outcome.status], hTaken, ?_, ?_, ?_,
      Outcome.path?_isSome_iff _, error?_isSome_iff _,
      by simp [Outcome.status, Outcome.path?]⟩
    · intro name other hSlot
      cases hSlot
      rfl
    · intro hSlot
      contradiction
    · intro hSlot
      contradiction
  | @job pool hReach hSame =>
    obtain ⟨hName, hPlatform⟩ := runJob_names s pool.files (v, e)
    refine ⟨hName, hPlatform, hExcluded, ?_, hTaken, ?_, fun _ => ⟨pool, hReach, rfl⟩,
      fun _ => runJob_outcome_or_unwritten hSame hDir, Outcome.path?_isSome_iff _,
      error?_isSome_iff _, runJob_diagnostics_iff⟩
    · rw [status_eq_skipped_iff]
      simp [runJob_not_skipped]
    · intro name other hSlot
      contradiction

/-- What a run with a summary says of each view-model on each requested platform, whatever
the order of its jobs. -/
theorem reported_of_completes {s : Settings} {files final : Files} {vs : List ViewModel}
    {request : List Selector} {summary : Summary}
    (h : Completes s files vs request final (.ok summary)) :
    ∃ emitters : List Emitter, Selector.select request = .ok summary.platforms ∧
      summary.platforms = emitters.map (·.platform) ∧
      (∀ e ∈ emitters, s.emitter? e.platform = some e) ∧
      summary.outcomes.length = vs.length * emitters.length ∧
      ∀ (i j : Nat) v e, vs[i]? = some v → emitters[j]? = some e →
        ∃ slot o, (slotsOf emitters vs)[i * emitters.length + j]? = some ((v, e), slot) ∧
          summary.outcomes[i * emitters.length + j]? = some o ∧
          Reported s (preparation s files emitters).files (jobsOf (slotsOf emitters vs))
            (vs.take i) v e slot o := by
  obtain ⟨emitters, outcomes, hRequest, hPrepared, hWorks, rfl⟩ := worked_of_completes h
  obtain ⟨-, hSelect, hNodup, hEmitters⟩ := requested_spec hRequest
  refine ⟨emitters, hSelect, rfl, hEmitters, ?_, ?_⟩
  · rw [← (settles_of_works hWorks).length_eq, slotsOf, plan_length, pairs_length]
  · intro i j v e hv he
    have hSlot := plan_pairs_getElem? hNodup hv he
    obtain ⟨o, hOutcome, hSettles⟩ := settles_getElem? hWorks hSlot
    refine ⟨_, o, hSlot, hOutcome, reported_of_settles ?_ hSettles⟩
    rcases ready_of_prepared hPrepared with hDry | hReady
    · exact .inl hDry
    · exact .inr (hReady e (List.mem_of_getElem? he))

/-- Three view-models with one file name, of which the first is excluded. -/
def oneName : List ViewModel :=
  [{ bare "A" with excluded := ⟨true, false⟩ }, bare "AViewModel", bare "A"]

/-- The second of three view-models with one file name owns it. -/
def oneNameSummary : Summary :=
  ⟨3, [.android], [⟨"A", .android, .skipped⟩,
    ⟨"AViewModel", .android, .generated ⟨"", ["out", "android", "AAdapter.kt"]⟩ []⟩,
    ⟨"A", .android, .failed "AAdapter.kt is already produced by AViewModel"⟩], false⟩

theorem reported_oneName :
    Completes twoWorkers (Files.empty []) oneName [.named "android"]
        (run twoWorkers (Files.empty []) oneName [.named "android"]).files
        (.ok oneNameSummary) ∧
      ∃ e start jobs, Reported twoWorkers start jobs (oneName.take 2) (bare "A") e
        (.taken "AAdapter.kt" "AViewModel")
        ⟨"A", .android, .failed "AAdapter.kt is already produced by AViewModel"⟩ := by
  have hRun : Completes twoWorkers (Files.empty []) oneName [.named "android"]
      (run twoWorkers (Files.empty []) oneName [.named "android"]).files
      (.ok oneNameSummary) := completes_of_run (by decide +kernel)
  refine ⟨hRun, ?_⟩
  obtain ⟨emitters, -, hPlatforms, -, -, hAll⟩ := reported_of_completes hRun
  obtain ⟨e, rfl, hPlatform⟩ := List.map_eq_singleton_iff.1 hPlatforms.symm
  obtain ⟨slot, o, -, hOutcome, hReported⟩ := hAll 2 0 (bare "A") e rfl rfl
  cases hOutcome
  have hSlot : slot = .taken "AAdapter.kt" "AViewModel" := by
    refine (hReported.taken _ _).2 ?_
    rw [hPlatform]
    exact ⟨rfl, by decide +kernel, bare "AViewModel", by decide +kernel, rfl⟩
  rw [hSlot] at hReported
  exact ⟨e, _, _, hReported⟩

/-! ## Slashes in names -/

/-- An adapter for all view-models but those of a name. -/
def allBut (name : String) (v : ViewModel) : Except String Generated :=
  if v.name = name then .error "no adapter" else .ok ⟨v.name, []⟩

/-- The outcome of a pair in a run for Android. -/
def outcomeAt (generate : ViewModel → Except String Generated) (vs : List ViewModel)
    (k : Nat) : Option Outcome :=
  (run (forAndroid 1 (by decide) generate) (Files.empty []) vs
    [.platform .android]).result.toOption.bind fun summary => summary.outcomes[k]?

/-- With slashes in its name, a view-model can be reported in other words where the adapter of
another one is there. -/
theorem slash_report_differs :
    slotAfter [bare "X"] (bare "XAdapter.kt/Y") .android = .job ∧
      allBut "X" (bare "XAdapter.kt/Y") = allBut "Z" (bare "XAdapter.kt/Y") ∧
      outcomeAt (allBut "X") [bare "X", bare "XAdapter.kt/Y"] 1 =
        some ⟨"XAdapter.kt/Y", .android, .failed
          "[Errno 2] No such file or directory: 'out/android/XAdapter.kt/YAdapter.kt'"⟩ ∧
      outcomeAt (allBut "Z") [bare "X", bare "XAdapter.kt/Y"] 1 =
        some ⟨"XAdapter.kt/Y", .android, .failed
          "[Errno 20] Not a directory: 'out/android/XAdapter.kt/YAdapter.kt'"⟩ := by
  refine ⟨?_, rfl, ?_, ?_⟩ <;> decide +kernel

end ViewAdapters.Emission
