import ViewAdapters.Proofs.Adapter.Faults
import ViewAdapters.Proofs.Emission.Destinations
import ViewAdapters.Proofs.Metadata.LoadedTypes

/-!
# Runs on loaded view-models

What a document can do to a run of standard backends. The reader lets nothing through that
an adapter cannot be made of, but for a size of batches with too many digits for a text. So
a pair of a loaded view-model fails only because of such a size, because another view-model
produces the file, or because the file cannot be written.

* `failsFor_of_reported`: the causes of what is reported as failed.
* `generates_of_readViewModels`: what backends and runs do with a loaded document.
* `longBatch_fails`: a document with such a size is accepted, and its adapter fails.
-/

namespace ViewAdapters.Emission

/-- Why a view-model of types has no adapter in a run, by the error that is reported. Its job
was submitted with the files `start`, and `earlier` are the view-models before. -/
inductive FailsFor (s : Settings) (start : Files) (jobs : List Pair) (earlier : List ViewModel)
    (v : ViewModel) (b : Backend) : String → Prop where
  /-- An earlier view-model produces the file. -/
  | taken (w : ViewModel)
      (hOwner : claimant? earlier b.platform (v.fileName b.platform) = some w) :
      FailsFor s start jobs earlier v b (takenMessage (v.fileName b.platform) w.name)
  /-- The adapter is made but not written to the files as they are when the job ends. -/
  | unwritten (a : Adapter) (pool : Pool) (fault : WriteFault) (hMade : b.generate v = .ok a)
      (hReach : Steps s jobs (Pool.submitted start jobs) pool)
      (hWrite : (pool.files.writeText (Pair.path (v, .ofBackend b) s.root) a.text).2 =
        some fault) :
      FailsFor s start jobs earlier v b fault.message
  /-- A size of batches that the adapter would tell has no text. -/
  | longBatch (hLong : ¬ v.HasShortBatches b.platform) :
      FailsFor s start jobs earlier v b Text.NumeralFault.tooLong.message

section Reported

variable {s : Settings} {start : Files} {jobs : List Pair} {earlier : List ViewModel}
  {v : ViewModel} {b : Backend} {o : Outcome}

/-- What a job reports as failed was not generated or not written. -/
theorem failsFor_of_runJob (hStandard : b.templates = []) (hTyped : v.IsTyped) {pool : Pool}
    (hReach : Steps s jobs (Pool.submitted start jobs) pool) {error : String}
    (hFailed : (runJob s pool.files (v, .ofBackend b)).outcome.result = .failed error) :
    FailsFor s start jobs earlier v b error := by
  cases hGenerate : b.generate v with
  | error fault =>
    obtain ⟨hLong, rfl⟩ := (Backend.generate_eq_error_iff hStandard hTyped).1 hGenerate
    have hMessage : (Emitter.ofBackend b).generate v =
        .error Text.NumeralFault.tooLong.message := by
      unfold Emitter.ofBackend Emitter.ofBackendBy
      unfold Backend.generate at hGenerate
      dsimp only
      rw [hGenerate]
      rfl
    rw [outcome_of_generate_error s pool.files hMessage] at hFailed
    cases hFailed
    exact .longBatch hLong
  | ok a =>
    have hMade : (v, Emitter.ofBackend b).2.generate v = .ok ⟨a.text, a.diagnostics⟩ := by
      unfold Emitter.ofBackend Emitter.ofBackendBy
      unfold Backend.generate at hGenerate
      dsimp only
      rw [hGenerate]
    have hOutcomes := outcome_of_generate_ok s pool.files (p := (v, .ofBackend b)) hMade
    rcases hOutcomes with hOutcome | ⟨fault, hWrite, hOutcome⟩
    · rw [hOutcome] at hFailed
      cases hFailed
    · rw [hOutcome] at hFailed
      cases hFailed
      exact .unwritten a pool fault hGenerate hReach hWrite

theorem failsFor_of_reported (hStandard : b.templates = []) (hTyped : v.IsTyped) {slot : Slot}
    (h : Reported s start jobs earlier v (.ofBackend b) slot o) {error : String}
    (hFailed : o.result = .failed error) : FailsFor s start jobs earlier v b error := by
  cases hSlot : slot with
  | excluded =>
    have hSkipped := status_eq_skipped_iff.1 (h.skipped.2 hSlot)
    rw [hFailed] at hSkipped
    cases hSkipped
  | taken fileName owner =>
    obtain ⟨-, rfl, w, hOwner, rfl⟩ := (h.taken _ _).1 hSlot
    have hTaken := h.collision _ _ hSlot
    rw [hFailed] at hTaken
    cases hTaken
    exact .taken w hOwner
  | job =>
    obtain ⟨pool, hReach, rfl⟩ := h.job hSlot
    exact failsFor_of_runJob hStandard hTyped hReach hFailed

end Reported

/-- A standard backend makes the adapters of loaded view-models unless a size of batches has no
text, and a run of standard backends reports no other failures than this one, file names that
are taken and files that cannot be written. -/
theorem generates_of_readViewModels {limits : Limits} {document : Document.Value}
    {vs : List ViewModel} (hLoaded : Metadata.readViewModelsWithin limits document = .ok vs) :
    (∀ b : Backend, b.templates = [] → ∀ v ∈ vs,
      ((∃ a, b.generate v = .ok a) ↔ v.HasShortBatches b.platform) ∧
      ∀ fault, b.generate v = .error fault → fault = .numeral .tooLong) ∧
    ∀ (s : Settings) (files final : Files) (request : List Selector) (summary : Summary),
      (∀ e ∈ s.emitters, ∃ b : Backend, b.templates = [] ∧ e = .ofBackend b) →
      Completes s files vs request final (.ok summary) →
      ∃ emitters : List Emitter, summary.platforms = emitters.map (·.platform) ∧
        summary.outcomes.length = vs.length * emitters.length ∧
        ∀ (i j : Nat) v e o error, vs[i]? = some v → emitters[j]? = some e →
          summary.outcomes[i * emitters.length + j]? = some o → o.result = .failed error →
          ∃ b, e = .ofBackend b ∧
            FailsFor s (preparation s files emitters).files (jobsOf (slotsOf emitters vs))
              (vs.take i) v b error := by
  have hTyped := Metadata.isTyped_of_readViewModels hLoaded
  refine ⟨fun b hStandard v hv => ?_, fun s files final request summary hBackends h => ?_⟩
  · exact ⟨Backend.exists_generate_of_isTyped hStandard (hTyped v hv),
      fun fault => Backend.fault_of_generate hStandard (hTyped v hv)⟩
  · obtain ⟨emitters, outcomes, hRequest, hPrepared, hWorks, rfl⟩ := worked_of_completes h
    obtain ⟨-, -, hNodup, hEmitters⟩ := requested_spec hRequest
    refine ⟨emitters, rfl, ?_, ?_⟩
    · rw [← (settles_of_works hWorks).length_eq, slotsOf, plan_length, pairs_length]
    · intro i j v e o error hv he ho hFailed
      have hSlot := plan_pairs_getElem? hNodup hv he
      obtain ⟨o', ho', hSettles⟩ := settles_getElem? hWorks hSlot
      cases ho.symm.trans ho'
      have hMem := List.mem_of_getElem? he
      have hFound : e ∈ s.emitters := by
        have hLast := List.mem_of_find?_eq_some (hEmitters e hMem)
        exact List.mem_reverse.1 hLast
      obtain ⟨b, hStandard, rfl⟩ := hBackends e hFound
      have hReported := reported_of_settles
        ((ready_of_prepared hPrepared).imp_right fun hReady => hReady _ hMem) hSettles
      have hLoadedType := hTyped v (List.mem_of_getElem? hv)
      exact ⟨b, rfl, failsFor_of_reported hStandard hLoadedType hReported hFailed⟩

/-- A list of items, and a view-model whose adapter has the name of the list's. -/
def listDocument : Document.Value := .list [
  .mapping [(.text "name", .text "List"),
    (.text "properties", .list [
      .mapping [(.text "name", .text "Items"), (.text "type", .text "observable<list<App.Item?>>"),
        (.text "collection_behavior", .mapping [(.text "supports_batching", .bool true),
          (.text "batch_size", .int 8)])],
      .mapping [(.text "name", .text "Key"), (.text "type", .text "Guid?")]]),
    (.text "commands", .list [
      .mapping [(.text "name", .text "Load"), (.text "parameter_type", .text "int[]")]])],
  .mapping [(.text "name", .text "ListViewModel")]]

/-- The view-models of `listDocument`. -/
def listViewModels : List ViewModel := [
  { bare "List" with
    properties := [
      { Property.plain "Items"
          (.collection (.collection (.nullable (.reference "App.Item")))) with
        element := some (.collection (.nullable (.reference "App.Item")))
        batching := some ⟨true, some 8⟩ },
      .plain "Key" (.nullable (.primitive "uuid"))]
    commands := [{ Command.plain "Load" with
      parameter := some (.collection (.primitive "int32")) }] },
  bare "ListViewModel"]

/-- The summary of the run for `listDocument`. -/
def listSummary : Summary :=
  ⟨2, [.android], [⟨"List", .android, .generated ⟨"", ["out", "android", "ListAdapter.kt"]⟩ []⟩,
    ⟨"ListViewModel", .android, .failed "ListAdapter.kt is already produced by List"⟩], false⟩

theorem generates_listViewModels :
    (∃ a, (Backend.standard .ios).generate listViewModels[0] = .ok a) ∧
      ∃ b start jobs, FailsFor standardSettings start jobs [listViewModels[0]]
        (bare "ListViewModel") b "ListAdapter.kt is already produced by List" := by
  have hLoaded : Metadata.readViewModelsWithin .standard listDocument = .ok listViewModels := by
    decide +kernel
  have hRun : Completes standardSettings (Files.empty []) listViewModels [.platform .android]
      (run standardSettings (Files.empty []) listViewModels [.platform .android]).files
      (.ok listSummary) := completes_of_run (by decide +kernel)
  obtain ⟨hAdapters, hRuns⟩ := generates_of_readViewModels hLoaded
  have hShort : listViewModels[0].HasShortBatches .ios := by
    intro p hp b hb _ n hn
    have hSizes : ∀ p ∈ listViewModels[0].propertiesFor .ios, ∀ b ∈ p.batching,
        ∀ n ∈ b.toldSize, n.natAbs < Text.numeralBound := by decide +kernel
    exact hSizes p hp b hb n hn
  refine ⟨(hAdapters _ rfl _ (by simp)).1.2 hShort, ?_⟩
  have hStandard : ∀ e ∈ standardSettings.emitters,
      ∃ b : Backend, b.templates = [] ∧ e = .ofBackend b := by
    intro e he
    cases List.mem_singleton.1 he
    exact ⟨.standard .android, rfl, rfl⟩
  obtain ⟨emitters, hPlatforms, -, hAll⟩ := hRuns _ _ _ _ _ hStandard hRun
  obtain ⟨e, rfl, -⟩ := List.map_eq_singleton_iff.1 hPlatforms.symm
  obtain ⟨b, -, hFails⟩ := hAll 1 0 (bare "ListViewModel") e _ _ rfl rfl rfl rfl
  exact ⟨b, _, _, hFails⟩

/-! ## Sizes without a text -/

/-- A property that tells a size of batches with too many digits. -/
def longBatchDocument : Document.Value := .list [
  .mapping [(.text "name", .text "X"), (.text "properties", .list [
    .mapping [(.text "name", .text "Items"), (.text "type", .text "list<string>"),
      (.text "collection_behavior", .mapping [(.text "supports_batching", .bool true),
        (.text "batch_size", .int Text.numeralBound)])]])]]

/-- The view-model of `longBatchDocument`. -/
def longBatch : ViewModel :=
  { bare "X" with
    properties := [{ Property.plain "Items" (.collection (.primitive "string")) with
      batching := some ⟨true, some Text.numeralBound⟩ }] }

/-- A document is accepted whose adapter fails for neither a taken name nor a failed write. -/
theorem longBatch_fails :
    Metadata.readViewModelsWithin .standard longBatchDocument = .ok [longBatch] ∧
      (∀ a, (Backend.standard .android).generate longBatch ≠ .ok a) ∧
      Completes standardSettings (Files.empty []) [longBatch] [.platform .android]
        (run standardSettings (Files.empty []) [longBatch] [.platform .android]).files
        (.ok ⟨1, [.android], [⟨"X", .android, .failed Text.NumeralFault.tooLong.message⟩],
          false⟩) := by
  refine ⟨by decide +kernel, fun a ha => ?_, completes_of_run (by decide +kernel)⟩
  have hTyped : longBatch.IsTyped := ⟨by decide, by decide⟩
  have hShort := (Backend.exists_generate_of_isTyped rfl hTyped).1 ⟨a, ha⟩
  have hTold : Batching.toldSize ⟨true, some Text.numeralBound⟩ =
      some (Text.numeralBound : Int) := by decide +kernel
  have hLess := hShort _ (List.mem_singleton_self _) _ rfl rfl _ hTold
  rw [Int.natAbs_natCast] at hLess
  exact Nat.lt_irrefl _ hLess

end ViewAdapters.Emission
