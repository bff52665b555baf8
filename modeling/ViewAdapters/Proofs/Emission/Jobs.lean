import ViewAdapters.Proofs.Emission.Preparation

/-!
# What a job does

A job writes at most one file, which stays empty if the adapter has no bytes. Whether it
writes, where and what depends on the directories alone, and no job changes these. So a job
comes to the same end whatever other jobs have written before, up to the wording of a failure:
with slashes in a name the system can meet a file on the way where there was nothing before.

* `runJob_files`: the files after a job.
* `writes_congr`, `runJob_generated_congr`: what a job writes and reports depends on
  the directories alone.
* `runJob_outcome_congr`: so does its whole outcome if the name has no slash.
* `runJob_outcome_or_unwritten`: with slashes, only what is said of a write that fails
  can differ.
-/

namespace ViewAdapters.Emission

/-- The end of a job whose adapter was generated or not. -/
def endJob (s : Settings) (f : Files) (p : Pair) : Except String Generated → JobEnd
  | .error error => jobFailure p f [] error
  | .ok adapter => writeJob s f p adapter

theorem runJob_eq_endJob (s : Settings) (f : Files) (p : Pair) :
    runJob s f p = endJob s f p (p.2.generate p.1) := by
  unfold runJob endJob
  rfl

/-- On these files the job of a pair writes some bytes at a place. -/
structure Writes (s : Settings) (f : Files) (p : Pair) (q : Place) (content : ByteArray) :
    Prop where
  notDry : s.isDryRun = false
  locate : f.locate (p.path s.root) = .ok q
  free : f.get q ≠ some .directory
  generate : ∃ adapter, p.2.generate p.1 = .ok adapter ∧
    content = Files.storedBytes adapter.text

/-- The adapter of a pair is generated and has bytes. -/
def Pair.IsEncoded (p : Pair) : Prop :=
  ∃ adapter bytes, p.2.generate p.1 = .ok adapter ∧ Text.encode adapter.text = .ok bytes

theorem Writes.unique {s : Settings} {f : Files} {p : Pair} {q r : Place}
    {content other : ByteArray} (h : Writes s f p q content) (hOther : Writes s f p r other) :
    q = r ∧ content = other := by
  refine ⟨?_, ?_⟩
  · cases h.locate.symm.trans hOther.locate
    rfl
  · obtain ⟨adapter, hAdapter, rfl⟩ := h.generate
    obtain ⟨adapter', hAdapter', rfl⟩ := hOther.generate
    cases hAdapter.symm.trans hAdapter'
    rfl

theorem writes_congr {s : Settings} {f g : Files} (h : f.SameDirectories g) {p : Pair}
    {q : Place} {content : ByteArray} : Writes s f p q content ↔ Writes s g p q content := by
  constructor
  · intro hw
    obtain ⟨hLocate, hFree⟩ := (Files.write_congr h).1 ⟨hw.locate, hw.free⟩
    exact ⟨hw.notDry, hLocate, hFree, hw.generate⟩
  · intro hw
    obtain ⟨hLocate, hFree⟩ := (Files.write_congr h).2 ⟨hw.locate, hw.free⟩
    exact ⟨hw.notDry, hLocate, hFree, hw.generate⟩

/-- The end of a write: a fault that leaves the files alone, a file that was opened in vain, or
a file with the bytes of the text. -/
theorem writeAdapter_cases (s : Settings) (f : Files) (path : Path) (text : String) :
    (s.isDryRun = true ∧ writeAdapter s.isDryRun f path text = (f, none)) ∨
    s.isDryRun = false ∧
      ((∃ fault, f.write path (Files.storedBytes text) = .error fault ∧
        writeAdapter s.isDryRun f path text = (f, some (.file fault))) ∨
      ∃ q, f.locate path = .ok q ∧ f.get q ≠ some .directory ∧
        ((∃ fault, Text.encode text = .error fault ∧
          writeAdapter s.isDryRun f path text =
            (f.put q (.file (Files.storedBytes text)), some (.encoding fault))) ∨
        ∃ bytes, Text.encode text = .ok bytes ∧
          writeAdapter s.isDryRun f path text =
            (f.put q (.file (Files.storedBytes text)), none))) := by
  unfold writeAdapter
  cases s.isDryRun with
  | true => exact .inl ⟨rfl, rfl⟩
  | false =>
    refine .inr ⟨rfl, ?_⟩
    rw [if_neg Bool.false_ne_true, Files.writeText_eq]
    cases hWrite : f.write path (Files.storedBytes text) with
    | error fault => exact .inl ⟨fault, rfl, rfl⟩
    | ok g =>
      obtain ⟨q, hLocate, hFree, rfl⟩ := Files.write_eq_ok_iff.1 hWrite
      refine .inr ⟨q, hLocate, hFree, ?_⟩
      cases Text.encode text with
      | error fault => exact .inl ⟨fault, rfl, rfl⟩
      | ok bytes => exact .inr ⟨bytes, rfl, rfl⟩

/-- The ways in which a job ends: it has not come to write, it has opened its file in vain, or its
adapter is made. -/
theorem runJob_cases (s : Settings) (f : Files) (p : Pair) :
    (∃ error, (runJob s f p).files = f ∧
      (runJob s f p).outcome = ⟨p.1.name, p.2.platform, .failed error⟩ ∧
      (∀ adapter, p.2.generate p.1 = .ok adapter →
        s.isDryRun = false ∧ ∃ fault : FileFault, error = fault.message ∧
          f.write (p.path s.root) (Files.storedBytes adapter.text) = .error fault)) ∨
    (∃ adapter fault q, p.2.generate p.1 = .ok adapter ∧
      Text.encode adapter.text = .error fault ∧
      (runJob s f p).outcome = ⟨p.1.name, p.2.platform, .failed fault.message⟩ ∧
      Writes s f p q (Files.storedBytes adapter.text) ∧
      (runJob s f p).files = f.put q (.file (Files.storedBytes adapter.text))) ∨
    (∃ adapter, p.2.generate p.1 = .ok adapter ∧
      (runJob s f p).outcome =
        ⟨p.1.name, p.2.platform, .generated (p.path s.root) adapter.diagnostics⟩ ∧
      ((s.isDryRun = true ∧ (runJob s f p).files = f) ∨
        p.IsEncoded ∧ ∃ q, Writes s f p q (Files.storedBytes adapter.text) ∧
          (runJob s f p).files = f.put q (.file (Files.storedBytes adapter.text)))) := by
  rw [runJob_eq_endJob]
  cases hGen : p.2.generate p.1 with
  | error error => exact .inl ⟨error, rfl, rfl, nofun⟩
  | ok adapter =>
    dsimp only [endJob]
    unfold writeJob
    have hWrites : ∀ {q}, s.isDryRun = false → f.locate (p.path s.root) = .ok q →
        f.get q ≠ some .directory → Writes s f p q (Files.storedBytes adapter.text) :=
      fun hDry hLocate hFree => ⟨hDry, hLocate, hFree, adapter, hGen, rfl⟩
    rcases writeAdapter_cases s f (p.path s.root) adapter.text with
      ⟨hDry, hWrite⟩ | ⟨hDry, ⟨fault, hFault, hWrite⟩ |
        ⟨q, hLocate, hFree, ⟨fault, hFault, hWrite⟩ | ⟨bytes, hBytes, hWrite⟩⟩⟩
    · rw [hWrite]
      exact .inr (.inr ⟨adapter, rfl, rfl, .inl ⟨hDry, rfl⟩⟩)
    · rw [hWrite]
      refine .inl ⟨fault.message, rfl, rfl, fun other hOther => ?_⟩
      cases hOther
      exact ⟨hDry, fault, rfl, hFault⟩
    · rw [hWrite]
      exact .inr (.inl ⟨adapter, fault, q, rfl, hFault, rfl, hWrites hDry hLocate hFree, rfl⟩)
    · rw [hWrite]
      exact .inr (.inr ⟨adapter, rfl, rfl,
        .inr ⟨⟨adapter, bytes, hGen, hBytes⟩, q, hWrites hDry hLocate hFree, rfl⟩⟩)

theorem not_writes_of_error {s : Settings} {f : Files} {p : Pair} {bytes : ByteArray}
    {fault : FileFault} (h : f.write (p.path s.root) bytes = .error fault) (q : Place)
    (content : ByteArray) : ¬ Writes s f p q content := by
  intro hw
  have hOk : f.write (p.path s.root) bytes = .ok (f.put q (.file bytes)) :=
    Files.write_eq_ok_iff.2 ⟨q, hw.locate, hw.free, rfl⟩
  rw [h] at hOk
  cases hOk

theorem runJob_files (s : Settings) (f : Files) (p : Pair) :
    (∃ q content, Writes s f p q content ∧ (runJob s f p).files = f.put q (.file content)) ∨
      (∀ q content, ¬ Writes s f p q content) ∧ (runJob s f p).files = f := by
  rcases runJob_cases s f p with ⟨error, hFiles, -, hFault⟩ |
    ⟨adapter, fault, q, -, -, -, hWrites, hFiles⟩ |
    ⟨adapter, -, -, ⟨hDry, hFiles⟩ | ⟨-, q, hWrites, hFiles⟩⟩
  · refine .inr ⟨fun q content hw => ?_, hFiles⟩
    obtain ⟨adapter, hGen, -⟩ := hw.generate
    obtain ⟨-, fault, -, hError⟩ := hFault adapter hGen
    exact not_writes_of_error hError q content hw
  · exact .inl ⟨q, _, hWrites, hFiles⟩
  · refine .inr ⟨fun q content hw => ?_, hFiles⟩
    rw [hw.notDry] at hDry
    contradiction
  · exact .inl ⟨q, _, hWrites, hFiles⟩

theorem sameDirectories_runJob (s : Settings) (f : Files) (p : Pair) :
    f.SameDirectories (runJob s f p).files := by
  rcases runJob_files s f p with ⟨q, content, hWrites, hFiles⟩ | ⟨-, hFiles⟩
  · rw [hFiles]
    exact Files.sameDirectories_put_file hWrites.free
  · rw [hFiles]
    exact Files.SameDirectories.refl f

/-! ## Outcomes of jobs -/

theorem runJob_names (s : Settings) (f : Files) (p : Pair) :
    (runJob s f p).outcome.viewModel = p.1.name ∧
      (runJob s f p).outcome.platform = p.2.platform := by
  rcases runJob_cases s f p with ⟨error, -, hOutcome, -⟩ |
    ⟨adapter, fault, q, -, -, hOutcome, -⟩ | ⟨adapter, -, hOutcome, -⟩ <;>
  · rw [hOutcome]
    exact ⟨rfl, rfl⟩

theorem runJob_generated_iff {s : Settings} {f : Files} {p : Pair} {path : Path}
    {ds : List Diagnostic} :
    (runJob s f p).outcome.result = .generated path ds ↔
      ∃ adapter, p.2.generate p.1 = .ok adapter ∧ path = p.path s.root ∧
        ds = adapter.diagnostics ∧
        (s.isDryRun = true ∨
          p.IsEncoded ∧ ∃ q, Writes s f p q (Files.storedBytes adapter.text)) := by
  rcases runJob_cases s f p with ⟨error, -, hOutcome, hFault⟩ |
    ⟨adapter, fault, q, hGen, hEncode, hOutcome, hWrites, -⟩ | ⟨adapter, hGen, hOutcome, hEnd⟩
  · rw [hOutcome]
    simp only [reduceCtorEq, false_iff, not_exists]
    rintro adapter ⟨hGen, -, -, hDry | ⟨-, q, hWrites⟩⟩
    · rw [(hFault adapter hGen).1] at hDry
      contradiction
    · obtain ⟨-, fault, -, hError⟩ := hFault adapter hGen
      exact not_writes_of_error hError q _ hWrites
  · rw [hOutcome]
    simp only [reduceCtorEq, false_iff, not_exists]
    rintro other ⟨-, -, -, hDry | ⟨⟨made, bytes, hMade, hBytes⟩, -⟩⟩
    · rw [hWrites.notDry] at hDry
      contradiction
    · cases hGen.symm.trans hMade
      rw [hEncode] at hBytes
      contradiction
  · rw [hOutcome]
    constructor
    · intro h
      obtain ⟨hPath, hDs⟩ := Result.generated.inj h
      refine ⟨adapter, hGen, hPath.symm, hDs.symm, ?_⟩
      rcases hEnd with ⟨hDry, -⟩ | ⟨hEncoded, q, hWrites, -⟩
      · exact .inl hDry
      · exact .inr ⟨hEncoded, q, hWrites⟩
    · rintro ⟨other, hOther, hPath, hDs, -⟩
      cases hGen.symm.trans hOther
      rw [hPath, hDs]

/-- A job that opens a file for an adapter without bytes fails. -/
theorem runJob_failed_of_writes {s : Settings} {f : Files} {p : Pair} {q : Place}
    {content : ByteArray} (h : Writes s f p q content) {adapter : Generated}
    (hGen : p.2.generate p.1 = .ok adapter) {fault : Text.EncodeFault}
    (hFault : Text.encode adapter.text = .error fault) :
    (runJob s f p).outcome.result = .failed fault.message := by
  rcases runJob_cases s f p with ⟨error, -, -, hError⟩ |
    ⟨other, fault', q', hOther, hFault', hOutcome, -⟩ | ⟨other, hOther, -, hEnd⟩
  · obtain ⟨-, fault', -, hWrite⟩ := hError adapter hGen
    exact absurd h (not_writes_of_error hWrite q content)
  · cases hGen.symm.trans hOther
    cases hFault.symm.trans hFault'
    rw [hOutcome]
  · rcases hEnd with ⟨hDry, -⟩ | ⟨⟨made, bytes, hMade, hBytes⟩, -⟩
    · rw [h.notDry] at hDry
      contradiction
    · cases hGen.symm.trans hMade
      rw [hFault] at hBytes
      contradiction

/-- A job that writes an adapter with bytes reports where, and no other one reports a path. -/
theorem runJob_path?_eq_some_iff {s : Settings} {f : Files} {p : Pair} {path : Path}
    (hDry : s.isDryRun = false) :
    (runJob s f p).outcome.path? = some path ↔
      path = p.path s.root ∧ p.IsEncoded ∧ ∃ q content, Writes s f p q content := by
  constructor
  · intro h
    cases hResult : (runJob s f p).outcome.result with
    | generated made ds =>
      unfold Outcome.path? at h
      rw [hResult] at h
      obtain ⟨adapter, -, hPath, -, hEnd⟩ := runJob_generated_iff.1 hResult
      rcases hEnd with hDry' | ⟨hEncoded, q, hWrites⟩
      · rw [hDry] at hDry'
        contradiction
      · exact ⟨(Option.some.inj h).symm.trans hPath, hEncoded, q, _, hWrites⟩
    | failed error => simp [Outcome.path?, hResult] at h
    | skipped => simp [Outcome.path?, hResult] at h
  · rintro ⟨hPath, hEncoded, q, content, hWrites⟩
    obtain ⟨adapter, hGen, rfl⟩ := hWrites.generate
    have hResult :=
      runJob_generated_iff.2 ⟨adapter, hGen, hPath, rfl, .inr ⟨hEncoded, q, hWrites⟩⟩
    unfold Outcome.path?
    rw [hResult]

theorem runJob_not_skipped (s : Settings) (f : Files) (p : Pair) :
    (runJob s f p).outcome.result ≠ .skipped := by
  rcases runJob_cases s f p with ⟨error, -, hOutcome, -⟩ |
    ⟨adapter, fault, q, -, -, hOutcome, -⟩ | ⟨adapter, -, hOutcome, -⟩ <;>
    simp [hOutcome]

theorem runJob_generated_congr {s : Settings} {f g : Files} (h : f.SameDirectories g)
    {p : Pair} {path : Path} {ds : List Diagnostic} :
    (runJob s f p).outcome.result = .generated path ds ↔
      (runJob s g p).outcome.result = .generated path ds := by
  rw [runJob_generated_iff, runJob_generated_iff]
  simp only [writes_congr h]

/-- Without slashes in the name the outcome of a job depends on the directories alone. -/
theorem runJob_outcome_congr {s : Settings} {f g : Files} (h : f.SameDirectories g) {p : Pair}
    (hSlash : '/' ∉ p.1.name.toList)
    (hDir : s.isDryRun = true ∨ ∃ place, f.LeadsTo (p.2.path s.root) place) :
    (runJob s f p).outcome = (runJob s g p).outcome := by
  rw [runJob_eq_endJob, runJob_eq_endJob]
  cases hGen : p.2.generate p.1 with
  | error error => rfl
  | ok adapter =>
    dsimp only [endJob]
    unfold writeJob writeAdapter
    rcases hDir with hDry | ⟨place, hLeads⟩
    · simp [hDry]
    · by_cases hDry : s.isDryRun
      · simp [hDry]
      · simp only [hDry, Bool.false_eq_true, if_false]
        have hUp : p.fileName ≠ Path.up := p.names_fileName.ne_up
        have hFault : ∀ fault,
            f.write (p.path s.root) (Files.storedBytes adapter.text) = .error fault ↔
              g.write (p.path s.root) (Files.storedBytes adapter.text) = .error fault := by
          intro fault
          rw [Pair.path_eq_entry hSlash, Files.write_entry_eq_error_iff hLeads hUp,
            Files.write_entry_eq_error_iff (hLeads.of_keeps h.1) hUp, h.get_iff]
        rw [Files.writeText_eq, Files.writeText_eq]
        cases hf : f.write (p.path s.root) (Files.storedBytes adapter.text) with
        | error fault =>
          rw [(hFault fault).1 hf]
          rfl
        | ok f' =>
          cases hg : g.write (p.path s.root) (Files.storedBytes adapter.text) with
          | error fault =>
            rw [(hFault fault).2 hg] at hf
            cases hf
          | ok g' => cases Text.encode adapter.text <;> rfl

theorem outcome_of_generate_error (s : Settings) (f : Files) {p : Pair} {error : String}
    (h : p.2.generate p.1 = .error error) :
    (runJob s f p).outcome = ⟨p.1.name, p.2.platform, .failed error⟩ := by
  rw [runJob_eq_endJob, h]
  rfl

/-- A job whose adapter is made reports it, or the fault of writing it. -/
theorem outcome_of_generate_ok (s : Settings) (f : Files) {p : Pair} {adapter : Generated}
    (h : p.2.generate p.1 = .ok adapter) :
    (runJob s f p).outcome =
        ⟨p.1.name, p.2.platform, .generated (p.path s.root) adapter.diagnostics⟩ ∨
      ∃ fault : WriteFault, (f.writeText (p.path s.root) adapter.text).2 = some fault ∧
        (runJob s f p).outcome = ⟨p.1.name, p.2.platform, .failed fault.message⟩ := by
  rw [runJob_eq_endJob, h]
  dsimp only [endJob]
  unfold writeJob writeAdapter
  cases hDry : s.isDryRun with
  | true => exact .inl rfl
  | false =>
    rw [if_neg Bool.false_ne_true]
    obtain ⟨files, fault?⟩ := f.writeText (p.path s.root) adapter.text
    cases fault? with
    | none => exact .inl rfl
    | some fault => exact .inr ⟨fault, rfl, rfl⟩

/-- On trees with the same directories a job has the same outcome, or fails to write an
adapter on both because of slashes in the name. -/
theorem runJob_outcome_or_unwritten {s : Settings} {f g : Files} (h : f.SameDirectories g)
    {p : Pair} (hDir : s.isDryRun = true ∨ ∃ place, f.LeadsTo (p.2.path s.root) place) :
    (runJob s g p).outcome = (runJob s f p).outcome ∨
      '/' ∈ p.1.name.toList ∧ (∃ adapter, p.2.generate p.1 = .ok adapter) ∧
        (runJob s f p).outcome.status = .failed ∧ (runJob s g p).outcome.status = .failed := by
  by_cases hSlash : '/' ∈ p.1.name.toList
  · cases hGen : p.2.generate p.1 with
    | error error =>
      rw [outcome_of_generate_error s f hGen, outcome_of_generate_error s g hGen]
      exact .inl rfl
    | ok adapter =>
      cases hResult : (runJob s f p).outcome.result with
      | generated path ds =>
        have hOther := (runJob_generated_congr h).1 hResult
        obtain ⟨hName, hPlatform⟩ := runJob_names s f p
        obtain ⟨hName', hPlatform'⟩ := runJob_names s g p
        exact .inl (Outcome.ext (hName'.trans hName.symm) (hPlatform'.trans hPlatform.symm)
          (hOther.trans hResult.symm))
      | skipped => exact absurd hResult (runJob_not_skipped s f p)
      | failed error =>
        -- What is not written on the one tree is not written on the other.
        refine .inr ⟨hSlash, ⟨adapter, rfl⟩, by simp [Outcome.status, hResult], ?_⟩
        cases hOther : (runJob s g p).outcome.result with
        | generated path ds =>
          rw [(runJob_generated_congr h).2 hOther] at hResult
          contradiction
        | skipped => exact absurd hOther (runJob_not_skipped s g p)
        | failed other => simp [Outcome.status, hOther]
  · exact .inl (runJob_outcome_congr h hSlash hDir).symm

end ViewAdapters.Emission
