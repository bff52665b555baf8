import ViewAdapters.Proofs.Emission.Completion
import ViewAdapters.Proofs.Emission.Requests
import ViewAdapters.Proofs.Files.PlainNames

/-!
# Runs that stop

A run has no summary if it is refused, which is settled before it looks at a file, or if
an output directory cannot be prepared. Both come before the first adapter is written. So all
that a run without a summary can leave are output directories that were made and from which
earlier adapters were taken away.

* `prepareAll_isWithin`: where names are of a kind, preparing directories stops only at a fault of
  that kind, so at a refusal of the system if files can have all these names.
* `stopsUnwritten_of_completes`: when a run has no summary, and what it leaves.
-/

namespace ViewAdapters.Emission

/-! ## Why directories are not prepared -/

section Prepare

variable {kind : Nat → Prop} {calls : Option Nat} {root : Path} {f : Files} {fault : FileFault}

theorem removeStale_isWithin (hKind : IsPathKind kind) {d : Path} {names : List String}
    (hd : d.Has kind) (hNames : ∀ name ∈ names, HasPoints kind name)
    (h : (removeStale d f names).result = .error fault) : fault.IsWithin kind := by
  induction names generalizing f with
  | nil => contradiction
  | cons name rest ih =>
    rw [List.forall_mem_cons] at hNames
    unfold removeStale at h
    dsimp only at h
    split at h
    · rename_i hRemove
      cases h
      exact Files.remove_isWithin hKind (hd.entry hNames.1) hRemove
    · exact ih hNames.2 h

theorem prepare_has {e : Emitter} (hf : f.Has kind) (he : (e.path root).Has kind) :
    (prepare calls root f e).files.Has kind := by
  rcases prepare_cases calls root f e with
    ⟨fault, hMade, -⟩ | ⟨made, place, hMade, -, hSame, hGet, -⟩
  · exact Files.makeDirectories_has hf he hMade
  · refine (Files.makeDirectories_has hf he hMade).of_subset hSame.1.workingPlace fun q hq => ?_
    rcases hGet q with hEq | ⟨hNone, -⟩
    · rwa [← hEq]
    · exact absurd hNone hq

theorem prepare_isWithin (hKind : IsPathKind kind) {e : Emitter} (hf : f.Has kind)
    (he : (e.path root).Has kind) (h : (prepare calls root f e).result = .error fault) :
    fault.IsWithin kind ∨ fault = .tooDeep ∧ ¬ (e.path root).IsShallow calls := by
  unfold prepare at h
  split at h
  · rename_i hMade
    cases h
    exact Files.makeDirectories_isWithin hKind he hMade
  · rename_i made hMade
    have hHas := Files.makeDirectories_has hf he hMade
    obtain ⟨-, hDir⟩ := Files.makeDirectories_spec hMade
    obtain ⟨place, hLeads⟩ := hDir rfl
    refine .inl (removeStale_isWithin hKind he (fun name hName => ?_) h)
    obtain ⟨hThere, -⟩ := (mem_namesWithEnding hLeads).1 hName
    exact hHas.places (place ++ [name]) (Option.isSome_iff_ne_none.1 hThere) name (by simp)

/-- Where names are of a kind, so are the faults of preparing directories, unless there are too
many directories on the way to one. -/
theorem prepareAll_isWithin (hKind : IsPathKind kind) {emitters : List Emitter} (hf : f.Has kind)
    (hPaths : ∀ e ∈ emitters, (e.path root).Has kind)
    (h : (prepareAll calls root f emitters).result = .error fault) :
    fault.IsWithin kind ∨
      fault = .tooDeep ∧ ∃ e ∈ emitters, ¬ (e.path root).IsShallow calls := by
  induction emitters generalizing f with
  | nil => contradiction
  | cons e rest ih =>
    rw [List.forall_mem_cons] at hPaths
    unfold prepareAll at h
    dsimp only at h
    split at h
    · rename_i hFirst
      cases h
      refine (prepare_isWithin hKind hf hPaths.1 hFirst).imp_right ?_
      rintro ⟨hFault, hDeep⟩
      exact ⟨hFault, e, by simp, hDeep⟩
    · refine (ih (prepare_has hf hPaths.1) hPaths.2 h).imp_right ?_
      rintro ⟨hFault, d, hd, hDeep⟩
      exact ⟨hFault, d, List.mem_cons_of_mem _ hd, hDeep⟩

end Prepare

/-- In a dry run nothing is prepared that could fail. -/
theorem preparation_of_error {s : Settings} {files : Files} {emitters : List Emitter}
    {fault : FileFault} (h : (preparation s files emitters).result = .error fault) :
    preparation s files emitters = prepareAll s.calls s.root files emitters := by
  cases hDry : s.isDryRun with
  | true =>
    unfold preparation at h
    rw [if_pos hDry] at h
    contradiction
  | false => exact preparation_of_notDry hDry files emitters

/-! ## Runs without a summary -/

/-- A run that stops has not written an adapter. -/
structure StopsUnwritten (s : Settings) (files : Files) (vs : List ViewModel)
    (request : List Selector) (final : Files) (result : Except RunFault Summary) : Prop where
  refused : IsRefused s vs request →
    final = files ∧ ∃ fault, result = .error fault ∧ ∀ f, fault ≠ .files f
  /-- A run whose directories are all prepared does not stop. -/
  returns : ∀ emitters, requested s vs request = .ok emitters →
    (preparation s files emitters).result = .ok () → ∃ summary, result = .ok summary
  /-- A run that is not refused stops while it prepares the directories of the emitters that
  it is asked for: at a refusal of the system, if files can have all the names and there are not
  too many of them. -/
  stopped : ∀ fault, ¬ IsRefused s vs request → result = .error fault →
    ∃ emitters f, fault = .files f ∧
      (∀ e, e ∈ emitters ↔ Asks request e.platform ∧ s.emitter? e.platform = some e) ∧
      Cleans s.root emitters files final ∧
      (files.IsPlain → (∀ e ∈ emitters, (e.path s.root).IsPlain) →
        f.IsRefusal ∨ (∃ other, f = .unencodable other) ∨ f = .tooDeep) ∧
      (files.IsNameable → (∀ e ∈ emitters, (e.path s.root).IsNameable) →
        f.IsRefusal ∨ f = .tooDeep ∧ ∃ e ∈ emitters, ¬ (e.path s.root).IsShallow s.calls)

/-- A run that stops is refused and leaves the files as they were, or stops while directories
are prepared, and has then made nothing but directories and taken away nothing but adapters. -/
theorem stopsUnwritten_of_completes {s : Settings} {files final : Files} {vs : List ViewModel}
    {request : List Selector} {result : Except RunFault Summary}
    (h : Completes s files vs request final result) :
    StopsUnwritten s files vs request final result := by
  cases h with
  | @refused fault hFault =>
    rcases requested_cases s vs request with ⟨emitters, hRequest, -, -⟩ |
      ⟨other, hOther, hNoFile, hRefused⟩
    · rw [hRequest] at hFault
      contradiction
    · cases hFault.symm.trans hOther
      refine ⟨fun _ => ⟨rfl, fault, rfl, hNoFile⟩, fun emitters hRequest => ?_,
        fun _ hNot => absurd hRefused hNot⟩
      rw [hRequest] at hFault
      contradiction
  | @unprepared emitters f hRequest hPrepared =>
    rcases requested_cases s vs request with ⟨asked, hAsked, hNot, hMem⟩ |
      ⟨fault, hFault, -, -⟩
    · cases hRequest.symm.trans hAsked
      have hPreparation := preparation_of_error hPrepared
      refine ⟨fun hRefused => absurd hRefused hNot, fun others hOthers hReady => ?_,
        fun fault _ hFault => ?_⟩
      · cases hRequest.symm.trans hOthers
        rw [hPrepared] at hReady
        contradiction
      · cases hFault
        rw [hPreparation] at hPrepared ⊢
        refine ⟨emitters, f, rfl, hMem, prepareAll_cleans s.calls s.root files emitters,
          fun hFiles hPaths => ?_, fun hFiles hPaths => ?_⟩
        · rcases prepareAll_isWithin isPathKind_isPlainPoint hFiles.has
              (fun e he => (hPaths e he).has) hPrepared with hWithin | ⟨hDeep, -⟩
          · exact hWithin.of_isPlainPoint.imp_right .inl
          · exact .inr (.inr hDeep)
        · exact (prepareAll_isWithin isPathKind_isNamePoint hFiles hPaths
            hPrepared).imp_left (·.of_isNamePoint)
    · rw [hRequest] at hFault
      contradiction
  | worked hRequest hPrepared hWorks =>
    rcases requested_cases s vs request with ⟨asked, -, hNot, -⟩ | ⟨fault, hFault, -, -⟩
    · exact ⟨fun hRefused => absurd hRefused hNot, fun _ _ _ => ⟨_, rfl⟩,
        fun _ _ hFault => nomatch hFault⟩
    · rw [hRequest] at hFault
      contradiction

/-- Settings for both platforms, each with a directory of its own. -/
def twoDirectories : Settings :=
  { twoWorkers with
    emitters := [⟨.android, "android", fun v => .ok ⟨v.name, []⟩⟩,
      ⟨.ios, "iOS", fun v => .ok ⟨v.name, []⟩⟩] }

/-- An adapter of an earlier run, and a file where the directory for iOS should be. -/
def blockedFiles : Files :=
  ((((Files.empty []).put ["out"] .directory).put ["out", "android"] .directory).put
    ["out", "android", "OldAdapter.kt"] (.file "old".toUTF8)).put
    ["out", "iOS"] (.file "".toUTF8)

/-- The earlier adapter is gone when the run stops at the directory for iOS, and nothing is
written. -/
theorem stopsUnwritten_blocked :
    (run twoDirectories blockedFiles [bare "A"] [.named "both"]).result =
        .error (.files (.refused .exists "out/iOS")) ∧
      (run twoDirectories blockedFiles [bare "A"] [.named "both"]).files.get
        ["out", "android", "OldAdapter.kt"] = none ∧
      ∃ emitters, Cleans twoDirectories.root emitters blockedFiles
        (run twoDirectories blockedFiles [bare "A"] [.named "both"]).files := by
  have hResult : (run twoDirectories blockedFiles [bare "A"] [.named "both"]).result =
      .error (.files (.refused .exists "out/iOS")) := by decide +kernel
  have hRun := stopsUnwritten_of_completes
    (completes_run twoDirectories blockedFiles [bare "A"] [.named "both"])
  have hNot : ¬ IsRefused twoDirectories [bare "A"] [.named "both"] := by
    intro hRefused
    obtain ⟨-, fault, hFault, hNoFile⟩ := hRun.refused hRefused
    cases hResult.symm.trans hFault
    exact hNoFile _ rfl
  obtain ⟨emitters, f, -, -, hCleans, -, -⟩ := hRun.stopped _ hNot hResult
  exact ⟨hResult, by decide +kernel, emitters, hCleans⟩

end ViewAdapters.Emission
