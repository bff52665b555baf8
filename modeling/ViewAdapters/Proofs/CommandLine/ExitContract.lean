import ViewAdapters.Proofs.CommandLine.Escapes
import ViewAdapters.Proofs.Emission.Stops

/-!
# Ends of generations

What a generation without a log file leaves, in whatever order its workers take their jobs: its
status tells whether a pair has failed, the summary is in its file whatever the status, and no
file has changed if the session ends with a status before the run returns. All that can be
refused is refused before the first directory is made. On names that files can have, directories
that do not lie too deep only fail by a refusal of the system, which has no status. Another name
that is given to a directory in the configuration is told with a status, although directories
may have been made before it.

* `ran_of_unlogged`: without a log file, the emitters of a run stay as they were prepared.
* `unchanged_of_stopped`: a run that is stopped with a status has changed no file.
* `conclude_cases`: the end of a run with a summary.
* `keepsContract_of_asks`: all ends of a generation keep the contract.
* `changed_by_halfNamed`: without null characters alone they do not.
-/

namespace ViewAdapters.CommandLine

variable {ε δ : Type} [ToString δ] {env : Environment ε δ}

/-! ## Prepared generations -/

/-- What a prepared generation is made of. -/
structure Prepared.IsOf (env : Environment ε δ) (p : Prepared) (s : Session) (r : GenerateRequest)
    (c : Configuration) (given : Option Calendar.DateTime) (time : Calendar.UtcSecond) :
    Prop where
  configuration : Configuration.load env.reader s.files s.home (configurationPath s r) = .ok c
  clock : generationTime given s.epoch s.present = .ok time
  root : p.settings.root = outputOf s.files r c
  calls : p.settings.calls = env.limits.directories
  emitters : p.settings.emitters = Platform.all.map fun q =>
    .ofBackendBy env.renderer (backendOf c (templatesOf c s.files) time q)
  backendsWith : p.backendsWith = fun files => (backendsOf s c given files).toOption.getD []

/-- What is prepared comes from a configuration and a time. -/
theorem exists_isOf_of_prepare {s : Session} {r : GenerateRequest} {p : Prepared}
    (h : prepare env s r = .ok p) : ∃ c given time, p.IsOf env s r c given time := by
  unfold prepare at h
  obtain ⟨given, -, h⟩ := bind_eq_ok.1 h
  obtain ⟨c, hConfiguration, h⟩ := bind_eq_ok.1 h
  obtain ⟨vs, -, h⟩ := bind_eq_ok.1 h
  obtain ⟨backends, hBackends, h⟩ := bind_eq_ok.1 h
  obtain ⟨time, hTime, rfl⟩ := backendsOf_eq_ok_iff.1 (mapError_eq_ok.1 hBackends)
  split at h
  · contradiction
  · obtain ⟨settings, hSettings, h⟩ := bind_eq_ok.1 h
    have hMake := mapError_eq_ok.1 hSettings
    unfold Emission.Settings.make at hMake
    split at hMake
    · cases hMake
      cases h
      exact ⟨c, given, time, mapError_eq_ok.1 hConfiguration, hTime, rfl, rfl, by simp, rfl⟩
    · contradiction

section Prepared

variable {s : Session} {r : GenerateRequest} {p : Prepared} {c : Configuration}
  {given : Option Calendar.DateTime} {time : Calendar.UtcSecond}

/-- A prepared run has an emitter for each platform, from the built-in backend. -/
theorem Prepared.IsOf.emitter? (h : p.IsOf env s r c given time) (q : Platform) :
    p.settings.emitter? q =
      some (.ofBackendBy env.renderer (backendOf c (templatesOf c s.files) time q)) := by
  unfold Emission.Settings.emitter?
  rw [h.emitters]
  cases q <;> rfl

/-- While the files stay as they are, the emitters of a generation stay as they are. -/
theorem Prepared.IsOf.revise_eq (h : p.IsOf env s r c given time) {e : Emission.Emitter}
    (he : p.settings.emitter? e.platform = some e) (log : Log) :
    p.revise env (fun _ => s.files) log e = e := by
  rw [h.emitter?] at he
  unfold Prepared.revise
  rw [h.backendsWith]
  dsimp only
  rw [backendsOf_eq, h.clock]
  generalize e.platform = q at he ⊢
  cases he
  cases q <;> rfl

end Prepared

/-- Without a log file, the run of a generation is one whose emitters are not revised. -/
theorem ran_of_unlogged {s : Session} {r : GenerateRequest} {p : Prepared}
    (h : prepare env s r = .ok p) :
    p.ran env s (fun files _ => files) =
      Emission.run p.settings s.files p.viewModels p.platforms := by
  obtain ⟨c, given, time, hOf⟩ := exists_isOf_of_prepare h
  refine Emission.runRevising_eq_run fun emitters hRequested e he log => ?_
  rcases Emission.requested_cases p.settings p.viewModels p.platforms with
    ⟨asked, hAsked, -, hMem⟩ | ⟨fault, hFault, -, -⟩
  · cases hRequested.symm.trans hAsked
    exact hOf.revise_eq ((hMem e).1 he).2 log
  · cases hRequested.symm.trans hFault

/-! ## Names of a kind -/

/-- All names that lead a generation to its files are of a kind. -/
structure GenerateRequest.Has (kind : Nat → Prop) (reader : Document.Reader ε) (s : Session)
    (r : GenerateRequest) : Prop where
  files : s.files.Has kind
  output : ∀ text, r.output = some text → HasPoints kind text
  summary : ∀ text, r.summary = some text → HasPoints kind text
  /-- The configured output directory, and those of the platforms in it. -/
  configuration : ∀ c,
    Configuration.load reader s.files s.home (configurationPath s r) = .ok c →
      (∀ path, c.output = some path → path.Has kind) ∧
        ∀ d ∈ c.directories, HasPoints kind d.2

/-- The directories that a generation makes do not lie too deep. -/
structure GenerateRequest.IsShallow (env : Environment ε δ) (s : Session) (r : GenerateRequest) :
    Prop where
  output : ∀ p, prepare env s r = .ok p → ∀ e ∈ p.settings.emitters,
    (e.path p.settings.root).IsShallow env.limits.directories
  summary : ∀ text, r.summary = some text →
    (Path.ofString text).parent.IsShallow env.limits.directories

namespace GenerateRequest.Has

variable {reader : Document.Reader ε} {s : Session} {r : GenerateRequest} {c : Configuration}

theorem workingPath {kind : Nat → Prop} (hKind : IsPathKind kind) {files : Files}
    (h : files.Has kind) : files.workingPath.Has kind :=
  Path.has_of_root hKind (by simp [Files.workingPath, Path.separator]) h.workingPlace

/-- The output directory has names of the kind, as the standard one is named. -/
theorem outputOf (h : r.Has IsNamePoint reader s)
    (hLoad : Configuration.load reader s.files s.home (configurationPath s r) = .ok c) :
    (outputOf s.files r c).IsNameable := by
  unfold CommandLine.outputOf
  cases hOutput : r.output with
  | some text => exact Path.has_ofString isPathKind_isNamePoint (h.output text hOutput)
  | none =>
    cases hConfigured : c.output with
    | some path => exact (h.configuration c hLoad).1 path hConfigured
    | none =>
      refine (workingPath isPathKind_isNamePoint h.files).child isPathKind_isNamePoint ?_
      unfold HasPoints
      decide

/-- The directory of a backend is one that a file can have, as its settings are. -/
theorem directory (h : r.Has IsNamePoint reader s)
    (hLoad : Configuration.load reader s.files s.home (configurationPath s r) = .ok c)
    (templates : UserTemplate.Templates) (time : Calendar.UtcSecond) (q : Platform) :
    IsNameable (backendOf c templates time q).directory := by
  have hStandard : ∀ q : Platform, IsNameable q.standardDirectory := by
    unfold IsNameable HasPoints
    intro q
    cases q <;> decide
  show IsNameable ((shown (c.directories.lookup q.name)).getD q.standardDirectory)
  cases hShown : shown (c.directories.lookup q.name) with
  | none => exact hStandard q
  | some text =>
    have hLookup := (Option.filter_eq_some_iff.1 hShown).1
    exact (h.configuration c hLoad).2 _ (SortedMap.mem_of_lookup hLookup)

/-- Files can have the names of all output directories of a generation. -/
theorem emitters (h : r.Has IsNamePoint env.reader s) {p : Prepared}
    (hPrepare : prepare env s r = .ok p) {e : Emission.Emitter} (he : e ∈ p.settings.emitters) :
    (e.path p.settings.root).IsNameable := by
  obtain ⟨c, given, time, hOf⟩ := exists_isOf_of_prepare hPrepare
  rw [hOf.emitters] at he
  obtain ⟨q, -, rfl⟩ := List.mem_map.1 he
  rw [hOf.root]
  have hDirectory := h.directory hOf.configuration (templatesOf c s.files) time q
  exact (h.outputOf hOf.configuration).child isPathKind_isNamePoint hDirectory

end GenerateRequest.Has

/-! ## Ends -/

/-- What a generation can leave, in whatever order the workers of its run take their jobs: the
files, the summary of the run if it returns, and the end. -/
inductive GenerationEnds (env : Environment ε δ) (s : Session) (r : GenerateRequest) :
    Files → Option Summary → Ending ε → Prop
  | refused {exit : Exit ε} (h : prepare env s r = .error exit) :
      GenerationEnds env s r s.files none exit.ending
  | stopped {p : Prepared} {final : Files} {fault : Emission.RunFault}
      (h : prepare env s r = .ok p)
      (hRun : Emission.Completes p.settings s.files p.viewModels p.platforms final
        (.error fault)) : GenerationEnds env s r final none (Exit.ofRun fault).ending
  | returned {p : Prepared} {final : Files} {summary : Summary} (h : prepare env s r = .ok p)
      (hRun : Emission.Completes p.settings s.files p.viewModels p.platforms final
        (.ok summary)) :
      GenerationEnds env s r (conclude final env.limits.directories r summary).1 (some summary)
        (exitAfter summary (conclude final env.limits.directories r summary).2).ending

/-- What a command line without a log file can leave: nothing but its end if it asks for nothing,
and else what its generation can leave. -/
inductive Ends (env : Environment ε δ) (s : Session) (arguments : List String) :
    Files → Option Summary → Ending ε → Prop
  | stopped {stop : Stop} (h : Request.parse arguments = .error stop) :
      Ends env s arguments s.files none (Exit.ofStop stop).ending
  | generation {request : Request} {r : GenerateRequest} {final : Files}
      {summary? : Option Summary} {ending : Ending ε}
      (hRequest : Request.parse arguments = .ok request) (hLog : request.logFile = none)
      (hTask : request.task = .generate r) (h : GenerationEnds env s r final summary? ending) :
      Ends env s arguments final summary? ending

/-- A command line of the command `generate` without a log file, as far as it is one at all. -/
def AsksUnlogged (arguments : List String) : Prop :=
  ∀ request, Request.parse arguments = .ok request →
    request.logFile = none ∧ ∃ r, request.task = .generate r

/-- A generation without a log has one of its ends. -/
theorem generationEnds_generate (env : Environment ε δ) (s : Session) (r : GenerateRequest) :
    ∃ summary?, GenerationEnds env s r (generate env s r fun files _ => files).files summary?
      (generate env s r fun files _ => files).exit.ending := by
  cases hPrepare : prepare env s r with
  | error exit =>
    rw [generate_of_refused hPrepare]
    exact ⟨none, .refused hPrepare⟩
  | ok p =>
    have hRan := ran_of_unlogged hPrepare
    have hRun := Emission.completes_run p.settings s.files p.viewModels p.platforms
    rw [← hRan] at hRun
    cases hResult : (p.ran env s fun files _ => files).result with
    | error fault =>
      rw [hResult] at hRun
      rw [generate_of_stopped hPrepare hResult]
      exact ⟨none, .stopped hPrepare hRun⟩
    | ok summary =>
      rw [hResult] at hRun
      rw [generate_of_returned hPrepare hResult]
      exact ⟨some summary, .returned hPrepare hRun⟩

/-- The session that does one job after the other has one of these ends. -/
theorem ends_run (env : Environment ε δ) (s : Session) {arguments : List String}
    (hAsks : AsksUnlogged arguments) :
    ∃ summary?, Ends env s arguments (run env s arguments).files summary?
      (run env s arguments).exit.ending := by
  cases hRequest : Request.parse arguments with
  | error stop =>
    rw [run_of_stop hRequest]
    exact ⟨none, .stopped hRequest⟩
  | ok request =>
    obtain ⟨hLog, r, hTask⟩ := hAsks request hRequest
    have hOpen : openLog s.files request.logFile = .ok (s.files, none) := by
      rw [hLog]
      rfl
    obtain ⟨hFiles, hEnding⟩ := run_of_opened env hRequest hOpen
    rw [hFiles, hEnding, hTask]
    obtain ⟨summary?, hEnds⟩ := generationEnds_generate env s r
    exact ⟨summary?, .generation hRequest hLog hTask hEnds⟩

/-! ## The contract -/

/-- The system has refused an operation that the session does not tell of. -/
def Ending.IsRefusal (ending : Ending ε) : Prop :=
  ∃ fault : FileFault, fault.IsRefusal ∧ ending = .escaped (.file fault)

/-- What the end of a session says of its run and of its files. -/
structure KeepsContract (s : Session) (arguments : List String) (final : Files)
    (summary? : Option Summary) (ending : Ending ε) : Prop where
  /-- After a run that returns, the status tells whether a pair has failed. -/
  status : ∀ summary, summary? = some summary → ¬ ending.IsRefusal →
    (ending = .exited 0 ↔ ∀ o ∈ summary.outcomes, o.status ≠ .failed) ∧
      (ending ≠ .exited 0 → ending = .exited 1)
  /-- The file for the summary holds the summary, whatever the status. -/
  summary : ∀ summary request r text, summary? = some summary → ¬ ending.IsRefusal →
    Request.parse arguments = .ok request → request.task = .generate r →
    r.summary = some text → final.read (.ofString text) = .ok summary.json.document.toUTF8
  /-- A session that ends with a status before its run returns has changed no file. -/
  unchanged : summary? = none → ∀ status, ending = .exited status → final = s.files

/-- Before a run returns, the contract only speaks of the files. -/
theorem KeepsContract.of_unreturned {s : Session} {arguments : List String} {final : Files}
    {ending : Ending ε} (h : ∀ status, ending = .exited status → final = s.files) :
    KeepsContract s arguments final none ending where
  status := by
    intro summary hSome
    cases hSome
  summary := by
    intro summary request r text hSome
    cases hSome
  unchanged := fun _ => h

/-- A summary has no failures exactly if no outcome is one. -/
theorem hasFailures_eq_false_iff {summary : Summary} :
    summary.hasFailures = false ↔ ∀ o ∈ summary.outcomes, o.status ≠ .failed := by
  unfold Summary.hasFailures Summary.failures
  rw [Bool.not_eq_false', List.isEmpty_iff, List.filter_eq_nil_iff]
  simp

/-- Where files can have the names of a path, a summary is written there or the system refuses
it. -/
theorem writeSummary_cases {files : Files} {calls : Option Nat} {path : Path} (summary : Summary)
    (hPath : path.IsNameable) (hShallow : path.parent.IsShallow calls) :
    (∃ final, writeSummary files calls path summary = (final, none) ∧
      final.read path = .ok summary.json.document.toUTF8) ∨
    ∃ final fault, writeSummary files calls path summary = (final, some fault) ∧
      fault.IsRefusal := by
  unfold writeSummary
  rcases hMade : files.makeDirectories calls path.parent with ⟨made, _ | fault⟩
  · cases hWrite : made.write path summary.json.document.toUTF8 with
    | ok final => exact .inl ⟨final, by simp only [hWrite], Files.read_of_write hWrite⟩
    | error fault =>
      have hWithin := Files.write_isWithin isPathKind_isNamePoint hPath hWrite
      exact .inr ⟨made, fault, by simp only [hWrite], hWithin.of_isNamePoint⟩
  · rcases Files.makeDirectories_isWithin isPathKind_isNamePoint hPath.parent hMade with
      hWithin | ⟨-, hDeep⟩
    · exact .inr ⟨made, fault, rfl, hWithin.of_isNamePoint⟩
    · exact absurd hShallow hDeep

/-- The end of a run with a summary, if the system refuses nothing. -/
theorem conclude_cases {files : Files} {calls : Option Nat} {r : GenerateRequest}
    (summary : Summary) (hNames : ∀ text, r.summary = some text → IsNameable text)
    (hShallow : ∀ text, r.summary = some text → (Path.ofString text).parent.IsShallow calls) :
    ((exitAfter summary (conclude files calls r summary).2 : Exit ε).ending =
        .exited (if summary.hasFailures then 1 else 0) ∧
      ∀ text, r.summary = some text →
        (conclude files calls r summary).1.read (.ofString text) =
          .ok summary.json.document.toUTF8) ∨
    (exitAfter summary (conclude files calls r summary).2 : Exit ε).ending.IsRefusal := by
  unfold conclude
  cases hText : r.summary with
  | none => exact .inl ⟨exitOf_ending summary, nofun⟩
  | some text =>
    have hPath : (Path.ofString text).IsNameable :=
      Path.has_ofString isPathKind_isNamePoint (hNames text hText)
    rcases @writeSummary_cases files _ _ summary hPath (hShallow text hText) with
      ⟨final, hWrite, hRead⟩ | ⟨final, fault, hWrite, hFault⟩
    · simp only [hWrite]
      refine .inl ⟨exitOf_ending summary, ?_⟩
      rintro other hOther
      cases hOther
      exact hRead
    · simp only [hWrite]
      exact .inr ⟨fault, hFault, rfl⟩

section Contract

variable {s : Session} {r : GenerateRequest} {arguments : List String}

/-- A generation that ends with a status before its run returns has changed no file: on names
that files can have, what stops a run in its directories is a refusal, which has no status. -/
theorem unchanged_of_stopped (hNames : r.Has IsNamePoint env.reader s)
    (hShallow : r.IsShallow env s) {p : Prepared} {final : Files} {fault : Emission.RunFault}
    (hPrepare : prepare env s r = .ok p)
    (hRun : Emission.Completes p.settings s.files p.viewModels p.platforms final (.error fault))
    {status : Nat} (hEnding : (Exit.ofRun fault : Exit ε).ending = .exited status) :
    final = s.files := by
  cases hRun with
  | refused => rfl
  | @unprepared emitters f hRequested hPrepared =>
    exfalso
    have hEmitters : ∀ e ∈ emitters, e ∈ p.settings.emitters := by
      intro e he
      rcases Emission.requested_cases p.settings p.viewModels p.platforms with
        ⟨asked, hAsked, -, hMem⟩ | ⟨other, hOther, -, -⟩
      · cases hRequested.symm.trans hAsked
        exact List.mem_reverse.1 (List.mem_of_find?_eq_some ((hMem e).1 he).2)
      · cases hRequested.symm.trans hOther
    obtain ⟨c, given, time, hOf⟩ := exists_isOf_of_prepare hPrepare
    rw [Emission.preparation_of_error hPrepared, hOf.calls] at hPrepared
    rcases Emission.prepareAll_isWithin isPathKind_isNamePoint hNames.files
        (fun e he => hNames.emitters hPrepare (hEmitters e he)) hPrepared with
      hWithin | ⟨-, e, he, hDeep⟩
    · obtain ⟨reason, path, rfl⟩ := hWithin.of_isNamePoint
      cases hEnding
    · exact hDeep (hShallow.output p hPrepare e (hEmitters e he))

/-- After a run that returns, the contract is kept by the conclusion. -/
theorem keepsContract_of_returned {request : Request}
    (hRequest : Request.parse arguments = .ok request) (hTask : request.task = .generate r)
    {calls : Option Nat} (hNames : ∀ text, r.summary = some text → IsNameable text)
    (hShallow : ∀ text, r.summary = some text → (Path.ofString text).parent.IsShallow calls)
    (files : Files) (summary : Summary) :
    KeepsContract s arguments (conclude files calls r summary).1 (some summary)
      (exitAfter summary (conclude files calls r summary).2 : Exit ε).ending := by
  rcases @conclude_cases ε files calls r summary hNames hShallow with
    ⟨hStatus, hSummary⟩ | hRefusal
  · refine ⟨?_, ?_, ?_⟩
    · intro other hOther _
      cases hOther
      rw [hStatus, ← hasFailures_eq_false_iff]
      cases summary.hasFailures <;> simp
    · intro other request' r' text hOther _ hParse hGenerate hText
      cases hOther
      cases hRequest.symm.trans hParse
      cases hTask.symm.trans hGenerate
      exact hSummary text hText
    · intro hNone
      cases hNone
  · refine ⟨fun _ _ hNot => absurd hRefusal hNot,
      fun _ _ _ _ _ hNot => absurd hRefusal hNot, ?_⟩
    intro hNone
    cases hNone

/-- Each end of a session keeps the contract, under the conditions on its names. -/
theorem keepsContract_of_ends
    (hNames : ∀ request r, Request.parse arguments = .ok request →
      request.task = .generate r → r.Has IsNamePoint env.reader s ∧ r.IsShallow env s)
    {final : Files} {summary? : Option Summary} {ending : Ending ε}
    (h : Ends env s arguments final summary? ending) :
    KeepsContract s arguments final summary? ending := by
  cases h with
  | stopped hStop => exact .of_unreturned fun _ _ => rfl
  | generation hRequest hLog hTask hEnds =>
    obtain ⟨hNames, hShallow⟩ := hNames _ _ hRequest hTask
    cases hEnds with
    | refused hPrepare => exact .of_unreturned fun _ _ => rfl
    | stopped hPrepare hRun =>
      exact .of_unreturned fun _ hEnding =>
        unchanged_of_stopped hNames hShallow hPrepare hRun hEnding
    | returned hPrepare hRun =>
      exact keepsContract_of_returned hRequest hTask hNames.summary hShallow.summary _ _

end Contract

/-- Every end of a generation keeps the contract, and the session has one of these ends, whatever
documents are made of and whatever templates come to: on names that files can have, and where no
directory lies too deep. -/
theorem keepsContract_of_asks (env : Environment ε δ) (s : Session) {arguments : List String}
    (hAsks : AsksUnlogged arguments)
    (hNames : ∀ request r, Request.parse arguments = .ok request →
      request.task = .generate r → r.Has IsNamePoint env.reader s ∧ r.IsShallow env s) :
    (∀ final summary? ending, Ends env s arguments final summary? ending →
      KeepsContract s arguments final summary? ending) ∧
    ∃ summary?, Ends env s arguments (run env s arguments).files summary?
      (run env s arguments).exit.ending :=
  ⟨fun _ _ _ h => keepsContract_of_ends hNames h, ends_run env s hAsks⟩

/-! ## Two view-models of one name -/

/-- A request for the adapters of a document for all platforms. -/
def requestFor (metadata : String) : GenerateRequest where
  metadata := metadata
  platforms := []
  output := none
  config := none
  workers := none
  isWorkersEmpty := false
  timestamp := none
  summary := none
  isDryRun := false

/-- Files with a configuration and with two view-models of one name. -/
def twinFiles : Files :=
  ((Files.empty []).put [Configuration.fileName] (.file "output: out".toUTF8)).put ["vm.yml"]
    (.file "[{name: X}, {name: X}]".toUTF8)

def twins : Session := sessionWith twinFiles

def twinArguments : List String := ["generate", "vm.yml", "--summary-json", "s.json"]

def twinRequest : GenerateRequest := { requestFor "vm.yml" with summary := some "s.json" }

/-- What is asked for, what is configured, and how the session ends. -/
theorem evaluated_twins :
    Request.parse twinArguments = .ok ⟨false, none, .generate twinRequest⟩ ∧
      Configuration.load Yaml.reader twins.files twins.home (configurationPath twins twinRequest) =
        .ok { Configuration.standard ⟨"/", []⟩ with output := some ⟨"/", ["out"]⟩ } ∧
      (run .standard twins twinArguments).exit.ending = .exited 1 ∧
      (run .standard twins twinArguments).files.get ["s.json"] ≠ none := by
  decide +kernel

theorem asksUnlogged_twinArguments : AsksUnlogged twinArguments := by
  intro request hRequest
  cases evaluated_twins.1.symm.trans hRequest
  exact ⟨rfl, twinRequest, rfl⟩

/-- A configuration and a document in the root directory have plain names. -/
theorem has_documents {kind : Nat → Prop} (configuration document : ByteArray)
    (hNames : HasPoints kind Configuration.fileName ∧ HasPoints kind "vm.yml") :
    (((Files.empty []).put [Configuration.fileName] (.file configuration)).put ["vm.yml"]
      (.file document)).Has kind := by
  refine (Files.has_empty.put ?_ _).put ?_ _
  · rintro name hName
    rw [List.mem_singleton.1 hName]
    exact hNames.1
  · rintro name hName
    rw [List.mem_singleton.1 hName]
    exact hNames.2

theorem has_twins : twinRequest.Has IsNamePoint Yaml.reader twins where
  files := has_documents _ _ (by unfold HasPoints; decide)
  output := nofun
  summary := by
    rintro text ⟨⟩
    unfold HasPoints
    decide
  configuration := by
    intro c hLoad
    cases evaluated_twins.2.1.symm.trans hLoad
    refine ⟨?_, nofun⟩
    rintro path ⟨⟩
    refine Path.has_of_root isPathKind_isNamePoint (by decide) ?_
    unfold HasPoints
    decide

theorem isShallow_twins : twinRequest.IsShallow .standard twins where
  output := by
    intro p hPrepare e he
    obtain ⟨c, given, time, hOf⟩ := exists_isOf_of_prepare hPrepare
    cases evaluated_twins.2.1.symm.trans hOf.configuration
    rw [hOf.emitters] at he
    obtain ⟨q, -, rfl⟩ := List.mem_map.1 he
    rw [hOf.root]
    have hFew : ∀ q : Platform,
        ((⟨"/", ["out"]⟩ : Path).child q.standardDirectory).parts.length ≤ 985 := by
      intro q
      cases q <;> decide
    rintro n ⟨⟩
    exact hFew q
  summary := by
    rintro text ⟨⟩ n ⟨⟩
    decide

/-- The second view-model fails on both platforms; the summary says so, and so does the status. -/
theorem keepsContract_twins :
    (run .standard twins twinArguments).exit.ending = .exited 1 ∧
      ∃ summary, Ends .standard twins twinArguments (run .standard twins twinArguments).files
          (some summary) (.exited 1) ∧
        (¬ ∀ o ∈ summary.outcomes, o.status ≠ .failed) ∧
        (run .standard twins twinArguments).files.read (.ofString "s.json") =
          .ok summary.json.document.toUTF8 := by
  obtain ⟨hParse, -, hRun⟩ := evaluated_twins
  have hNames : ∀ request r, Request.parse twinArguments = .ok request →
      request.task = .generate r →
        r.Has IsNamePoint Yaml.reader twins ∧ r.IsShallow .standard twins := by
    intro request r hRequest hTask
    cases hParse.symm.trans hRequest
    cases hTask
    exact ⟨has_twins, isShallow_twins⟩
  obtain ⟨hKeeps, summary?, hEnds⟩ :=
    keepsContract_of_asks .standard twins asksUnlogged_twinArguments hNames
  have hContract := hKeeps _ _ _ hEnds
  rw [hRun.1] at hEnds hContract
  have hRegular : ¬ (Ending.exited 1 : Ending Yaml.ScalarFault).IsRefusal := nofun
  cases summary? with
  | none =>
    have hSame := hContract.unchanged rfl 1 rfl
    refine absurd ?_ hRun.2
    rw [hSame]
    rfl
  | some summary =>
    refine ⟨hRun.1, summary, hEnds, ?_, ?_⟩
    · intro hNone
      cases ((hContract.status summary rfl hRegular).1.2 hNone)
    · exact hContract.summary summary _ twinRequest "s.json" rfl hRegular hParse rfl rfl

/-! ## A name that no directory can have -/

/-- Files with a document, and with a configuration in which the directory for iOS is named by the
first half of a character. -/
def halfNamedFiles : Files :=
  ((Files.empty []).put [Configuration.fileName]
    (.file "ios:\n  output_dir: \"\\ud83d\"".toUTF8)).put ["vm.yml"]
      (.file "[{name: X}]".toUTF8)

def halfNamed : Session := sessionWith halfNamedFiles

def halfNamedArguments : List String := ["generate", "vm.yml", "--output", "out"]

def halfNamedRequest : GenerateRequest := { requestFor "vm.yml" with output := some "out" }

/-- What is asked for, what is configured, and what stops the run after the directory for Android
is made. -/
theorem evaluated_halfNamed :
    Request.parse halfNamedArguments = .ok ⟨false, none, .generate halfNamedRequest⟩ ∧
      Configuration.load Yaml.reader halfNamed.files halfNamed.home
          (configurationPath halfNamed halfNamedRequest) =
        .ok { Configuration.standard ⟨"/", []⟩ with
          settings := ⟨⟨none, [], none⟩, ⟨some (Text.ofCodePoints [0xD83D]), [], none⟩⟩ } ∧
      (match prepare .standard halfNamed halfNamedRequest with
        | .error _ => false
        | .ok p =>
          let done := Emission.run p.settings halfNamed.files p.viewModels p.platforms
          done.result = .error (.files (.unencodable ⟨4, 1, 0xD83D⟩)) &&
            done.files.get ["out", "android"] = some .directory) = true := by
  decide +kernel

theorem has_halfNamed : halfNamedRequest.Has IsPlainPoint Yaml.reader halfNamed where
  files := has_documents _ _ (by unfold HasPoints; decide)
  output := by
    rintro text ⟨⟩
    unfold HasPoints
    decide
  summary := nofun
  configuration := by
    intro c hLoad
    cases evaluated_halfNamed.2.1.symm.trans hLoad
    refine ⟨nofun, ?_⟩
    unfold HasPoints
    decide

/-- No name has a null character, and the directory for Android is there although the session ends
with a status before its run returns. -/
theorem changed_by_halfNamed :
    (∀ request r, Request.parse halfNamedArguments = .ok request →
      request.task = .generate r → r.Has IsPlainPoint Yaml.reader halfNamed) ∧
    AsksUnlogged halfNamedArguments ∧
    ∃ final, Ends .standard halfNamed halfNamedArguments final none (.exited 1) ∧
      final.get ["out", "android"] = some .directory ∧
      halfNamed.files.get ["out", "android"] = none ∧
      ¬ KeepsContract halfNamed halfNamedArguments final none
        (.exited 1 : Ending Yaml.ScalarFault) := by
  obtain ⟨hParse, -, hStops⟩ := evaluated_halfNamed
  have hNone : halfNamed.files.get ["out", "android"] = none := rfl
  refine ⟨?_, ?_, ?_⟩
  · intro request r hRequest hTask
    cases hParse.symm.trans hRequest
    cases hTask
    exact has_halfNamed
  · intro request hRequest
    cases hParse.symm.trans hRequest
    exact ⟨rfl, halfNamedRequest, rfl⟩
  · cases hPrepare : prepare .standard halfNamed halfNamedRequest with
    | error exit =>
      rw [hPrepare] at hStops
      cases hStops
    | ok p =>
      rw [hPrepare] at hStops
      obtain ⟨hResult, hMade⟩ := Bool.and_eq_true_iff.1 hStops
      have hRun := Emission.completes_run p.settings halfNamed.files p.viewModels p.platforms
      rw [of_decide_eq_true hResult] at hRun
      refine ⟨_, .generation hParse rfl rfl (.stopped hPrepare hRun),
        of_decide_eq_true hMade, hNone, fun hKeeps => ?_⟩
      have hSame := hKeeps.unchanged rfl 1 rfl
      rw [← hSame, of_decide_eq_true hMade] at hNone
      cases hNone

end ViewAdapters.CommandLine
