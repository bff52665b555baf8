import ViewAdapters.CommandLine.Session
import ViewAdapters.Proofs.Adapter.Parts

/-!
# Statuses

A session ends with success, a failure or a misuse of the command line, if it does not end
without a message.

* `generate_of_refused`, `generate_of_stopped`, `generate_of_returned`: a generation by its steps.
* `run_of_stop`, `run_of_unopened`, `run_of_opened`: a session by its request and its log file.
* `exitOf_ending`: the status after a run with a summary.
* `isRegular_run`: a session that has a status has one of three.
-/

namespace ViewAdapters.CommandLine

variable {ε δ : Type} [ToString δ] {env : Environment ε δ}

/-! ## Generations by their steps -/

/-- The run of a prepared generation, whose log is written by `keep`. -/
def Prepared.ran (env : Environment ε δ) (p : Prepared) (s : Session)
    (keep : Files → Log → Files) : Emission.RunEnd :=
  Emission.runRevising (p.revise env (keep s.files)) p.settings s.files p.viewModels p.platforms

section Generation

variable {s : Session} {r : GenerateRequest} {keep : Files → Log → Files} {p : Prepared}

/-- A generation that cannot be prepared ends before it touches a file. -/
theorem generate_of_refused {exit : Exit ε} (h : prepare env s r = .error exit) :
    generate env s r keep = ⟨s.files, [], exit⟩ := by
  unfold generate
  rw [h]

/-- A run that stops before its jobs leaves what it has done to the directories. -/
theorem generate_of_stopped {fault : Emission.RunFault} (hPrepare : prepare env s r = .ok p)
    (hRun : (p.ran env s keep).result = .error fault) :
    generate env s r keep =
      ⟨keep (p.ran env s keep).files (p.ran env s keep).log, (p.ran env s keep).log,
        .ofRun fault⟩ := by
  unfold Prepared.ran at hRun ⊢
  unfold generate
  rw [hPrepare]
  dsimp only
  rw [hRun]

/-- Behind a run stands the summary file, if one is asked for. -/
theorem generate_of_returned {summary : Summary} (hPrepare : prepare env s r = .ok p)
    (hRun : (p.ran env s keep).result = .ok summary) :
    generate env s r keep =
      ⟨(conclude (keep (p.ran env s keep).files (p.ran env s keep).log) env.limits.directories r
          summary).1, (p.ran env s keep).log,
        exitAfter summary (conclude (keep (p.ran env s keep).files (p.ran env s keep).log)
          env.limits.directories r summary).2⟩ := by
  unfold Prepared.ran at hRun ⊢
  unfold generate
  rw [hPrepare]
  dsimp only
  rw [hRun]

end Generation

/-! ## Sessions by their steps -/

/-- How a session writes the log of a task. -/
def keeper (s : Session) (request : Request) (log : Option LogFile) : Files → Log → Files :=
  fun files lines =>
    log.elim files fun f => f.write s.logTime files (lines.visible request.isVerbose)

section Run

variable {s : Session} {arguments : List String} {request : Request}

/-- Arguments that are no request end the session where it began. -/
theorem run_of_stop {stop : Stop} (h : Request.parse arguments = .error stop) :
    run env s arguments = ⟨s.files, .ofStop stop⟩ := by
  unfold run
  rw [h]

/-- A log file that cannot be opened leaves the session as it is. -/
theorem run_of_unopened {fault : FileFault} (hRequest : Request.parse arguments = .ok request)
    (h : openLog s.files request.logFile = .error fault) :
    run env s arguments = ⟨s.files, .escape (.file fault)⟩ := by
  unfold run
  rw [hRequest]
  dsimp only
  rw [h]

/-- An opened log changes nothing about what a task does and how it ends. -/
theorem run_of_opened (env : Environment ε δ) {files : Files} {log : Option LogFile}
    (hRequest : Request.parse arguments = .ok request)
    (h : openLog s.files request.logFile = .ok (files, log)) :
    (run env s arguments).files =
        (perform env { s with files } request.task (keeper s request log)).files ∧
      (run env s arguments).exit.ending =
        (perform env { s with files } request.task (keeper s request log)).exit.ending := by
  unfold run
  rw [hRequest]
  dsimp only
  rw [h]
  exact ⟨rfl, rfl⟩

end Run

theorem exitOf_ending (summary : Summary) :
    (exitOf summary : Exit ε).ending = .exited (if summary.hasFailures then 1 else 0) := by
  unfold exitOf
  split
  · rfl
  · rfl

/-! ## Three statuses -/

/-- A session that ends so has one of the three statuses of the command line, if it has one. -/
def Exit.IsRegular (x : Exit ε) : Prop := ∀ status, x.ending = .exited status → status ≤ 2

namespace Exit

theorem isRegular_success (output : String) : (success output : Exit ε).IsRegular := by
  rintro status ⟨⟩
  decide

theorem isRegular_failure (message : String) : (failure message : Exit ε).IsRegular := by
  rintro status ⟨⟩
  decide

theorem isRegular_escape (e : Escape ε) : (escape e).IsRegular := by
  rintro status ⟨⟩

theorem isRegular_misuse (l : Level) (fault : Fault) :
    (misuse l fault : Exit ε).IsRegular := by
  rintro status ⟨⟩
  decide

theorem isRegular_ofStop (stop : Stop) : (ofStop stop : Exit ε).IsRegular := by
  cases stop with
  | help l => exact isRegular_success _
  | fault l fault => exact isRegular_misuse l fault

theorem isRegular_ofStored (fault : Document.StoredFault ε) : (ofStored fault).IsRegular := by
  cases fault with
  | malformed => exact isRegular_failure _
  | _ => exact isRegular_escape _

theorem isRegular_ofConfiguration (fault : Configuration.LoadFault ε) :
    (ofConfiguration fault).IsRegular := by
  unfold ofConfiguration
  split
  · exact isRegular_ofStored _
  · exact isRegular_escape _
  · exact isRegular_failure _

theorem isRegular_ofMetadata (fault : Metadata.LoadFault ε) : (ofMetadata fault).IsRegular := by
  unfold ofMetadata
  split
  · exact isRegular_failure _
  · exact isRegular_ofStored _
  · exact isRegular_escape _
  · exact isRegular_escape _
  · exact isRegular_failure _

theorem isRegular_ofDiscovery (fault : DiscoveryFault Empty) :
    (ofDiscovery fault : Exit ε).IsRegular := by
  unfold ofDiscovery generationFailure
  split <;> first | exact isRegular_failure _ | exact isRegular_escape _

theorem isRegular_ofRun (fault : Emission.RunFault) : (ofRun fault : Exit ε).IsRegular := by
  unfold ofRun generationFailure
  split
  · exact isRegular_escape _
  · exact isRegular_failure _
  · exact isRegular_failure _

end Exit

/-- Whatever keeps a generation from starting is told with one of the statuses, or escapes. -/
theorem isRegular_of_prepare {s : Session} {r : GenerateRequest} {exit : Exit ε}
    (h : prepare env s r = .error exit) : exit.IsRegular := by
  unfold prepare at h
  rcases bind_eq_error.1 h with h | ⟨given, -, h⟩
  · obtain ⟨fault, -, rfl⟩ := mapError_eq_error.1 h
    exact Exit.isRegular_misuse _ fault
  rcases bind_eq_error.1 h with h | ⟨c, -, h⟩
  · obtain ⟨fault, -, rfl⟩ := mapError_eq_error.1 h
    exact Exit.isRegular_ofConfiguration fault
  rcases bind_eq_error.1 h with h | ⟨vs, -, h⟩
  · obtain ⟨fault, -, rfl⟩ := mapError_eq_error.1 h
    exact Exit.isRegular_ofMetadata fault
  rcases bind_eq_error.1 h with h | ⟨backends, -, h⟩
  · obtain ⟨fault, -, rfl⟩ := mapError_eq_error.1 h
    exact Exit.isRegular_ofDiscovery fault
  split at h
  · cases h
    exact Exit.isRegular_escape _
  rcases bind_eq_error.1 h with h | ⟨settings, -, h⟩
  · obtain ⟨fault, -, rfl⟩ := mapError_eq_error.1 h
    exact Exit.isRegular_ofRun fault
  · cases h

theorem isRegular_exitOf (summary : Summary) : (exitOf summary : Exit ε).IsRegular := by
  intro status h
  rw [exitOf_ending] at h
  cases h
  split <;> decide

theorem isRegular_exitAfter (summary : Summary) (fault : Option FileFault) :
    (exitAfter summary fault : Exit ε).IsRegular := by
  cases fault with
  | none => exact isRegular_exitOf summary
  | some fault => exact Exit.isRegular_escape _

theorem isRegular_perform (s : Session) (task : Task) (keep : Files → Log → Files) :
    (perform env s task keep).exit.IsRegular := by
  cases task with
  | generate r =>
    show (generate env s r keep).exit.IsRegular
    unfold generate
    split
    · rename_i exit hPrepare
      exact isRegular_of_prepare hPrepare
    · dsimp only
      split
      · exact Exit.isRegular_ofRun _
      · exact isRegular_exitAfter _ _
  | stats metadata =>
    show (stats env s metadata keep).exit.IsRegular
    unfold stats
    split
    · exact Exit.isRegular_ofMetadata _
    · exact Exit.isRegular_success _

/-- A session ends with status 0, 1 or 2, or something escapes. -/
theorem isRegular_run (s : Session) (arguments : List String) :
    (run env s arguments).exit.IsRegular := by
  cases hRequest : Request.parse arguments with
  | error stop =>
    rw [run_of_stop hRequest]
    exact Exit.isRegular_ofStop stop
  | ok request =>
    cases hLog : openLog s.files request.logFile with
    | error fault =>
      rw [run_of_unopened hRequest hLog]
      exact Exit.isRegular_escape _
    | ok opened =>
      intro status h
      rw [(run_of_opened env hRequest hLog).2] at h
      exact isRegular_perform _ _ _ status h

end ViewAdapters.CommandLine
