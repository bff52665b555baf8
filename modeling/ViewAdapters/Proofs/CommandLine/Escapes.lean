import ViewAdapters.Proofs.CommandLine.Preparations
import ViewAdapters.Proofs.CommandLine.Statuses
import ViewAdapters.Proofs.Emission.Revisions

/-!
# Failures without a message

What escapes from a session is what escapes from preparing a generation or from reading the
documents of a report, and what the system refuses for the log file, the output directories and
the summary. In all other cases the session has a status.

* `generate_escaped_iff`: what escapes from a generation.
* `run_escaped_iff`: what escapes from a session.
* `ends_or_escapes`: all causes of a session without a message.
-/

namespace ViewAdapters.CommandLine

variable {ε δ : Type} [ToString δ] {env : Environment ε δ}

/-! ## Generations -/

theorem Prepared.ran_eq_files_iff (p : Prepared) {s : Session} {keep : Files → Log → Files}
    {fault : FileFault} : (p.ran env s keep).result = .error (.files fault) ↔
      ∃ emitters, Emission.requested p.settings p.viewModels p.platforms = .ok emitters ∧
        (Emission.preparation p.settings s.files emitters).result = .error fault :=
  Emission.runRevising_eq_files_iff

/-- A generation ends without a message: it is not prepared, or the system refuses a directory
or the summary. -/
inductive GenerationEscapes (env : Environment ε δ) (s : Session) (r : GenerateRequest)
    (keep : Files → Log → Files) : Escape ε → Prop
  | preparation {e : Escape ε} (h : PreparationEscapes env s r e) : GenerationEscapes env s r keep e
  | directories {p : Prepared} {emitters : List Emission.Emitter} {reason : RefusalReason}
      {path : String} (hPrepared : prepare env s r = .ok p)
      (hRequested : Emission.requested p.settings p.viewModels p.platforms = .ok emitters)
      (h : (Emission.preparation p.settings s.files emitters).result =
        .error (.refused reason path)) :
      GenerationEscapes env s r keep (.file (.refused reason path))
  | summary {p : Prepared} {summary : Summary} {text : String} {fault : FileFault}
      (hPrepared : prepare env s r = .ok p) (hRun : (p.ran env s keep).result = .ok summary)
      (hText : r.summary = some text)
      (h : (writeSummary (keep (p.ran env s keep).files (p.ran env s keep).log)
        env.limits.directories (.ofString text) summary).2 = some fault) :
      GenerationEscapes env s r keep (.file fault)

theorem ofRun_escaped_iff {fault : Emission.RunFault} {e : Escape ε} :
    (Exit.ofRun fault).ending = .escaped e ↔
      ∃ reason path, fault = .files (.refused reason path) ∧ e = .file (.refused reason path) := by
  constructor
  · intro h
    unfold Exit.ofRun at h
    split at h
    · cases h
      exact ⟨_, _, rfl, rfl⟩
    · contradiction
    · contradiction
  · rintro ⟨reason, path, rfl, rfl⟩
    rfl

/-- Only a summary that is not written ends a run with a summary without a message. -/
theorem conclude_escaped_iff {files : Files} {calls : Option Nat} {r : GenerateRequest}
    {summary : Summary} {e : Escape ε} :
    (exitAfter summary (conclude files calls r summary).2).ending = .escaped e ↔
      ∃ text fault, r.summary = some text ∧
        (writeSummary files calls (.ofString text) summary).2 = some fault ∧ e = .file fault := by
  unfold conclude
  cases hText : r.summary with
  | none => simp [exitAfter, exitOf_ending]
  | some text =>
    rcases hWrite : writeSummary files calls (.ofString text) summary with ⟨final, _ | fault⟩
    · simp [hWrite, exitAfter, exitOf_ending]
    · simp [hWrite, exitAfter, Exit.escape, eq_comm]

section Generations

variable {s : Session} {r : GenerateRequest} {keep : Files → Log → Files} {e : Escape ε}

theorem generationEscapes_of_refused {exit : Exit ε} (hPrepare : prepare env s r = .error exit) :
    GenerationEscapes env s r keep e ↔ exit.ending = .escaped e := by
  rw [← escapes_error (α := Prepared), ← hPrepare, escapes_prepare_iff]
  constructor
  · intro h
    cases h with
    | preparation h => exact h
    | directories hPrepared => cases hPrepare.symm.trans hPrepared
    | summary hPrepared => cases hPrepare.symm.trans hPrepared
  · exact .preparation

/-- What escapes from a generation that is prepared is told by the end of its run. -/
theorem generationEscapes_of_prepared {p : Prepared} (hPrepare : prepare env s r = .ok p) :
    GenerationEscapes env s r keep e ↔
      (∃ reason path, (p.ran env s keep).result = .error (.files (.refused reason path)) ∧
        e = .file (.refused reason path)) ∨
      ∃ summary text fault, (p.ran env s keep).result = .ok summary ∧ r.summary = some text ∧
        (writeSummary (keep (p.ran env s keep).files (p.ran env s keep).log)
          env.limits.directories (.ofString text) summary).2 = some fault ∧ e = .file fault := by
  constructor
  · intro h
    cases h with
    | preparation h =>
      rw [← escapes_prepare_iff, hPrepare] at h
      exact absurd h not_escapes_ok
    | directories hPrepared hRequested h =>
      cases hPrepare.symm.trans hPrepared
      exact .inl ⟨_, _, p.ran_eq_files_iff.2 ⟨_, hRequested, h⟩, rfl⟩
    | summary hPrepared hRun hText h =>
      cases hPrepare.symm.trans hPrepared
      exact .inr ⟨_, _, _, hRun, hText, h, rfl⟩
  · rintro (⟨reason, path, hRun, rfl⟩ | ⟨summary, text, fault, hRun, hText, h, rfl⟩)
    · obtain ⟨emitters, hRequested, h⟩ := p.ran_eq_files_iff.1 hRun
      exact .directories hPrepare hRequested h
    · exact .summary hPrepare hRun hText h

theorem generate_escaped_iff :
    (generate env s r keep).exit.ending = .escaped e ↔ GenerationEscapes env s r keep e := by
  cases hPrepare : prepare env s r with
  | error exit => rw [generate_of_refused hPrepare, generationEscapes_of_refused hPrepare]
  | ok p =>
    rw [generationEscapes_of_prepared hPrepare]
    cases hRun : (p.ran env s keep).result with
    | error fault =>
      rw [generate_of_stopped hPrepare hRun, ofRun_escaped_iff]
      simp
    | ok summary =>
      rw [generate_of_returned hPrepare hRun, conclude_escaped_iff]
      simp

end Generations

/-! ## Sessions -/

/-- A session ends by a failure without a message of its own. -/
inductive SessionEscapes (env : Environment ε δ) (s : Session) (arguments : List String) :
    Escape ε → Prop
  | logFile {request : Request} {fault : FileFault}
      (hRequest : Request.parse arguments = .ok request)
      (h : openLog s.files request.logFile = .error fault) :
      SessionEscapes env s arguments (.file fault)
  | generation {request : Request} {files : Files} {log : Option LogFile} {r : GenerateRequest}
      {e : Escape ε} (hRequest : Request.parse arguments = .ok request)
      (hLog : openLog s.files request.logFile = .ok (files, log))
      (hTask : request.task = .generate r)
      (h : GenerationEscapes env { s with files } r (keeper s request log) e) :
      SessionEscapes env s arguments e
  | usage {request : Request} {files : Files} {log : Option LogFile} {metadata : String}
      {e : Escape ε} (hRequest : Request.parse arguments = .ok request)
      (hLog : openLog s.files request.logFile = .ok (files, log))
      (hTask : request.task = .stats metadata)
      (h : MetadataEscapes env.reader env.limits files s.home (.ofString metadata) e) :
      SessionEscapes env s arguments e

omit [ToString δ] in
theorem stats_escaped_iff {s : Session} {metadata : String} {keep : Files → Log → Files}
    {e : Escape ε} : (stats env s metadata keep).exit.ending = .escaped e ↔
      MetadataEscapes env.reader env.limits s.files s.home (.ofString metadata) e := by
  rw [← escapes_metadata_iff, escapes_mapError]
  unfold stats
  cases Metadata.load env.reader env.limits s.files s.home (.ofString metadata) with
  | error fault => simp
  | ok vs => simp [Exit.success]

section Sessions

variable {s : Session} {arguments : List String} {e : Escape ε}

theorem not_sessionEscapes_of_stop {stop : Stop}
    (hRequest : Request.parse arguments = .error stop) : ¬ SessionEscapes env s arguments e := by
  intro h
  cases h with
  | logFile hOther => cases hRequest.symm.trans hOther
  | generation hOther => cases hRequest.symm.trans hOther
  | usage hOther => cases hRequest.symm.trans hOther

variable {request : Request} (hRequest : Request.parse arguments = .ok request)
include hRequest

theorem sessionEscapes_of_unopened {fault : FileFault}
    (hLog : openLog s.files request.logFile = .error fault) :
    SessionEscapes env s arguments e ↔ e = .file fault := by
  constructor
  · intro h
    cases h with
    | logFile hOther h =>
      cases hRequest.symm.trans hOther
      cases hLog.symm.trans h
      rfl
    | generation hOther hOpened =>
      cases hRequest.symm.trans hOther
      cases hLog.symm.trans hOpened
    | usage hOther hOpened =>
      cases hRequest.symm.trans hOther
      cases hLog.symm.trans hOpened
  · rintro rfl
    exact .logFile hRequest hLog

/-- What escapes from a session with an open log file is what escapes from its task. -/
theorem sessionEscapes_of_opened {files : Files} {log : Option LogFile}
    (hLog : openLog s.files request.logFile = .ok (files, log)) :
    SessionEscapes env s arguments e ↔
      (∃ r, request.task = .generate r ∧
        GenerationEscapes env { s with files } r (keeper s request log) e) ∨
      ∃ metadata, request.task = .stats metadata ∧
        MetadataEscapes env.reader env.limits files s.home (.ofString metadata) e := by
  constructor
  · intro h
    cases h with
    | logFile hOther h =>
      cases hRequest.symm.trans hOther
      cases hLog.symm.trans h
    | generation hOther hOpened hTask h =>
      cases hRequest.symm.trans hOther
      cases hLog.symm.trans hOpened
      exact .inl ⟨_, hTask, h⟩
    | usage hOther hOpened hTask h =>
      cases hRequest.symm.trans hOther
      cases hLog.symm.trans hOpened
      exact .inr ⟨_, hTask, h⟩
  · rintro (⟨r, hTask, h⟩ | ⟨metadata, hTask, h⟩)
    · exact .generation hRequest hLog hTask h
    · exact .usage hRequest hLog hTask h

end Sessions

theorem run_escaped_iff {s : Session} {arguments : List String} {e : Escape ε} :
    (run env s arguments).exit.ending = .escaped e ↔ SessionEscapes env s arguments e := by
  cases hRequest : Request.parse arguments with
  | error stop =>
    rw [run_of_stop hRequest]
    refine iff_of_false ?_ (not_sessionEscapes_of_stop hRequest)
    cases stop with
    | help l => nofun
    | fault l fault => nofun
  | ok request =>
    cases hLog : openLog s.files request.logFile with
    | error fault =>
      rw [run_of_unopened hRequest hLog, sessionEscapes_of_unopened hRequest hLog]
      simp [Exit.escape, eq_comm]
    | ok opened =>
      obtain ⟨files, log⟩ := opened
      rw [(run_of_opened env hRequest hLog).2, sessionEscapes_of_opened hRequest hLog]
      cases hTask : request.task with
      | generate r => simp [perform, generate_escaped_iff]
      | stats metadata => simp [perform, stats_escaped_iff]

/-- A session ends without a message for exactly these causes, and with one of three statuses
if there is none of them. -/
theorem ends_or_escapes (env : Environment ε δ) (s : Session) (arguments : List String) :
    (∀ e, (run env s arguments).exit.ending = .escaped e ↔ SessionEscapes env s arguments e) ∧
      ((∀ e, ¬ SessionEscapes env s arguments e) →
        ∃ status ≤ 2, (run env s arguments).exit.ending = .exited status) := by
  refine ⟨fun e => run_escaped_iff, fun hNone => ?_⟩
  cases hEnding : (run env s arguments).exit.ending with
  | exited status => exact ⟨status, isRegular_run s arguments status hEnding, rfl⟩
  | escaped e => exact absurd (run_escaped_iff.1 hEnding) (hNone e)

theorem firstSecond_le_zero : Calendar.firstSecond ≤ 0 := by
  unfold Calendar.firstSecond
  omega

theorem zero_le_lastSecond : 0 ≤ Calendar.lastSecond := by
  unfold Calendar.lastSecond
  omega

/-- A session in the root directory, which is its home, at the start of 1970. -/
def sessionWith (files : Files) : Session where
  files := files
  home := ⟨Path.separator, []⟩
  epoch := none
  present := ⟨0, firstSecond_le_zero, zero_le_lastSecond⟩
  logTime := ""

/-- A document of a single byte, which starts no character. -/
def undecodable : Session :=
  sessionWith ((Files.empty []).put ["vm.yml"] (.file ⟨#[0xFF]⟩))

/-- None of the three statuses is left: the fault of the encoding escapes. -/
theorem undecodable_escapes :
    (run Environment.standard undecodable ["generate", "vm.yml"]).exit.ending =
      .escaped (.encoding ⟨0, 1, 0xFF, .badStart⟩) := by
  decide +kernel

end ViewAdapters.CommandLine
