import ViewAdapters.Proofs.CommandLine.Backends

/-!
# Preparations that fail without a message

Most of what can go wrong in a session is told in a message, and the session ends with a status.
The rest escapes. Before a run that is what the system refuses, documents that are no UTF-8 or
that their reader fails on, integers without a text, what is nested too deep, moments outside the
calendar and the clock, and a number of workers that is an empty list. Each step of a preparation
has a relation for what escapes from it.

* `escapes_readSource_iff`: what escapes from reading the document of a file.
* `timeEscapes_iff`: the generation times that are missing without a message.
* `escapes_prepare_iff`: what escapes from a preparation, by its steps.
-/

namespace ViewAdapters.CommandLine

/-! ## Steps of a session -/

/-- A step ends the session by a failure without a message of its own. -/
def Escapes {ε α : Type} (x : Except (Exit ε) α) (e : Escape ε) : Prop :=
  ∃ exit, x = .error exit ∧ exit.ending = .escaped e

section Escapes

variable {ε φ α β : Type} {e : Escape ε}

/-- Something escapes from two steps if it does from one that is reached. -/
theorem escapes_bind {x : Except (Exit ε) α} {f : α → Except (Exit ε) β} :
    Escapes (x >>= f) e ↔ Escapes x e ∨ ∃ a, x = .ok a ∧ Escapes (f a) e := by
  cases x with
  | error exit => simp [Escapes, bind, Except.bind]
  | ok a => simp [Escapes, bind, Except.bind]

/-- A fault escapes where its report does. -/
theorem escapes_mapError {x : Except φ α} {g : φ → Exit ε} :
    Escapes (x.mapError g) e ↔ ∃ fault, x = .error fault ∧ (g fault).ending = .escaped e := by
  cases x with
  | error fault => simp [Escapes, Except.mapError]
  | ok a => simp [Escapes, Except.mapError]

theorem not_escapes_ok {a : α} : ¬ Escapes (.ok a) e := fun ⟨_, h, _⟩ => nomatch h

theorem escapes_error {exit : Exit ε} :
    Escapes (.error exit : Except (Exit ε) α) e ↔ exit.ending = .escaped e := by simp [Escapes]

end Escapes

variable {ε : Type}

/-! ## Documents -/

/-- No document is had from a file, and nothing is said of it: the file is not read, its bytes
are no UTF-8, or the reader of documents fails on its text in another way than to refuse it. -/
inductive DocumentEscapes (reader : Document.Reader ε) (files : Files) (file : Path) :
    Escape ε → Prop
  | unread {fault : FileFault} (h : files.read file = .error fault) :
      DocumentEscapes reader files file (.file fault)
  | undecoded {bytes : ByteArray} {fault : Text.Utf8Fault} (h : files.read file = .ok bytes)
      (hText : Text.readText bytes = .error fault) :
      DocumentEscapes reader files file (.encoding fault)
  | reader {bytes : ByteArray} {text : String} {failure : ε} (h : files.read file = .ok bytes)
      (hText : Text.readText bytes = .ok text) (hSome : ¬ text.toList.all Text.isBlank = true)
      (hFails : reader text = .error (.other failure)) :
      DocumentEscapes reader files file (.reader failure)

/-- What escapes from a document is told by what its file is and by its reader. -/
theorem escapes_document_iff {reader : Document.Reader ε} {files : Files} {file : Path}
    {e : Escape ε} : Escapes ((Document.load reader files file).mapError .ofStored) e ↔
      DocumentEscapes reader files file e := by
  rw [escapes_mapError]
  constructor
  · rintro ⟨fault, h, hEnd⟩
    simp only [Document.load, bind_eq_error, mapError_eq_error, mapError_eq_ok] at h
    rcases h with ⟨f, hRead, rfl⟩ | ⟨bytes, hRead, ⟨f, hText, rfl⟩ | ⟨text, hText, h⟩⟩
    · cases hEnd
      exact .unread hRead
    · cases hEnd
      exact .undecoded hRead hText
    · unfold Document.ofText at h
      split at h
      · contradiction
      · rename_i hSome
        obtain ⟨f, hReader, rfl⟩ := mapError_eq_error.1 h
        cases f with
        | malformed complaint => contradiction
        | other failure =>
          cases hEnd
          exact .reader hRead hText hSome hReader
  · intro h
    cases h with
    | @unread fault h =>
      refine ⟨.file fault, ?_, rfl⟩
      simp [Document.load, h, bind, Except.bind, Except.mapError]
    | @undecoded bytes fault h hText =>
      refine ⟨.encoding fault, ?_, rfl⟩
      simp [Document.load, h, hText, bind, Except.bind, Except.mapError]
    | @reader bytes text failure h hText hSome hFails =>
      refine ⟨.reader failure, ?_, rfl⟩
      simp [Document.load, h, hText, Document.ofText, hSome, hFails, bind, Except.bind,
        Except.mapError]

/-- Reads the document of a file that may be missing. -/
def readSource {α : Type} (reader : Document.Reader ε) (files : Files)
    (source : Except FileFault Path) (missing : Path → Except (Exit ε) α)
    (use : Path → Document.Value → Except (Exit ε) α) : Except (Exit ε) α := do
  let file ← source.mapError fun fault => .escape (.file fault)
  match ← (files.find? file).mapError fun fault => .escape (.file fault) with
  | none => missing file
  | some _ =>
    let document ← (Document.load reader files file).mapError .ofStored
    use file document

/-- No use is made of the document of a file, and nothing is said of it; `refuses` tells what
its use fails for. -/
inductive SourceEscapes (reader : Document.Reader ε) (files : Files)
    (source : Except FileFault Path) (refuses : Path → Document.Value → Escape ε → Prop) :
    Escape ε → Prop
  | unsought {fault : FileFault} (h : source = .error fault) :
      SourceEscapes reader files source refuses (.file fault)
  | unfound {file : Path} {fault : FileFault} (hFile : source = .ok file)
      (h : files.find? file = .error fault) :
      SourceEscapes reader files source refuses (.file fault)
  | document {file : Path} {entry : Entry} {e : Escape ε} (hFile : source = .ok file)
      (hThere : files.find? file = .ok (some entry)) (h : DocumentEscapes reader files file e) :
      SourceEscapes reader files source refuses e
  | refused {file : Path} {entry : Entry} {document : Document.Value} {e : Escape ε}
      (hFile : source = .ok file) (hThere : files.find? file = .ok (some entry))
      (hDocument : Document.load reader files file = .ok document)
      (h : refuses file document e) : SourceEscapes reader files source refuses e

/-- What escapes from a file: looking for it, reading it, or using its document. -/
theorem escapes_readSource_iff {α : Type} {reader : Document.Reader ε} {files : Files}
    {source : Except FileFault Path} {missing : Path → Except (Exit ε) α}
    {use : Path → Document.Value → Except (Exit ε) α}
    {refuses : Path → Document.Value → Escape ε → Prop} {e : Escape ε}
    (hMissing : ∀ file, ¬ Escapes (missing file) e)
    (hUse : ∀ file document, Escapes (use file document) e ↔ refuses file document e) :
    Escapes (readSource reader files source missing use) e ↔
      SourceEscapes reader files source refuses e := by
  unfold readSource
  rw [escapes_bind, escapes_mapError]
  constructor
  · rintro (⟨fault, h, hEnd⟩ | ⟨file, hFile, h⟩)
    · cases hEnd
      exact .unsought h
    · rw [mapError_eq_ok] at hFile
      rw [escapes_bind, escapes_mapError] at h
      rcases h with ⟨fault, h, hEnd⟩ | ⟨found, hFind, h⟩
      · cases hEnd
        exact .unfound hFile h
      · rw [mapError_eq_ok] at hFind
        cases found with
        | none => exact absurd h (hMissing file)
        | some entry =>
          rcases escapes_bind.1 h with h | ⟨document, hLoad, h⟩
          · exact .document hFile hFind (escapes_document_iff.1 h)
          · exact .refused hFile hFind (mapError_eq_ok.1 hLoad) ((hUse file document).1 h)
  · intro h
    cases h with
    | unsought h => exact .inl ⟨_, h, rfl⟩
    | unfound hFile h =>
      exact .inr ⟨_, mapError_eq_ok.2 hFile, escapes_bind.2 (.inl (escapes_mapError.2 ⟨_, h, rfl⟩))⟩
    | document hFile hThere h =>
      refine .inr ⟨_, mapError_eq_ok.2 hFile,
        escapes_bind.2 (.inr ⟨_, mapError_eq_ok.2 hThere, ?_⟩)⟩
      exact escapes_bind.2 (.inl (escapes_document_iff.2 h))
    | refused hFile hThere hDocument h =>
      refine .inr ⟨_, mapError_eq_ok.2 hFile,
        escapes_bind.2 (.inr ⟨_, mapError_eq_ok.2 hThere, ?_⟩)⟩
      exact escapes_bind.2 (.inr ⟨_, mapError_eq_ok.2 hDocument, (hUse _ _).2 h⟩)

/-! ## Configurations and view-models -/

/-- A configuration that has an integer without a text where it is to be one. -/
inductive ConfigurationRefuses (file : Path) (document : Document.Value) : Escape ε → Prop
  | numeral {fault : Text.NumeralFault}
      (h : Configuration.ofValue file.parent document = .error (.numeral fault)) :
      ConfigurationRefuses file document (.numeral fault)

/-- No configuration is had from a path, and nothing is said of it. -/
def ConfigurationEscapes (reader : Document.Reader ε) (files : Files) (home path : Path) :
    Escape ε → Prop :=
  SourceEscapes reader files (Configuration.fileOf files home path) ConfigurationRefuses

/-- A document of view-models that has an integer without a text where it is to be one, or in
which something is nested too deep. -/
inductive MetadataRefuses (limits : Limits) (document : Document.Value) :
    Escape ε → Prop
  | numeral {fault : Text.NumeralFault}
      (h : Metadata.readViewModelsWithin limits document = .error (.numeral fault)) :
      MetadataRefuses limits document (.numeral fault)
  | tooDeep {fault : DepthFault}
      (h : Metadata.readViewModelsWithin limits document = .error (.tooDeep fault)) :
      MetadataRefuses limits document (.tooDeep fault)

/-- No view-models are had from a path, and nothing is said of it. -/
def MetadataEscapes (reader : Document.Reader ε) (limits : Limits) (files : Files)
    (home path : Path) : Escape ε → Prop :=
  SourceEscapes reader files (Path.expandHome home path) fun _ => MetadataRefuses limits

section Loading

variable {reader : Document.Reader ε} {limits : Limits} {files : Files}
  {home path : Path} {e : Escape ε}

theorem configuration_eq_readSource :
    (Configuration.load reader files home path).mapError .ofConfiguration =
      readSource reader files (Configuration.fileOf files home path)
        (fun file => .ok (.standard file.parent)) fun file document =>
          (Configuration.ofValue file.parent document).mapError fun fault =>
            .ofConfiguration (.settings fault) := by
  unfold Configuration.load readSource Configuration.ofFiles
  cases Configuration.fileOf files home path with
  | error fault => rfl
  | ok file =>
    cases hFind : files.find? file with
    | error fault => simp [hFind, bind, Except.bind, Except.mapError, Exit.ofConfiguration,
        Exit.ofStored]
    | ok found =>
      cases found with
      | none => simp [hFind, bind, Except.bind, Except.mapError, pure, Except.pure]
      | some entry =>
        cases hLoad : Document.load reader files file with
        | error fault => simp [hFind, hLoad, bind, Except.bind, Except.mapError,
            Exit.ofConfiguration]
        | ok document =>
          simp only [hFind, hLoad, bind, Except.bind, Except.mapError]
          cases Configuration.ofValue file.parent document <;> rfl

theorem metadata_eq_readSource :
    (Metadata.load reader limits files home path).mapError .ofMetadata =
      readSource reader files (Path.expandHome home path)
        (fun file => .error (.ofMetadata (.notFound file))) fun _ document =>
          (Metadata.readViewModelsWithin limits document).mapError fun fault =>
            .ofMetadata (.metadata fault) := by
  unfold Metadata.load readSource Metadata.ofFiles
  cases Path.expandHome home path with
  | error fault => rfl
  | ok file =>
    cases hFind : files.find? file with
    | error fault => simp [hFind, bind, Except.bind, Except.mapError, Exit.ofMetadata,
        Exit.ofStored]
    | ok found =>
      cases found with
      | none => simp [hFind, bind, Except.bind, Except.mapError, throw, throwThe,
          MonadExceptOf.throw]
      | some entry =>
        cases hLoad : Document.load reader files file with
        | error fault => simp [hFind, hLoad, bind, Except.bind, Except.mapError,
            Exit.ofMetadata]
        | ok document =>
          simp only [hFind, hLoad, bind, Except.bind, Except.mapError]
          cases Metadata.readViewModelsWithin limits document <;> rfl

/-- What escapes from loading a configuration. -/
theorem escapes_configuration_iff :
    Escapes ((Configuration.load reader files home path).mapError .ofConfiguration) e ↔
      ConfigurationEscapes reader files home path e := by
  rw [configuration_eq_readSource]
  refine escapes_readSource_iff (fun _ => not_escapes_ok) fun file document => ?_
  rw [escapes_mapError]
  constructor
  · rintro ⟨fault, h, hEnd⟩
    cases fault with
    | numeral f =>
      cases hEnd
      exact .numeral h
    | _ => contradiction
  · rintro ⟨h⟩
    exact ⟨_, h, rfl⟩

/-- What escapes from loading the view-models. -/
theorem escapes_metadata_iff :
    Escapes ((Metadata.load reader limits files home path).mapError .ofMetadata) e ↔
      MetadataEscapes reader limits files home path e := by
  rw [metadata_eq_readSource]
  refine escapes_readSource_iff (fun file ⟨exit, h, hEnd⟩ => ?_) fun file document => ?_
  · cases h
    contradiction
  · rw [escapes_mapError]
    constructor
    · rintro ⟨fault, h, hEnd⟩
      cases fault with
      | numeral f =>
        cases hEnd
        exact .numeral h
      | tooDeep f =>
        cases hEnd
        exact .tooDeep h
      | _ => contradiction
    · rintro (h | h)
      · exact ⟨_, h, rfl⟩
      · exact ⟨_, h, rfl⟩

end Loading

/-! ## Generation times -/

/-- There is no generation time, and nothing is said of it: the offset of a given moment leads
out of the calendar, or the seconds are beyond the clock or beyond the years of the system. -/
inductive TimeEscapes (given : Option Calendar.DateTime) (epoch : Option String) :
    TimeFault → Prop
  | outOfCalendar {moment : Calendar.DateTime} (hGiven : given = some moment)
      (h : Calendar.UtcSecond.ofDateTime? moment = none) :
      TimeEscapes given epoch .outOfCalendar
  | beyondClock {text : String} {n : Int} (hGiven : given = none) (hEpoch : epoch = some text)
      (hNumber : Text.readInteger? text = some n)
      (h : n < clockSeconds.1 ∨ clockSeconds.2 < n) : TimeEscapes given epoch .beyondClock
  | beyondYears {text : String} {n : Int} (hGiven : given = none) (hEpoch : epoch = some text)
      (hNumber : Text.readInteger? text = some n)
      (hClock : clockSeconds.1 ≤ n ∧ n ≤ clockSeconds.2)
      (h : n < clockYears.1 ∨ clockYears.2 < n) : TimeEscapes given epoch .beyondYears

/-- An integer gives a time within the clock and the calendar only. -/
theorem timeOfEpoch_eq {text : String} {n : Int} (h : Text.readInteger? text = some n) :
    timeOfEpoch text =
      if n < clockSeconds.1 ∨ clockSeconds.2 < n then .error .beyondClock
      else if n < clockYears.1 ∨ clockYears.2 < n then .error .beyondYears
      else (Calendar.UtcSecond.ofSinceEpoch? n).elim (.error (.badEpoch text)) .ok := by
  unfold timeOfEpoch
  rw [h]
  simp only [Bool.or_eq_true, decide_eq_true_eq]
  cases Calendar.UtcSecond.ofSinceEpoch? n <;> rfl

theorem generationTime_epoch {text : String} {n : Int} (h : Text.readInteger? text = some n)
    (present : Calendar.UtcSecond) :
    generationTime none (some text) present = timeOfEpoch text := by
  have hSome : (!text.isEmpty) = true := by
    cases hEmpty : text.isEmpty with
    | false => rfl
    | true =>
      rw [String.isEmpty_iff.1 hEmpty] at h
      contradiction
  unfold generationTime
  rw [Option.filter_some, if_pos hSome]

theorem generationTime_given_eq_error_iff {moment : Calendar.DateTime} {epoch : Option String}
    {present : Calendar.UtcSecond} {fault : TimeFault} :
    generationTime (some moment) epoch present = .error fault ↔
      Calendar.UtcSecond.ofDateTime? moment = none ∧ fault = .outOfCalendar := by
  rw [generationTime_given]
  cases Calendar.UtcSecond.ofDateTime? moment with
  | none => simp [eq_comm]
  | some time => simp

/-- Without a given time a fault comes from the text of seconds. -/
theorem timeOfEpoch_of_generationTime {epoch : Option String} {present : Calendar.UtcSecond}
    {fault : TimeFault} (h : generationTime none epoch present = .error fault) :
    ∃ text, epoch = some text ∧ timeOfEpoch text = .error fault := by
  unfold generationTime at h
  dsimp only at h
  split at h
  · rename_i text hText
    exact ⟨text, (Option.filter_eq_some_iff.1 hText).1, h⟩
  · contradiction

/-- What a text is refused for without a message is a number beyond the clock or beyond the
years; a second that is in no year of the calendar is told in a message. -/
theorem timeOfEpoch_eq_error_iff {text : String} {fault : TimeFault}
    (hUntold : ∀ text, fault ≠ .badEpoch text) :
    timeOfEpoch text = .error fault ↔ ∃ n, Text.readInteger? text = some n ∧
      ((n < clockSeconds.1 ∨ clockSeconds.2 < n) ∧ fault = .beyondClock ∨
        (clockSeconds.1 ≤ n ∧ n ≤ clockSeconds.2) ∧ (n < clockYears.1 ∨ clockYears.2 < n) ∧
          fault = .beyondYears) := by
  constructor
  · intro h
    cases hNumber : Text.readInteger? text with
    | none =>
      unfold timeOfEpoch at h
      rw [hNumber] at h
      cases h
      exact absurd rfl (hUntold text)
    | some n =>
      refine ⟨n, rfl, ?_⟩
      rw [timeOfEpoch_eq hNumber] at h
      split at h
      · rename_i hClock
        cases h
        exact .inl ⟨hClock, rfl⟩
      · rename_i hClock
        split at h
        · rename_i hYears
          cases h
          exact .inr ⟨by omega, hYears, rfl⟩
        · cases hSecond : Calendar.UtcSecond.ofSinceEpoch? n with
          | some time =>
            rw [hSecond] at h
            contradiction
          | none =>
            rw [hSecond] at h
            cases h
            exact absurd rfl (hUntold text)
  · rintro ⟨n, hNumber, ⟨hClock, rfl⟩ | ⟨hClock, hYears, rfl⟩⟩
    · rw [timeOfEpoch_eq hNumber, if_pos hClock]
    · rw [timeOfEpoch_eq hNumber, if_neg (by omega), if_pos hYears]

/-- The faults of times that escape are all but that of a text that is no integer. -/
theorem timeEscapes_iff {given : Option Calendar.DateTime} {epoch : Option String}
    {present : Calendar.UtcSecond} {fault : TimeFault} :
    TimeEscapes given epoch fault ↔
      generationTime given epoch present = .error fault ∧ ∀ text, fault ≠ .badEpoch text := by
  constructor
  · intro h
    cases h with
    | outOfCalendar hGiven h =>
      rw [hGiven, generationTime_given_eq_error_iff]
      exact ⟨⟨h, rfl⟩, nofun⟩
    | beyondClock hGiven hEpoch hNumber h =>
      rw [hGiven, hEpoch, generationTime_epoch hNumber]
      exact ⟨(timeOfEpoch_eq_error_iff (by nofun)).2 ⟨_, hNumber, .inl ⟨h, rfl⟩⟩, nofun⟩
    | beyondYears hGiven hEpoch hNumber hClock h =>
      rw [hGiven, hEpoch, generationTime_epoch hNumber]
      exact ⟨(timeOfEpoch_eq_error_iff (by nofun)).2 ⟨_, hNumber, .inr ⟨hClock, h, rfl⟩⟩, nofun⟩
  · rintro ⟨h, hUntold⟩
    cases given with
    | some moment =>
      obtain ⟨hMoment, rfl⟩ := generationTime_given_eq_error_iff.1 h
      exact .outOfCalendar rfl hMoment
    | none =>
      obtain ⟨text, hEpoch, hText⟩ := timeOfEpoch_of_generationTime h
      obtain ⟨n, hNumber, ⟨hClock, rfl⟩ | ⟨hClock, hYears, rfl⟩⟩ :=
        (timeOfEpoch_eq_error_iff hUntold).1 hText
      · exact .beyondClock rfl hEpoch hNumber hClock
      · exact .beyondYears rfl hEpoch hNumber hClock hYears

theorem escapes_backends_iff {s : Session} {c : Configuration}
    {given : Option Calendar.DateTime} {files : Files} {e : Escape ε} :
    Escapes ((backendsOf s c given files).mapError .ofDiscovery) e ↔
      ∃ fault, TimeEscapes given s.epoch fault ∧ e = .time fault := by
  simp only [escapes_mapError, backendsOf_eq_error_iff, @timeEscapes_iff _ _ s.present]
  constructor
  · rintro ⟨_, ⟨fault, h, rfl⟩, hEnd⟩
    cases fault with
    | badEpoch text => contradiction
    | _ =>
      cases hEnd
      exact ⟨_, ⟨h, by simp⟩, rfl⟩
  · rintro ⟨fault, ⟨h, hNot⟩, rfl⟩
    refine ⟨_, ⟨fault, h, rfl⟩, ?_⟩
    cases fault with
    | badEpoch text => exact absurd rfl (hNot text)
    | _ => rfl

/-! ## Preparations -/

/-- Where the configuration of a request is looked for. -/
def configurationPath (s : Session) (r : GenerateRequest) : Path :=
  r.config.elim s.files.workingPath .ofString

section Environment

variable {δ : Type} (env : Environment ε δ)

/-- A generation is not prepared, and nothing is said of it. -/
inductive PreparationEscapes (s : Session) (r : GenerateRequest) : Escape ε → Prop
  | configuration {given : Option Calendar.DateTime} {e : Escape ε}
      (hGiven : r.timestamp.mapM readTimestamp = .ok given)
      (h : ConfigurationEscapes env.reader s.files s.home (configurationPath s r) e) :
      PreparationEscapes s r e
  | metadata {given : Option Calendar.DateTime} {c : Configuration} {e : Escape ε}
      (hGiven : r.timestamp.mapM readTimestamp = .ok given)
      (hConfiguration : Configuration.load env.reader s.files s.home (configurationPath s r) =
        .ok c)
      (h : MetadataEscapes env.reader env.limits s.files s.home (.ofString r.metadata) e) :
      PreparationEscapes s r e
  | time {given : Option Calendar.DateTime} {c : Configuration} {vs : List ViewModel}
      {fault : TimeFault} (hGiven : r.timestamp.mapM readTimestamp = .ok given)
      (hConfiguration : Configuration.load env.reader s.files s.home (configurationPath s r) =
        .ok c)
      (hMetadata : Metadata.load env.reader env.limits s.files s.home (.ofString r.metadata) =
        .ok vs)
      (h : TimeEscapes given s.epoch fault) : PreparationEscapes s r (.time fault)
  | emptyWorkers {given : Option Calendar.DateTime} {c : Configuration} {vs : List ViewModel}
      {time : Calendar.UtcSecond} (hGiven : r.timestamp.mapM readTimestamp = .ok given)
      (hConfiguration : Configuration.load env.reader s.files s.home (configurationPath s r) =
        .ok c)
      (hMetadata : Metadata.load env.reader env.limits s.files s.home (.ofString r.metadata) =
        .ok vs)
      (hTime : generationTime given s.epoch s.present = .ok time)
      (h : r.isWorkersEmpty = true) : PreparationEscapes s r .emptyWorkers

variable {env} [ToString δ] {s : Session} {r : GenerateRequest} {e : Escape ε}

/-- A timestamp that is no moment is told as a misuse. -/
theorem not_escapes_timestamp :
    ¬ Escapes ((r.timestamp.mapM readTimestamp).mapError (.misuse .program)) e := by
  rw [escapes_mapError]
  rintro ⟨fault, -, hEnd⟩
  cases hEnd

/-- The last steps of the preparation fail without a message for an empty number of workers. -/
theorem escapes_settings_iff {root : Path} {calls : Option Nat}
    {emitters : List Emission.Emitter} {workers : Int} {last : Emission.Settings → Prepared} :
    Escapes (if r.isWorkersEmpty then .error (.escape .emptyWorkers) else
        (Emission.Settings.make root calls emitters workers r.isDryRun).mapError .ofRun >>=
          fun settings => pure (last settings)) e ↔
      r.isWorkersEmpty = true ∧ e = .emptyWorkers := by
  split
  · rename_i hEmpty
    rw [escapes_error]
    constructor
    · rintro hEnd
      cases hEnd
      exact ⟨hEmpty, rfl⟩
    · rintro ⟨-, rfl⟩
      rfl
  · rename_i hSome
    refine ⟨fun h => ?_, fun h => absurd h.1 hSome⟩
    rcases escapes_bind.1 h with h | ⟨settings, -, h⟩
    · obtain ⟨fault, hFault, hEnd⟩ := escapes_mapError.1 h
      unfold Emission.Settings.make at hFault
      split at hFault
      · contradiction
      · cases hFault
        contradiction
    · exact absurd h not_escapes_ok

/-- The causes that are listed are all that escape from preparing a generation. -/
theorem escapes_prepare_iff : Escapes (prepare env s r) e ↔ PreparationEscapes env s r e := by
  unfold prepare
  simp only [escapes_bind, mapError_eq_ok, escapes_configuration_iff, escapes_metadata_iff,
    escapes_backends_iff, not_escapes_timestamp, false_or, backendsOf_eq_ok_iff]
  constructor
  · rintro ⟨given, hGiven, h | ⟨c, hConfiguration, h | ⟨vs, hMetadata, ⟨fault, h, rfl⟩ |
      ⟨backends, ⟨time, hTime, rfl⟩, h⟩⟩⟩⟩
    · exact .configuration hGiven h
    · exact .metadata hGiven hConfiguration h
    · exact .time hGiven hConfiguration hMetadata h
    · obtain ⟨hEmpty, rfl⟩ := escapes_settings_iff.1 h
      exact .emptyWorkers hGiven hConfiguration hMetadata hTime hEmpty
  · intro h
    cases h with
    | configuration hGiven h => exact ⟨_, hGiven, .inl h⟩
    | metadata hGiven hConfiguration h => exact ⟨_, hGiven, .inr ⟨_, hConfiguration, .inl h⟩⟩
    | time hGiven hConfiguration hMetadata h =>
      exact ⟨_, hGiven, .inr ⟨_, hConfiguration, .inr ⟨_, hMetadata, .inl ⟨_, h, rfl⟩⟩⟩⟩
    | emptyWorkers hGiven hConfiguration hMetadata hTime h =>
      exact ⟨_, hGiven, .inr ⟨_, hConfiguration, .inr ⟨_, hMetadata,
        .inr ⟨_, ⟨_, hTime, rfl⟩, escapes_settings_iff.2 ⟨h, rfl⟩⟩⟩⟩⟩

end Environment

end ViewAdapters.CommandLine
