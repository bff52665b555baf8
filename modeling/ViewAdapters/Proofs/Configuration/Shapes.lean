import ViewAdapters.Configuration
import ViewAdapters.Proofs.Adapter.Parts
import ViewAdapters.Yaml.Document

/-!
# Shapes of configurations

Each setting of a configuration has a shape. A document is refused if its root, its number of
workers or what it says of a platform has another one. An output directory, a directory of
templates and names of platforms of other shapes are no reason to refuse a document: they are read
as if they were left out.

* `Reading`: when a reading of settings gives something, with a lemma for each reader.
* `ofValue_settled`: what is dropped from a document makes no difference.
* `load_outcomes`: which documents are accepted, and how the others are refused.
-/

namespace ViewAdapters.Configuration

open Document (Value Entries)

/-! ## Shapes -/

/-- A text or a number. -/
inductive IsTextual : Value → Prop
  | text (s : String) : IsTextual (.text s)
  | int (n : Int) : IsTextual (.int n)
  | float (x : Binary64) : IsTextual (.float x)

/-- A text or a number that may be left out. -/
def IsOptionalText (v : Value) : Prop := v = .null ∨ IsTextual v

/-- A mapping that may be left out, and what holds of its entries. -/
inductive IsOptionalMapping (v : Value) (P : Entries → Prop) : Prop
  | null (h : v.unrolled = .null)
  | mapping {entries : Entries} (h : v.unrolled = .mapping entries) (hEntries : P entries)

/-- A name of a platform or a list of names, which may be left out. -/
inductive IsPlatforms (v : Value) : Prop
  | null (h : v.unrolled = .null)
  | text {s : String} (h : v.unrolled = .text s)
  | list {items : List Value} (h : v.unrolled = .list items)
      (hItems : ∀ item ∈ items, ∃ s, item = .text s)

/-- A positive integer, or a text that denotes one, which may be left out. -/
def IsWorkers (v : Value) : Prop := v = .null ∨ ∃ n, v.asInteger = some n ∧ 1 ≤ n

/-- What is said of a platform: replacements of namespaces are texts and numbers. -/
def IsSettings (v : Value) : Prop :=
  IsOptionalMapping v fun settings =>
    IsOptionalMapping (Value.field settings namespacesKey) fun replacements =>
      ∀ e ∈ replacements, IsOptionalText e.2

/-- The settings whose shapes are checked have them. -/
structure IsChecked (entries : Entries) : Prop where
  workers : IsWorkers (Value.field entries "workers")
  settings : ∀ platform : Platform, IsSettings (Value.field entries platform.name)

/-- The settings that are dropped otherwise have their shapes. -/
structure IsKept (entries : Entries) : Prop where
  output : IsOptionalText (Value.field entries "output")
  templates : IsOptionalText (Value.field entries "templates_dir")
  platforms : IsPlatforms (Value.field entries "platforms")

/-- A document of settings all of which have their shapes. -/
def HasShape (v : Value) : Prop :=
  v = .null ∨ ∃ entries, v.unrolled = .mapping entries ∧ IsChecked entries ∧ IsKept entries

/-! ## Integers that are read as texts -/

/-- What is read as a text has one, unless it is no text and no number. -/
def HasText (v : Value) : Prop := ∃ text, v.asText = .ok text

/-- The integers in what is said of a platform have texts. -/
structure SettingsHaveTexts (settings : Entries) : Prop where
  directory : HasText (Value.field settings "output_dir")
  package : HasText (Value.field settings "package")
  namespaces : ∀ replacements, (Value.field settings namespacesKey).unrolled =
    .mapping replacements → ∀ e ∈ replacements, HasText e.2 ∧ ∃ text, e.1.display = .ok text

/-- The integers that are read as texts have some. -/
structure HaveTexts (entries : Entries) : Prop where
  output : HasText (Value.field entries "output")
  templates : HasText (Value.field entries "templates_dir")
  settings : ∀ (platform : Platform) settings,
    (Value.field entries platform.name).unrolled = .mapping settings → SettingsHaveTexts settings

theorem hasText_null : HasText .null := ⟨none, rfl⟩

/-! ## Readings -/

/-- A reading gives something exactly if what it reads has a shape and its integers have texts, and
it complains of an integer only if one has none. -/
structure Reading {α : Type} (x : Result α) (shape texts : Prop) : Prop where
  exists_iff : (∃ a, x = .ok a) ↔ shape ∧ texts
  not_texts : ∀ fault, x = .error (.numeral fault) → ¬ texts

namespace Reading

variable {α β : Type} {shape shape' texts texts' : Prop}

theorem ok (a : α) : Reading (.ok a) True True := ⟨by simp, nofun⟩

theorem error {fault : Fault} (h : ∀ f, fault ≠ .numeral f) (texts : Prop) :
    Reading (.error fault : Result α) False texts :=
  ⟨by simp, fun f hFault => absurd (Except.error.inj hFault) (h f)⟩

/-- A reading has every equivalent shape. -/
theorem congr {x : Result α} (h : Reading x shape texts) (hShape : shape ↔ shape')
    (hTexts : texts ↔ texts') : Reading x shape' texts' := by
  rwa [← hShape, ← hTexts]

/-- Two readings one after the other. -/
theorem bind {x : Result α} {f : α → Result β} (hx : Reading x shape texts)
    (hf : ∀ a, x = .ok a → Reading (f a) shape' texts') :
    Reading (x >>= f) (shape ∧ shape') (texts ∧ texts') := by
  constructor
  · constructor
    · rintro ⟨b, h⟩
      obtain ⟨a, ha, hb⟩ := bind_eq_ok.1 h
      obtain ⟨hShape, hTexts⟩ := hx.exists_iff.1 ⟨a, ha⟩
      obtain ⟨hShape', hTexts'⟩ := (hf a ha).exists_iff.1 ⟨b, hb⟩
      exact ⟨⟨hShape, hShape'⟩, hTexts, hTexts'⟩
    · rintro ⟨⟨hShape, hShape'⟩, hTexts, hTexts'⟩
      obtain ⟨a, ha⟩ := hx.exists_iff.2 ⟨hShape, hTexts⟩
      obtain ⟨b, hb⟩ := (hf a ha).exists_iff.2 ⟨hShape', hTexts'⟩
      exact ⟨b, bind_eq_ok.2 ⟨a, ha, hb⟩⟩
  · rintro fault h ⟨hTexts, hTexts'⟩
    rcases bind_eq_error.1 h with hError | ⟨a, ha, hError⟩
    · exact hx.not_texts fault hError hTexts
    · exact (hf a ha).not_texts fault hError hTexts'

end Reading

/-- A mapping that is read, or no entries where it is left out. -/
theorem Reading.optionalMapping {β : Type} (fault : Fault) (hFault : ∀ f, fault ≠ .numeral f)
    {P T : Entries → Prop} {f : Entries → Result β}
    (hf : ∀ entries, Reading (f entries) (P entries) (T entries)) (hShape : P []) (hTexts : T [])
    (v : Value) :
    Reading (optionalMapping fault v >>= f) (IsOptionalMapping v P)
      (∀ entries, v.unrolled = .mapping entries → T entries) := by
  unfold Configuration.optionalMapping
  cases hv : v.unrolled with
  | null =>
    refine (hf []).congr ⟨fun _ => .null hv, fun _ => hShape⟩ ⟨fun _ => nofun, fun _ => hTexts⟩
  | mapping entries =>
    refine (hf entries).congr ⟨.mapping hv, fun h => ?_⟩
      ⟨fun h _ hSame => Value.mapping.inj hSame ▸ h, fun h => h entries rfl⟩
    cases h with
    | null hNull => rw [hv] at hNull; contradiction
    | mapping hSame hEntries => rwa [Value.mapping.inj (hv.symm.trans hSame)]
  | _ =>
    refine (Reading.error hFault _).congr ⟨False.elim, fun h => ?_⟩ Iff.rfl
    cases h with
    | null h => rw [hv] at h; contradiction
    | mapping h => rw [hv] at h; contradiction

theorem reading_ofShown {α : Type} (x : Text.Shown α) :
    Reading (ofShown x) True (∃ a, x = .ok a) := by
  cases x with
  | ok a => exact ⟨by simp [ofShown], nofun⟩
  | error fault => exact ⟨by simp [ofShown], by simp⟩

/-- A path can be any value with a text, since what is no text counts as nothing. -/
theorem reading_readPath (root : Path) (v : Value) :
    Reading (readPath root v) True (HasText v) :=
  ((reading_ofShown v.asText).bind fun _ _ => .ok _).congr (by simp) (by simp [HasText])

theorem reading_readWorkers (v : Value) : Reading (readWorkers v) (IsWorkers v) True := by
  unfold readWorkers
  split
  · exact (Reading.ok none).congr (iff_of_true trivial (.inl rfl)) Iff.rfl
  rename_i hNull
  split
  · rename_i n hInteger
    split
    · rename_i hPositive
      exact (Reading.ok _).congr (iff_of_true trivial (.inr ⟨n, hInteger, hPositive⟩)) Iff.rfl
    · rename_i hPositive
      refine (Reading.error (by simp) True).congr (iff_of_false id ?_) Iff.rfl
      rintro (hVoid | ⟨m, hRead, hOne⟩)
      · exact hNull hVoid
      · cases hInteger.symm.trans hRead
        exact hPositive hOne
  · rename_i hInteger
    refine (Reading.error (by simp) True).congr (iff_of_false id ?_) Iff.rfl
    rintro (hVoid | ⟨m, hRead, -⟩)
    · exact hNull hVoid
    · cases hInteger.symm.trans hRead

/-- A value is read as a text exactly if it is a text or a number. -/
theorem isSome_asText_iff {v : Value} {text : Option String} (h : v.asText = .ok text) :
    text.isSome = true ↔ IsTextual v := by
  unfold Value.asText at h
  split at h
  · cases h
    exact iff_of_true rfl (.text _)
  · obtain ⟨shown, -, rfl⟩ := map_eq_ok.1 h
    exact iff_of_true rfl (.int _)
  · cases h
    exact iff_of_true rfl (.float _)
  · cases h
    refine iff_of_false Bool.false_ne_true fun hTextual => ?_
    cases hTextual <;> simp_all

/-- A value gives a replacement exactly if it is left out or has the shape of a text. -/
theorem replacementOf_eq_ok {v : Value} {target : Option String}
    (h : replacementOf v = .ok target) : target.isSome = true ↔ IsOptionalText v := by
  unfold replacementOf at h
  split at h
  · cases h
    exact iff_of_true rfl (.inl rfl)
  · rename_i hNull
    cases hText : v.asText with
    | error fault => rw [hText] at h; contradiction
    | ok text =>
      rw [hText] at h
      cases h
      exact (isSome_asText_iff hText).trans (or_iff_right hNull).symm

theorem reading_replacementOf (v : Value) : Reading (replacementOf v) True (HasText v) := by
  unfold replacementOf
  split
  · exact (Reading.ok _).congr Iff.rfl (by simp [hasText_null])
  · exact reading_ofShown v.asText

/-- What follows a replacement is read only if there is a text to replace with. -/
theorem reading_afterReplacement {α : Type} {v : Value} {target : Option String}
    {next : String → Result α} {shape texts : Prop} (hTarget : replacementOf v = .ok target)
    {fault : Fault} (hFault : ∀ f, fault ≠ .numeral f)
    (hNext : ∀ text, Reading (next text) shape texts) :
    Reading (match target with
      | none => throw fault
      | some text => next text) (IsOptionalText v ∧ shape) texts := by
  have hShape := replacementOf_eq_ok hTarget
  cases target with
  | none =>
    refine (Reading.error hFault _).congr (iff_of_false id fun h => ?_) Iff.rfl
    exact Bool.false_ne_true (hShape.2 h.1)
  | some text => exact (hNext text).congr (and_iff_right (hShape.1 rfl)).symm Iff.rfl

/-- Replacements are optional texts, and their keys are shown as texts. -/
theorem reading_readNamespaces (platform : Platform) (table : NamespaceTable)
    (entries : Entries) :
    Reading (readNamespaces platform table entries) (∀ e ∈ entries, IsOptionalText e.2)
      (∀ e ∈ entries, HasText e.2 ∧ ∃ text, e.1.display = .ok text) := by
  induction entries generalizing table with
  | nil => exact (Reading.ok table).congr (by simp) (by simp)
  | cons e rest ih =>
    have hRead := (reading_replacementOf e.2).bind fun target hTarget =>
      (reading_ofShown e.1.display).bind fun source _ =>
        have hFault : ∀ f, Fault.replacement platform source ≠ .numeral f := by simp
        reading_afterReplacement hTarget hFault fun text => ih (table.set source text)
    refine hRead.congr ?_ ?_
    · simp only [true_and, List.forall_mem_cons]
    · simp only [List.forall_mem_cons, and_assoc]

/-- Reads the entries of what is said of a platform. -/
def readPlatform (platform : Platform) (settings : Entries) : Result PlatformSettings := do
  let namespaces ← optionalMapping (.namespaces platform) (Value.field settings namespacesKey) >>=
    readNamespaces platform []
  let directory ← ofShown (Value.field settings "output_dir").asText
  let package ← ofShown (Value.field settings "package").asText
  return { directory, namespaces, package }

theorem readSettings_eq (platform : Platform) (v : Value) :
    readSettings platform v = optionalMapping (.settings platform) v >>= readPlatform platform := by
  unfold readSettings readPlatform
  simp only [bind_assoc]

theorem reading_readPlatform (platform : Platform) (settings : Entries) :
    Reading (readPlatform platform settings)
      (IsOptionalMapping (Value.field settings namespacesKey) fun replacements =>
        ∀ e ∈ replacements, IsOptionalText e.2)
      (SettingsHaveTexts settings) := by
  have hNamespaces := Reading.optionalMapping (.namespaces platform) (by simp)
    (reading_readNamespaces platform [])
    (by simp) (by simp) (Value.field settings namespacesKey)
  have hRead := hNamespaces.bind fun namespaces _ =>
    (reading_ofShown (Value.field settings "output_dir").asText).bind fun directory _ =>
      (reading_ofShown (Value.field settings "package").asText).bind fun package _ =>
        .ok ({ directory, namespaces, package } : PlatformSettings)
  refine hRead.congr (by simp only [and_true]) ⟨?_, ?_⟩
  · rintro ⟨hReplacements, hDirectory, hPackage, -⟩
    exact ⟨hDirectory, hPackage, hReplacements⟩
  · rintro ⟨hDirectory, hPackage, hReplacements⟩
    exact ⟨hReplacements, hDirectory, hPackage, trivial⟩

/-- The settings of a platform are a mapping or left out. -/
theorem reading_readSettings (platform : Platform) (v : Value) :
    Reading (readSettings platform v) (IsSettings v)
      (∀ settings, v.unrolled = .mapping settings → SettingsHaveTexts settings) := by
  rw [readSettings_eq]
  refine Reading.optionalMapping (.settings platform) (by simp) (reading_readPlatform platform)
    (.null rfl) ?_ v
  exact ⟨hasText_null, hasText_null, nofun⟩

/-- The reading of a document's settings. -/
theorem reading_readEntries (root : Path) (entries : Entries) :
    Reading (readEntries root entries) (IsChecked entries) (HaveTexts entries) := by
  have hRead := (reading_readPath root (Value.field entries "output")).bind fun output _ =>
    (reading_readPath root (Value.field entries "templates_dir")).bind fun templates _ =>
      (reading_readWorkers (Value.field entries "workers")).bind fun workers _ =>
        (reading_readSettings .android (Value.field entries Platform.android.name)).bind
          fun android _ =>
            (reading_readSettings .ios (Value.field entries Platform.ios.name)).bind fun ios _ =>
              .ok (Configuration.mk root output (readPlatforms (Value.field entries "platforms"))
                workers templates ⟨android, ios⟩)
  refine hRead.congr ⟨?_, ?_⟩ ⟨?_, ?_⟩
  · rintro ⟨-, -, hWorkers, hAndroid, hIos, -⟩
    exact ⟨hWorkers, fun platform => by cases platform <;> assumption⟩
  · rintro ⟨hWorkers, hSettings⟩
    exact ⟨trivial, trivial, hWorkers, hSettings .android, hSettings .ios, trivial⟩
  · rintro ⟨hOutput, hTemplates, -, hAndroid, hIos, -⟩
    exact ⟨hOutput, hTemplates, fun platform => by cases platform <;> assumption⟩
  · rintro ⟨hOutput, hTemplates, hSettings⟩
    exact ⟨hOutput, hTemplates, trivial, hSettings .android, hSettings .ios, trivial⟩

/-! ## What is dropped -/

/-- A text or a number; any other value is left out. -/
def keptText : Value → Value
  | .text s => .text s
  | .int n => .int n
  | .float x => .float x
  | _ => .null

/-- A name of a platform or the names in a list; any other value is left out. -/
def keptPlatforms (v : Value) : Value :=
  match v.unrolled with
  | .text s => .text s
  | .list items => .list (items.filter fun
    | .text _ => true
    | _ => false)
  | _ => .null

/-- The settings of a document without those that are dropped. -/
def keptEntries (entries : Entries) : Entries :=
  [(.text "output", keptText (Value.field entries "output")),
    (.text "templates_dir", keptText (Value.field entries "templates_dir")),
    (.text "workers", Value.field entries "workers"),
    (.text "platforms", keptPlatforms (Value.field entries "platforms")),
    (.text Platform.android.name, Value.field entries Platform.android.name),
    (.text Platform.ios.name, Value.field entries Platform.ios.name)]

/-- A document without what is dropped of it: nothing is left of a root that counts as nothing. -/
def settled (v : Value) : Value :=
  if v.isVoid then .null
  else
    match v.unrolled with
    | .mapping entries => .mapping (keptEntries entries)
    | _ => v

theorem asText_keptText (v : Value) : (keptText v).asText = v.asText := by
  cases v <;> rfl

theorem isOptionalText_keptText (v : Value) : IsOptionalText (keptText v) := by
  cases v with
  | text s => exact .inr (.text s)
  | int n => exact .inr (.int n)
  | float x => exact .inr (.float x)
  | _ => exact .inl rfl

/-- What is dropped from the platforms is not read. -/
theorem readPlatforms_keptPlatforms (v : Value) :
    readPlatforms (keptPlatforms v) = readPlatforms v := by
  unfold readPlatforms keptPlatforms
  cases v.unrolled with
  | list items =>
    refine (List.filterMap_filter).trans ?_
    refine congrArg (List.filterMap · items) (funext fun item => ?_)
    cases item <;> rfl
  | _ => rfl

/-- What is kept of the platforms is a list of texts. -/
theorem isPlatforms_keptPlatforms (v : Value) : IsPlatforms (keptPlatforms v) := by
  unfold keptPlatforms
  cases v.unrolled with
  | text s => exact .text rfl
  | list items =>
    refine .list rfl fun item hItem => ?_
    have hKept := (List.mem_filter.1 hItem).2
    cases item with
    | text s => exact ⟨s, rfl⟩
    | _ => contradiction
  | _ => exact .null rfl

/-- What is dropped from the entries is not read. -/
theorem readEntries_keptEntries (root : Path) (entries : Entries) :
    readEntries root (keptEntries entries) = readEntries root entries := by
  have hPath : ∀ v, readPath root (keptText v) = readPath root v := fun v => by
    rw [readPath, readPath, asText_keptText]
  have hPlatforms := readPlatforms_keptPlatforms (Value.field entries "platforms")
  have hKept : readEntries root (keptEntries entries) = do
      let output ← readPath root (keptText (Value.field entries "output"))
      let templates ← readPath root (keptText (Value.field entries "templates_dir"))
      let workers ← readWorkers (Value.field entries "workers")
      let android ← readSettings .android (Value.field entries Platform.android.name)
      let ios ← readSettings .ios (Value.field entries Platform.ios.name)
      return ⟨root, output, readPlatforms (keptPlatforms (Value.field entries "platforms")),
        workers, templates, ⟨android, ios⟩⟩ := rfl
  rw [hKept, hPath, hPath, hPlatforms]
  rfl

theorem unrolled_of_isVoid {v : Value} (h : v.isVoid = true) : v.unrolled = v := by
  cases v <;> first | rfl | contradiction

/-- What is dropped from a document makes no difference. -/
theorem ofValue_settled (root : Path) (v : Value) : ofValue root (settled v) = ofValue root v := by
  unfold settled
  split
  · rename_i hVoid
    rw [ofValue_void hVoid, ofValue_void rfl]
  · rename_i hVoid
    cases hRoot : v.unrolled with
    | mapping entries =>
      have hKept : ofValue root (.mapping (keptEntries entries)) =
          readEntries root (keptEntries entries) := rfl
      rw [hKept, readEntries_keptEntries, ofValue, if_neg hVoid, hRoot]
    | _ => rfl

/-! ## Documents -/

/-- A document that passes the checks: a root that counts as nothing, or settings whose checked
shapes are right. -/
def Passes (v : Value) : Prop :=
  v.isVoid = true ∨ ∃ entries, v.unrolled = .mapping entries ∧ IsChecked entries

/-- A document that nothing is dropped from. -/
def IsWhole (v : Value) : Prop :=
  v = .null ∨ ∃ entries, v.unrolled = .mapping entries ∧ IsKept entries

/-- The integers of a document that are read as texts have some. -/
def HasTexts (v : Value) : Prop := ∀ entries, v.unrolled = .mapping entries → HaveTexts entries

section Documents

variable {v : Value}

/-- A mapping that counts as nothing is empty. -/
theorem eq_nil_of_isVoid {entries : Entries} (hVoid : v.isVoid = true)
    (h : v.unrolled = .mapping entries) : entries = [] := by
  rw [unrolled_of_isVoid hVoid] at h
  rw [h] at hVoid
  exact List.isEmpty_iff.1 hVoid

theorem isChecked_nil : IsChecked [] := ⟨.inl rfl, fun _ => .null rfl⟩

theorem haveTexts_nil : HaveTexts [] := ⟨hasText_null, hasText_null, fun _ _ => nofun⟩

theorem not_passes (hVoid : ¬ v.isVoid = true) (hRoot : ∀ entries, v.unrolled ≠ .mapping entries) :
    ¬ Passes v := by
  rintro (h | ⟨entries, h, -⟩)
  · exact hVoid h
  · exact hRoot entries h

/-- The checks and what is dropped make up the shape of a document. -/
theorem hasShape_iff : HasShape v ↔ Passes v ∧ IsWhole v := by
  constructor
  · rintro (hNull | ⟨entries, hRoot, hChecked, hKept⟩)
    · exact ⟨.inl (hNull ▸ rfl), .inl hNull⟩
    · exact ⟨.inr ⟨entries, hRoot, hChecked⟩, .inr ⟨entries, hRoot, hKept⟩⟩
  · rintro ⟨hPasses, hNull | ⟨entries, hRoot, hKept⟩⟩
    · exact .inl hNull
    · refine .inr ⟨entries, hRoot, ?_, hKept⟩
      rcases hPasses with hVoid | ⟨entries', hRoot', hChecked⟩
      · exact eq_nil_of_isVoid hVoid hRoot ▸ isChecked_nil
      · rwa [Value.mapping.inj (hRoot.symm.trans hRoot')]

/-- What is dropped is not checked. -/
theorem isChecked_keptEntries {entries : Entries} :
    IsChecked (keptEntries entries) ↔ IsChecked entries := by
  have hSettings : ∀ platform : Platform, Value.field (keptEntries entries) platform.name =
      Value.field entries platform.name := fun platform => by cases platform <;> rfl
  constructor
  · rintro ⟨hWorkers, hPlatforms⟩
    exact ⟨hWorkers, fun platform => hSettings platform ▸ hPlatforms platform⟩
  · rintro ⟨hWorkers, hPlatforms⟩
    exact ⟨hWorkers, fun platform => hSettings platform ▸ hPlatforms platform⟩

/-- Nothing is dropped from what was kept. -/
theorem isKept_keptEntries (entries : Entries) : IsKept (keptEntries entries) :=
  ⟨isOptionalText_keptText _, isOptionalText_keptText _, isPlatforms_keptPlatforms _⟩

/-- What is left of a document that passes the checks has the shape. -/
theorem hasShape_settled_iff : HasShape (settled v) ↔ Passes v := by
  by_cases hVoid : v.isVoid = true
  · rw [settled, if_pos hVoid]
    exact iff_of_true (.inl rfl) (.inl hVoid)
  rw [settled, if_neg hVoid, hasShape_iff]
  cases hRoot : v.unrolled with
  | mapping entries =>
    constructor
    · rintro ⟨hNone | ⟨_, ⟨⟩, hChecked⟩, -⟩
      · contradiction
      · exact .inr ⟨entries, hRoot, isChecked_keptEntries.1 hChecked⟩
    · rintro (hNone | ⟨entries', hRoot', hChecked⟩)
      · contradiction
      · cases hRoot.symm.trans hRoot'
        exact ⟨.inr ⟨_, rfl, isChecked_keptEntries.2 hChecked⟩,
          .inr ⟨_, rfl, isKept_keptEntries entries⟩⟩
  | _ =>
    have hNot : ¬ Passes v := not_passes hVoid fun entries h => by rw [hRoot] at h; contradiction
    exact iff_of_false (fun h => hNot h.1) hNot

/-- A document is accepted by its shape, if the values in it that become texts have some. -/
theorem reading_ofValue (root : Path) (v : Value) :
    Reading (ofValue root v) (Passes v) (HasTexts v) := by
  by_cases hVoid : v.isVoid = true
  · rw [ofValue_void hVoid]
    exact (Reading.ok _).congr (iff_of_true trivial (.inl hVoid))
      (iff_of_true trivial fun entries hRoot => eq_nil_of_isVoid hVoid hRoot ▸ haveTexts_nil)
  rw [ofValue, if_neg hVoid]
  cases hRoot : v.unrolled with
  | mapping entries =>
    refine (reading_readEntries root entries).congr ?_ ?_
    · refine ⟨fun h => .inr ⟨entries, hRoot, h⟩, fun h => ?_⟩
      obtain ⟨_, hRoot', hChecked⟩ := h.resolve_left hVoid
      rwa [Value.mapping.inj (hRoot.symm.trans hRoot')]
    · refine ⟨fun h _ hRoot' => ?_, fun h => h entries hRoot⟩
      rwa [← Value.mapping.inj (hRoot.symm.trans hRoot')]
  | _ =>
    have hNot : ¬ Passes v := not_passes hVoid fun entries h => by rw [hRoot] at h; contradiction
    exact (Reading.error (by simp) _).congr (iff_of_false id hNot) Iff.rfl

end Documents

/-! ## Files -/

/-- A path leads to a file with a document by what a reader makes of its text. -/
structure LeadsTo {ε : Type} (reader : Document.Reader ε) (files : Files) (home path file : Path)
    (v : Value) : Prop where
  fileOf_eq : fileOf files home path = .ok file
  find_eq : ∃ entry, files.find? file = .ok (some entry)
  document_eq : Document.load reader files file = .ok v

section Files

variable {ε : Type} {reader : Document.Reader ε} {files : Files} {home path file : Path}
  {v : Value}

/-- Once the document is found, the configuration depends on its value alone. -/
theorem load_of_leadsTo (h : LeadsTo reader files home path file v) :
    load reader files home path = (ofValue file.parent v).mapError .settings := by
  obtain ⟨entry, hFound⟩ := h.find_eq
  simp only [load, h.fileOf_eq, hFound, h.document_eq, ofFiles_ok, bind, Except.bind,
    Except.mapError]

/-- A document is accepted exactly if it passes the checks, as far as its integers have texts, and
another one is refused because of its settings. What a document needs for its shape beyond the
checks is dropped where it is wrong: the configuration is the one of what is left. -/
theorem load_outcomes (h : LeadsTo reader files home path file v) :
    (HasShape v ↔ Passes v ∧ IsWhole v) ∧
      (HasShape (settled v) ↔ Passes v) ∧
      ((∃ c, load reader files home path = .ok c) ↔ Passes v ∧ HasTexts v) ∧
      (∀ e, load reader files home path = .error e → ∃ fault, e = .settings fault ∧
        ∀ f, fault = .numeral f → ¬ HasTexts v) ∧
      ∀ c, load reader files home path = .ok c ↔ ofValue file.parent (settled v) = .ok c := by
  have hRead := reading_ofValue file.parent v
  rw [load_of_leadsTo h, ofValue_settled]
  refine ⟨hasShape_iff, hasShape_settled_iff, ?_, fun e hError => ?_, fun c => mapError_eq_ok⟩
  · simp only [mapError_eq_ok]
    exact hRead.exists_iff
  · obtain ⟨fault, hFault, rfl⟩ := mapError_eq_error.1 hError
    exact ⟨fault, rfl, fun f hNumeral => hRead.not_texts f (hNumeral ▸ hFault)⟩

end Files

/-- The text of a configuration that has a mapping in place of names of platforms. -/
def mappedText : String := "platforms: \x7bios: true\x7d\n"

/-- A directory with that configuration. -/
def mappedPlatforms : Files :=
  (Files.empty []).put [fileName] (.file mappedText.toUTF8)

/-- The document of that configuration. -/
def mappedDocument : Value :=
  .mapping [(.text "platforms", .mapping [(.text "ios", .bool true)])]

/-- Whether a document is the one with a mapping of platforms. -/
def isMapped : Except (Document.StoredFault Yaml.ScalarFault) Value → Bool
  | .ok (.mapping [(.text key, .mapping [(.text inner, .bool true)])]) =>
    key == "platforms" && inner == "ios"
  | _ => false

theorem eq_ok_of_isMapped {x : Except (Document.StoredFault Yaml.ScalarFault) Value}
    (h : isMapped x = true) : x = .ok mappedDocument := by
  unfold isMapped at h
  split at h
  · rw [Bool.and_eq_true, beq_iff_eq, beq_iff_eq] at h
    rw [h.1, h.2, mappedDocument]
  · contradiction

theorem leadsTo_mappedPlatforms :
    LeadsTo Yaml.reader mappedPlatforms (.ofString "/") (.ofString ".")
      (.ofString "/.adaptergen.yml") mappedDocument :=
  ⟨by decide, ⟨.file mappedText.toUTF8, by decide⟩, eq_ok_of_isMapped (by decide +kernel)⟩

/-- The configuration is accepted, since the names of platforms are not checked. -/
theorem load_outcomes_mappedPlatforms :
    LeadsTo Yaml.reader mappedPlatforms (.ofString "/") (.ofString ".")
        (.ofString "/.adaptergen.yml") mappedDocument ∧
      Passes mappedDocument ∧ HasTexts mappedDocument ∧
      ∃ c, load Yaml.reader mappedPlatforms (.ofString "/") (.ofString ".") = .ok c := by
  have hPasses : Passes mappedDocument :=
    .inr ⟨_, rfl, .inl rfl, fun platform => by cases platform <;> exact .null rfl⟩
  have hTexts : HasTexts mappedDocument := by
    rintro _ ⟨⟩
    exact ⟨hasText_null, hasText_null, fun platform _ h => by cases platform <;> contradiction⟩
  exact ⟨leadsTo_mappedPlatforms, hPasses, hTexts,
    (load_outcomes leadsTo_mappedPlatforms).2.2.1.2 ⟨hPasses, hTexts⟩⟩

/-- A mapping in place of names of platforms is no reason to refuse a configuration: it is dropped,
and no platform is named. -/
theorem mappedPlatforms_dropped :
    LeadsTo Yaml.reader mappedPlatforms (.ofString "/") (.ofString ".")
        (.ofString "/.adaptergen.yml") mappedDocument ∧
      ¬ HasShape mappedDocument ∧
      ∃ c, load Yaml.reader mappedPlatforms (.ofString "/") (.ofString ".") = .ok c ∧
        c.platforms = [] := by
  refine ⟨leadsTo_mappedPlatforms, ?_, _, (load_of_leadsTo leadsTo_mappedPlatforms).trans rfl, rfl⟩
  rintro (hNull | ⟨_, ⟨⟩, -, hKept⟩)
  · contradiction
  · cases hKept.platforms <;> contradiction

end ViewAdapters.Configuration
