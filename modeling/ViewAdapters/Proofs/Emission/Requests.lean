import ViewAdapters.Proofs.Adapter.Parts
import ViewAdapters.Proofs.Emission.Slots

/-!
# Requests

Which platforms a request stands for, and when a run is refused before it has looked at a
file. An item of a request stands for a platform by itself or by a text, and a text that
stands for none is unknown.

* `Selector.select_cases`: what a request selects, and when it selects nothing.
* `requested_cases`: a run is refused for one of four causes, or asks for the emitters of the
  platforms of its request.
-/

namespace ViewAdapters

/-! ## Platforms that a request stands for -/

namespace Selector

/-- An item of a request stands for a platform. -/
def Covers : Selector → Platform → Prop
  | .platform p, q => p = q
  | .named s, q =>
    Text.lower (Text.trim s) = everyPlatform ∨ Text.lower (Text.trim s) = q.name

section Item

variable {item : Selector} {more : List Platform}

theorem Expands.mem_iff (h : item.Expands more) (p : Platform) : p ∈ more ↔ item.Covers p := by
  cases h with
  | itself q => simp [Covers, eq_comm]
  | every h => simp [Covers, h, p.mem_all]
  | @one text q h =>
    rw [Covers, h, or_iff_right (name_ne_everyPlatform q), List.mem_singleton]
    constructor
    · rintro rfl
      rfl
    · exact fun hName => (Platform.name_injective hName).symm

theorem Expands.exists_covers (h : item.Expands more) : ∃ p, item.Covers p := by
  obtain ⟨p, hp⟩ := List.exists_mem_of_ne_nil more h.ne_nil
  exact ⟨p, (h.mem_iff p).1 hp⟩

/-- A text that is no word of a request stands for no platform. -/
theorem IsUnknown.not_covers (h : item.IsUnknown) (p : Platform) : ¬ item.Covers p := by
  cases item with
  | platform q => exact False.elim h
  | named text =>
    intro hCovers
    exact h (mem_requestWords.2 (hCovers.imp_right fun hName => ⟨p, hName⟩))

end Item

section Request

variable {request : List Selector} {expansions : List (List Platform)}

theorem mem_expansions (h : List.Forall₂ Expands request expansions) (p : Platform) :
    p ∈ expansions.flatten ↔ ∃ item ∈ request, item.Covers p := by
  induction h with
  | nil => simp
  | cons hItem _ ih =>
    rw [List.flatten_cons, List.mem_append, hItem.mem_iff, ih, List.exists_mem_cons_iff]

theorem exists_covers_of_mem (h : List.Forall₂ Expands request expansions) {item : Selector}
    (hItem : item ∈ request) : ∃ p, item.Covers p := by
  induction h with
  | nil => cases hItem
  | cons hFirst _ ih =>
    rcases List.mem_cons.1 hItem with rfl | hLater
    · exact hFirst.exists_covers
    · exact ih hLater

end Request

theorem select_cases (request : List Selector) :
    (∃ platforms, select request = .ok platforms ∧ request ≠ [] ∧
      (∀ item ∈ request, ∃ p, item.Covers p) ∧
      ∀ p, p ∈ platforms ↔ ∃ item ∈ request, item.Covers p) ∨
    ∃ error, select request = .error error ∧
      (request = [] ∨ ∃ item ∈ request, ∀ p, ¬ item.Covers p) := by
  cases hSelect : select request with
  | ok platforms =>
    cases selects_of_ok hSelect with
    | selected hSome hExpands =>
      refine .inl ⟨_, rfl, hSome, fun item => exists_covers_of_mem hExpands, fun p => ?_⟩
      rw [List.mem_eraseDups, mem_expansions hExpands]
  | error error =>
    refine .inr ⟨error, rfl, (selects_of_error hSelect).cause.imp_right ?_⟩
    rintro ⟨item, hItem, hUnknown⟩
    exact ⟨item, hItem, hUnknown.not_covers⟩

end Selector

namespace Emission

/-! ## Runs that are refused -/

/-- The platforms of a request. -/
def Asks (request : List Selector) (platform : Platform) : Prop :=
  ∃ item ∈ request, item.Covers platform

/-- Why a run is refused before it has looked at a file. -/
inductive IsRefused (s : Settings) (vs : List ViewModel) (request : List Selector) : Prop where
  | noViewModels (h : vs = [])
  | noneRequested (h : request = [])
  | unknown (item : Selector) (h : item ∈ request) (hUnknown : ∀ p, ¬ item.Covers p)
  | noEmitter (platform : Platform) (h : Asks request platform)
      (hNone : ∀ e ∈ s.emitters, e.platform ≠ platform)

theorem emitter?_eq_none_iff {s : Settings} {platform : Platform} :
    s.emitter? platform = none ↔ ∀ e ∈ s.emitters, e.platform ≠ platform := by
  simp [Settings.emitter?, List.find?_eq_none]

theorem mem_filterMap_emitter? {s : Settings} {platforms : List Platform} {e : Emitter} :
    e ∈ platforms.filterMap s.emitter? ↔
      e.platform ∈ platforms ∧ s.emitter? e.platform = some e := by
  rw [List.mem_filterMap]
  constructor
  · rintro ⟨p, hp, he⟩
    rw [Settings.platform_of_emitter? he]
    exact ⟨hp, he⟩
  · rintro ⟨hp, he⟩
    exact ⟨e.platform, hp, he⟩

section Selected

variable {s : Settings} {vs : List ViewModel} {request : List Selector}
  {platforms : List Platform}

theorem requested_of_emitters (hEmpty : vs ≠ []) (h : Selector.select request = .ok platforms)
    (hAll : ∀ p ∈ platforms, s.emitter? p ≠ none) :
    requested s vs request = .ok (platforms.filterMap s.emitter?) := by
  have hMissing : (platforms.filter fun p => (s.emitter? p).isNone) = [] := by
    simpa [List.filter_eq_nil_iff] using hAll
  simp [requested, hEmpty, h, hMissing, bind, Except.bind, pure, Except.pure]

theorem requested_of_noEmitter (hEmpty : vs ≠ []) (h : Selector.select request = .ok platforms)
    {p : Platform} (hp : p ∈ platforms) (hNone : s.emitter? p = none) :
    requested s vs request =
      .error (.noBackend (platforms.filter fun p => (s.emitter? p).isNone)) := by
  have hMissing : (platforms.filter fun p => (s.emitter? p).isNone) ≠ [] := by
    refine List.ne_nil_of_mem (List.mem_filter.2 ⟨hp, ?_⟩)
    simp [hNone]
  simp [requested, hEmpty, h, hMissing, bind, Except.bind, throw, throwThe,
    MonadExceptOf.throw]

theorem requested_of_notSelected (hEmpty : vs ≠ []) {error : PlatformError}
    (h : Selector.select request = .error error) :
    requested s vs request = .error (.platforms error) := by
  simp [requested, hEmpty, h, bind, Except.bind]

end Selected

/-- A run is refused, or asks for the emitters of the platforms of its request. -/
theorem requested_cases (s : Settings) (vs : List ViewModel) (request : List Selector) :
    (∃ emitters, requested s vs request = .ok emitters ∧ ¬ IsRefused s vs request ∧
      ∀ e, e ∈ emitters ↔ Asks request e.platform ∧ s.emitter? e.platform = some e) ∨
    ∃ fault, requested s vs request = .error fault ∧ (∀ f, fault ≠ .files f) ∧
      IsRefused s vs request := by
  by_cases hEmpty : vs = []
  · exact .inr ⟨.noViewModels, by rw [hEmpty]; rfl, by simp, .noViewModels hEmpty⟩
  · rcases Selector.select_cases request with ⟨platforms, hOk, hNonempty, hKnown, hMem⟩ |
      ⟨error, hError, hCause⟩
    · by_cases hAll : ∀ p ∈ platforms, s.emitter? p ≠ none
      · refine .inl ⟨_, requested_of_emitters hEmpty hOk hAll, ?_, fun e => ?_⟩
        · intro hRefused
          cases hRefused with
          | noViewModels h => exact hEmpty h
          | noneRequested h => exact hNonempty h
          | unknown item h hUnknown =>
            obtain ⟨p, hp⟩ := hKnown item h
            exact hUnknown p hp
          | noEmitter p h hNone => exact hAll p ((hMem p).2 h) (emitter?_eq_none_iff.2 hNone)
        · rw [mem_filterMap_emitter?, hMem]
          rfl
      · push Not at hAll
        obtain ⟨p, hp, hNone⟩ := hAll
        exact .inr ⟨_, requested_of_noEmitter hEmpty hOk hp hNone, by simp,
          .noEmitter p ((hMem p).1 hp) (emitter?_eq_none_iff.1 hNone)⟩
    · refine .inr ⟨_, requested_of_notSelected hEmpty hError, by simp, ?_⟩
      rcases hCause with h | ⟨item, h, hUnknown⟩
      · exact .noneRequested h
      · exact .unknown item h hUnknown

end Emission
end ViewAdapters
