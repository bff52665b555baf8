import ViewAdapters.Proofs.Adapter.InputTexts
import ViewAdapters.Proofs.Adapter.Parts

/-!
# Resolved types

A type of the target is made in few ways: from an override, from a reference, from the tables of
scalars, and by layers around one that is made already. What holds of the first three for all
texts of the input and is kept by the fourth holds of the types of all members.

* `resolveScalar_induction`: the types of scalars.
* `Transfers.of_propertyType`, `Transfers.of_parameterType`: what resolution transfers from texts
  to types is found in the types of members.
-/

namespace ViewAdapters

theorem override_mem_texts {p : Property} {platform : Platform} {name : String}
    (h : p.overrideFor platform = some name) : name ∈ p.texts := by
  have hName := (Option.filter_eq_some_iff.1 h).1
  cases platform <;> simp only [PerPlatform.get] at hName <;> simp [Property.texts, hName]

namespace Target

/-! ## Types of scalars -/

/-- The type of a scalar is that of a date, one of the table, or the fallback. -/
theorem resolveScalar_induction {motive : Resolved → Prop} {platform : Platform}
    (hDate : ∀ semantics, motive (named platform (dateType platform semantics)))
    (hTable : ∀ e ∈ scalars platform, motive (named platform e.2))
    (hFallback : motive (.plain fallbackType)) (semantics : Option DateSemantics)
    (member kind : String) : motive (resolveScalar platform semantics member kind).1 := by
  unfold resolveScalar
  split
  · exact hDate _
  · split
    · rename_i name hName
      exact hTable (_, name) (SortedMap.mem_of_lookup hName)
    · exact hFallback

/-! ## Types of members -/

/-- What simple types have that are made from allowed texts, and what layers keep. -/
structure Transfers (t : Target) (allowed : String → Prop) (P : Resolved → Prop) : Prop where
  named : ∀ {name : String}, allowed name → P (named t.platform name)
  reference : ∀ {qualifiedName : String}, allowed qualifiedName → P (t.reference qualifiedName)
  scalar : ∀ (semantics : Option DateSemantics) (member kind : String),
    P (resolveScalar t.platform semantics member kind).1
  inLayer : ∀ (layer : Descriptor.Layer) {r : Resolution},
    P r.1 → P (r.inLayer t.platform layer).1

namespace Transfers

variable {t : Target} {allowed : String → Prop} {P : Resolved → Prop} {r : Resolution}

theorem of_resolve (hP : t.Transfers allowed P) {semantics : Option DateSemantics}
    {member : String} {d : Descriptor} (hText : allowed d.text)
    (h : t.resolve semantics member d = .ok r) : P r.1 := by
  induction d generalizing r with
  | primitive kind =>
    cases h
    exact hP.scalar semantics member kind
  | nullable d ih =>
    obtain ⟨inner, hInner, rfl⟩ := map_eq_ok.1 h
    exact hP.inLayer .nullable (ih hText hInner)
  | collection d ih =>
    obtain ⟨inner, hInner, rfl⟩ := map_eq_ok.1 h
    exact hP.inLayer .collection (ih hText hInner)
  | reference qualifiedName =>
    cases h
    exact hP.reference hText
  | foreign literal => cases h

theorem of_resolveWithin (hP : t.Transfers allowed P) {p : Property} {d : Descriptor}
    (hTexts : ∀ s ∈ p.texts, allowed s) (hText : allowed d.text)
    (h : t.resolveWithin p d = .ok r) : P r.1 := by
  obtain ⟨name, hOverride, rfl⟩ | ⟨-, hResolved⟩ := resolveWithin_eq_ok.1 h
  · exact hP.named (hTexts name (override_mem_texts hOverride))
  · exact hP.of_resolve hText hResolved

theorem of_propertyType (hP : t.Transfers allowed P) {p : Property}
    (hTexts : ∀ s ∈ p.texts, allowed s) (h : t.propertyType p = .ok r) : P r.1 := by
  obtain ⟨-, hResolved⟩ | ⟨element, inner, hElement, hInner, rfl⟩ := propertyType_eq_ok.1 h
  · exact hP.of_resolveWithin hTexts (hTexts _ (by simp [Property.texts])) hResolved
  · have hText : allowed element.text := hTexts _ (by simp [Property.texts, hElement])
    exact hP.inLayer .collection (hP.of_resolveWithin hTexts hText hInner)

theorem of_parameterType (hP : t.Transfers allowed P) {c : Command}
    {parameter : Option Resolution} (hTexts : ∀ s ∈ c.texts, allowed s)
    (h : t.parameterType c = .ok parameter) : ∀ r ∈ parameter, P r.1 := by
  obtain ⟨-, rfl⟩ | ⟨d, r, hParameter, hResolved, rfl⟩ := parameterType_eq_ok.1 h
  · simp
  · have hText : allowed d.text := hTexts _ (by simp [Command.texts, hParameter])
    simpa using hP.of_resolve hText hResolved

end Transfers

end Target
end ViewAdapters
