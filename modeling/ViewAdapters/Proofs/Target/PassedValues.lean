import ViewAdapters.Proofs.Target.DateMapping

/-!
# Values that pass through

A value that no template is applied to keeps its expression, unless its type has layers around a
type of the source program while a template is meant for the dates of the property. Then the
closures for the layers are written although they change nothing.

* `Property.TakesTemplate`, `Property.AppliesTemplate`: whether a template is meant for the dates
  of a property, and whether it is applied to the leaf of its type.
* `text_convertValue_eq_iff`, `convertElements_eq_none_iff_takesTemplate`: when an expression
  stays as it is.
* `changesNothing_convert`: closures around types of the source program change nothing.
* `passes_iff`: both for all conversions of a property.
-/

namespace ViewAdapters

open Target (Expr Template toTarget toSource)

/-- Whether a template that changes something is meant for the dates of a property: the meaning
that they have is not hidden by an override. -/
def Property.TakesTemplate (templates : Platform → DateSemantics → Template)
    (platform : Platform) (p : Property) : Prop :=
  p.overrideFor platform = none ∧ ∃ semantics, p.dateSemantics = some semantics ∧
    templates platform semantics ≠ Template.identity

/-- Whether a template that changes something is applied to the leaf of a property's type. A type
of the source program takes none. -/
def Property.AppliesTemplate (templates : Platform → DateSemantics → Template)
    (platform : Platform) (p : Property) : Prop :=
  p.TakesTemplate templates platform ∧ ∀ name, p.shownType.leaf ≠ .reference name

namespace Target

/-! ## Expressions that stay as they are -/

section Unchanged

variable {templates : Platform → DateSemantics → Template} {platform : Platform} {p : Property}

theorem convertValue_of_not_takesTemplate (h : ¬p.TakesTemplate templates platform)
    (value : String) : convertValue templates platform p value = .given value := by
  unfold convertValue
  split
  · rfl
  · rename_i semantics hConversion
    obtain ⟨hOverride, hSemantics⟩ := conversionSemantics_eq_some_iff.1 hConversion
    have hIdentity : templates platform semantics = Template.identity :=
      not_not.1 fun hChanges => h ⟨hOverride, semantics, hSemantics, hChanges⟩
    rw [hIdentity, Expr.convert_identity, ite_self]

theorem convertValue_of_isObservable (h : p.isObservable = true) (value : String) :
    convertValue templates platform p value = .given value := by
  unfold convertValue
  split
  · rfl
  · rw [if_pos h]

/-- Only a type of the source program without layers keeps an expression as it is. -/
theorem text_mapLeaf_eq_iff {template : Template} (hChanges : ∀ s, template.fill s ≠ s)
    (value : String) (d : Descriptor) :
    (Expr.mapLeaf template (.given value) d).text platform = value ↔
      ∃ name, d = .reference name := by
  cases d with
  | reference name => exact iff_of_true rfl ⟨name, rfl⟩
  | nullable d => exact iff_of_false (closure_ne _ _ _) (by simp)
  | collection d => exact iff_of_false (closure_ne _ _ _) (by simp)
  | primitive kind => exact iff_of_false (hChanges value) (by simp)
  | foreign literal => exact iff_of_false (hChanges value) (by simp)

theorem text_convertValue_eq_iff
    (hFill : ∀ semantics, templates platform semantics ≠ Template.identity →
      ∀ s, (templates platform semantics).fill s ≠ s) (value : String) :
    (convertValue templates platform p value).text platform = value ↔
      ¬p.TakesTemplate templates platform ∨ p.isObservable = true ∨
        ∃ name, p.type = .reference name := by
  by_cases hTakes : p.TakesTemplate templates platform
  · rw [or_iff_right (not_not.2 hTakes)]
    cases hObservable : p.isObservable with
    | true =>
      rw [convertValue_of_isObservable hObservable]
      exact iff_of_true rfl (.inl rfl)
    | false =>
      obtain ⟨hOverride, semantics, hSemantics, hChanges⟩ := hTakes
      rw [convertValue_of_plain hOverride hSemantics hObservable, Expr.convert, if_neg hChanges,
        text_mapLeaf_eq_iff (hFill semantics hChanges)]
      simp
  · rw [convertValue_of_not_takesTemplate hTakes]
    exact iff_of_true rfl (.inl hTakes)

theorem convertElements_eq_none_iff_takesTemplate {value : String} :
    convertElements platform p value = none ↔
      ¬p.TakesTemplate toTarget platform ∨ p.isObservable = false := by
  rw [convertElements_eq_none_iff, or_comm]
  refine or_congr ?_ (by simp [Property.isObservable])
  simp only [Property.TakesTemplate, not_and, not_exists, Option.mem_def,
    conversionSemantics_eq_some_iff, not_not, and_imp]
  exact ⟨fun h hOverride semantics => h semantics hOverride,
    fun h semantics hOverride => h hOverride semantics⟩

end Unchanged

/-! ## Expressions that change nothing -/

/-- An expression without a template that denotes the identity, whatever templates stand for. -/
def Expr.ChangesNothing (platform : Platform) (d : Descriptor) (value : String) (e : Expr) : Prop :=
  e.templates = [] ∧ ∀ (α : Type) (template : Template) (f : α → α),
    meaning? platform template f d value (e.text platform) = some id

section Nothing

variable {templates : Platform → DateSemantics → Template} {platform : Platform} {p : Property}
  {d : Descriptor}

theorem changesNothing_given (d : Descriptor) (value : String) :
    (Expr.given value).ChangesNothing platform d value :=
  ⟨rfl, fun _ _ _ => meaning?_self d value⟩

/-- Closures for the layers around a type of the source program hand on what they are called
with. -/
theorem meaning?_mapLeaf_of_reference {α : Type} (inserted template : Template) (f : α → α)
    (hLeaf : ∃ name, d.leaf = .reference name) (value : Expr) :
    meaning? platform template f d (value.text platform)
      ((Expr.mapLeaf inserted value d).text platform) = some id := by
  have hItem : closureItem platform = Expr.item.text platform := by cases platform <;> rfl
  obtain ⟨name, hLeaf⟩ := hLeaf
  induction d generalizing value with
  | nullable d ih =>
    rw [Expr.mapLeaf, Expr.text, meaning?, if_neg (closure_ne _ _ _), closureBody?_ifPresent,
      Option.bind_some, hItem, ih _ hLeaf]
    exact congrArg some Option.map_id
  | collection d ih =>
    rw [Expr.mapLeaf, Expr.text, meaning?, if_neg (closure_ne _ _ _), closureBody?_each,
      Option.bind_some, hItem, ih _ hLeaf]
    exact congrArg some List.map_id_fun
  | reference => exact meaning?_self _ _
  | primitive | foreign => contradiction

theorem changesNothing_convert (inserted : Template) (hLeaf : ∃ name, d.leaf = .reference name)
    (value : String) :
    (Expr.convert inserted d (.given value)).ChangesNothing platform d value := by
  refine ⟨Expr.templates_convert hLeaf, fun α template f => ?_⟩
  unfold Expr.convert
  split
  · exact meaning?_self d value
  · exact meaning?_mapLeaf_of_reference inserted template f hLeaf (.given value)

theorem changesNothing_convertValue (h : ¬p.AppliesTemplate templates platform)
    (hPlain : p.isObservable = false) (value : String) :
    (convertValue templates platform p value).ChangesNothing platform p.type value := by
  by_cases hTakes : p.TakesTemplate templates platform
  · have hLeaf : ∃ name, p.shownType.leaf = .reference name := by
      simpa [Property.AppliesTemplate, hTakes] using h
    have hShown : p.shownType = p.type := by
      rw [Property.isObservable, Option.isSome_eq_false_iff, Option.isNone_iff_eq_none] at hPlain
      rw [Property.shownType, hPlain, Option.getD_none]
    obtain ⟨hOverride, semantics, hSemantics, -⟩ := hTakes
    rw [convertValue_of_plain hOverride hSemantics hPlain]
    exact changesNothing_convert _ (hShown ▸ hLeaf) value
  · rw [convertValue_of_not_takesTemplate hTakes]
    exact changesNothing_given p.type value

theorem changesNothing_convertElements (h : ¬p.AppliesTemplate toTarget platform) {value : String}
    {e : Expr} {element : Descriptor} (hElements : convertElements platform p value = some e)
    (hElement : p.element = some element) :
    e.ChangesNothing platform (.collection element) value := by
  obtain ⟨semantics, element', hOverride, hSemantics, hElement', hChanges, rfl⟩ :=
    convertElements_eq_some_iff.1 hElements
  cases hElement.symm.trans hElement'
  have hTakes : p.TakesTemplate toTarget platform := ⟨hOverride, semantics, hSemantics, hChanges⟩
  have hLeaf : ∃ name, p.shownType.leaf = .reference name := by
    simpa [Property.AppliesTemplate, hTakes] using h
  rw [Property.shownType, hElement, Option.getD_some] at hLeaf
  exact changesNothing_convert (d := .collection element) _ hLeaf value

end Nothing

/-! ## Conversions of properties -/

/-- An expression stays as it is exactly if no template is meant for the dates of the property,
the property is an observable collection, or its type is one of the source program without
layers. Elements are not converted exactly if no template is meant for their dates. In all cases
in which no template is applied to the leaf, the expressions change nothing. -/
theorem passes_iff (platform : Platform) (p : Property) (value : String) :
    ((toTargetExpr platform p value).text platform = value ↔
      ¬p.TakesTemplate toTarget platform ∨ p.isObservable = true ∨
        ∃ name, p.type = .reference name) ∧
    ((toSourceExpr platform p value).text platform = value ↔
      ¬p.TakesTemplate toSource platform ∨ p.isObservable = true ∨
        ∃ name, p.type = .reference name) ∧
    (convertElements platform p value = none ↔
      ¬p.TakesTemplate toTarget platform ∨ p.isObservable = false) ∧
    (¬p.AppliesTemplate toTarget platform →
      (p.isObservable = false →
        (toTargetExpr platform p value).ChangesNothing platform p.type value) ∧
      ∀ e element, convertElements platform p value = some e → p.element = some element →
        e.ChangesNothing platform (.collection element) value) ∧
    (¬p.AppliesTemplate toSource platform → p.isObservable = false →
      (toSourceExpr platform p value).ChangesNothing platform p.type value) := by
  refine ⟨text_convertValue_eq_iff (fun _ => fill_toTarget_ne) value,
    text_convertValue_eq_iff (fun _ => fill_toSource_ne) value,
    convertElements_eq_none_iff_takesTemplate, fun h => ⟨?_, ?_⟩, ?_⟩
  · exact fun hPlain => changesNothing_convertValue h hPlain value
  · exact fun e element => changesNothing_convertElements h
  · exact fun h hPlain => changesNothing_convertValue h hPlain value

/-- The same stops as an observable collection. -/
def observedStops : Property := { datedStops with element := some (.reference "Fleet.Stop") }

/-- Stops as a list and as an observable collection, with a meaning of dates. -/
theorem passes_iff_stops :
    ¬datedStops.AppliesTemplate toTarget .android ∧
      ¬observedStops.AppliesTemplate toTarget .ios ∧
      (toTargetExpr .android datedStops "source.Stops").ChangesNothing .android datedStops.type
        "source.Stops" ∧
      (∃ e, convertElements .ios observedStops "source.Stops" = some e ∧
        e.ChangesNothing .ios (.collection (.reference "Fleet.Stop")) "source.Stops") ∧
      (toTargetExpr .ios observedStops "source.Stops").text .ios = "source.Stops" := by
  have hDated : ¬datedStops.AppliesTemplate toTarget .android := fun h => h.2 _ rfl
  have hObserved : ¬observedStops.AppliesTemplate toTarget .ios := fun h => h.2 _ rfl
  obtain ⟨-, -, -, hTarget, -⟩ := passes_iff .android datedStops "source.Stops"
  obtain ⟨hKept, -, -, hElements, -⟩ := passes_iff .ios observedStops "source.Stops"
  exact ⟨hDated, hObserved, (hTarget hDated).1 rfl, ⟨_, rfl, (hElements hObserved).2 _ _ rfl rfl⟩,
    hKept.2 (.inr (.inl rfl))⟩

/-- Stops take no template, but what hands them on is written as a conversion of their own. -/
theorem stops_converted :
    observedStops.shownType.leaf = .reference "Fleet.Stop" ∧
      datedStops.shownType.leaf = .reference "Fleet.Stop" ∧
      (convertElements .android observedStops "source.Stops").map (·.text .android) =
        some "source.Stops.map \x7b it \x7d" ∧
      convertElements .android observedStops "source.Stops" ≠ none ∧
      (toTargetExpr .android datedStops "source.Stops").text .android ≠ "source.Stops" := by
  exact ⟨rfl, rfl, by decide, by decide, by decide⟩

end Target
end ViewAdapters
