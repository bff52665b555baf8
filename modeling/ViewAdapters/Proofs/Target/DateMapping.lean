import ViewAdapters.Adapter.View
import ViewAdapters.Proofs.Adapter.Findings
import ViewAdapters.Proofs.Target.ConvertedData
import ViewAdapters.Proofs.Text.Words

/-!
# Types and conversions of dates

The type of a property and the expressions that convert its values are found by two recursions.
Both take the same decision: either the type is that of the property's meaning of dates, and
then all that the templates of this meaning name is imported with it, or no template is applied.

* `mem_words_currentValue`, `mem_words_convertValue`: the words of a property's expressions.
* `propertyType_of_usesDate`: the type of a property with a date at its leaf.
* `templates_convertValue`, `templates_convertElements`: the templates of its expressions.
* `agreesOnDates`: the two sides agree.
-/

namespace ViewAdapters

open Target (Expr Template words words_append startsWithBreak endsWithBreak toTarget toSource
  dateType Resolution)

/-- Whether the type for the meaning of dates stands at the leaf of a property's type: no
override replaces it, and the leaf is a scalar. -/
def Property.UsesDate (p : Property) (platform : Platform) : Prop :=
  p.overrideFor platform = none ∧ ∃ kind, p.shownType.leaf = .primitive kind

/-- The layers around the leaf; an observable collection is a list of its elements. -/
def Property.shownLayers (p : Property) : List Descriptor.Layer :=
  match p.element with
  | none => p.type.layers
  | some element => .collection :: element.layers

namespace Target

/-! ## Names of date libraries -/

/-- The classes of `java.time`. -/
def javaTimeClasses : List String := [
  "Clock", "DayOfWeek", "Duration", "Instant", "LocalDate", "LocalDateTime", "LocalTime", "Month",
  "MonthDay", "OffsetDateTime", "OffsetTime", "Period", "Year", "YearMonth", "ZoneId",
  "ZoneOffset", "ZonedDateTime"]

/-- The names of dates and times in Foundation. -/
def foundationNames : List String :=
  ["Calendar", "Date", "DateComponents", "TimeInterval", "TimeZone"]

/-- The names of a platform's date library, with the imports that they need. -/
def dateLibrary : Platform → List (String × String)
  | .android => javaTimeClasses.map fun name => (name, "java.time." ++ name)
  | .ios => foundationNames.map fun name => (name, "Foundation")

/-! ## Templates -/

namespace Template

/-- The words of a template's own texts. -/
def ownWords (template : Template) : List String := (template.filterMap id).flatMap words

/-- Whether there is a break between every text of a template and the value beside it. -/
def isSpaced : Template → Bool
  | some s :: none :: rest => (s == "" || endsWithBreak s) && isSpaced (none :: rest)
  | none :: some s :: rest => startsWithBreak s && isSpaced (some s :: rest)
  | none :: none :: _ | some _ :: some _ :: _ => false
  | [_] | [] => true

theorem startsWithBreak_append {s t : String} (h : startsWithBreak s = true) :
    startsWithBreak (s ++ t) = true := by
  obtain ⟨c, hHead, hc⟩ := (Option.any_eq_true _ _).1 h
  simp [startsWithBreak, String.toList_append, List.head?_append, hHead, hc]

theorem ownWords_some (s : String) (rest : Template) :
    ownWords (some s :: rest) = words s ++ ownWords rest := by
  simp [ownWords]

theorem ownWords_none (rest : Template) : ownWords (none :: rest) = ownWords rest := by
  simp [ownWords]

/-- A filled template has the words of the value and words of its own. -/
theorem mem_words_fill {template : Template} (hSpaced : template.isSpaced = true)
    {value w : String} (h : w ∈ words (template.fill value)) :
    w ∈ words value ∨ w ∈ template.ownWords := by
  fun_induction isSpaced template with
  | case1 s rest ih =>
    rw [Bool.and_eq_true, Bool.or_eq_true, beq_iff_eq] at hSpaced
    have hWords : words (fill (some s :: none :: rest) value) =
        words s ++ words (fill (none :: rest) value) := by
      rw [fill_cons, Option.getD_some]
      rcases hSpaced.1 with rfl | hBreak
      · rw [String.empty_append]
        rfl
      · exact words_append (.inl hBreak)
    rw [hWords, List.mem_append] at h
    rw [ownWords_some, List.mem_append]
    rcases h with h | h
    · exact .inr (.inl h)
    · exact (ih hSpaced.2 h).imp_right .inr
  | case2 s rest ih =>
    rw [Bool.and_eq_true] at hSpaced
    have hStart : startsWithBreak (fill (some s :: rest) value) = true := by
      rw [fill_cons]
      exact startsWithBreak_append hSpaced.1
    rw [fill_cons, Option.getD_none, words_append (.inr hStart), List.mem_append] at h
    rw [ownWords_none]
    exact h.elim .inl (ih hSpaced.2)
  | case3 => contradiction
  | case4 => contradiction
  | case5 part =>
    cases part with
    | none => exact .inl (by simpa [fill, String.join_cons] using h)
    | some s => exact .inr (by simpa [ownWords, fill, String.join_cons] using h)
  | case6 => cases h

theorem isSpaced_toTarget (platform : Platform) (semantics : DateSemantics) :
    (toTarget platform semantics).isSpaced = true := by
  cases platform <;> cases semantics <;> decide

theorem isSpaced_toSource (platform : Platform) (semantics : DateSemantics) :
    (toSource platform semantics).isSpaced = true := by
  cases platform <;> cases semantics <;> decide

end Template

/-- What the templates of a meaning name is imported with its type. -/
theorem requirement_of_ownWords (platform : Platform) (semantics : DateSemantics) :
    ∀ e ∈ dateLibrary platform,
      e.1 ∈ (toTarget platform semantics).ownWords ++ (toSource platform semantics).ownWords →
        requirement? platform (dateType platform semantics) = some ⟨.dateTime, e.2⟩ := by
  cases platform <;> cases semantics <;> decide

/-! ## Words of expressions -/

/-- The words of the calls around values. -/
def callWords : List String := ["it", "let", "map", "toList", "Array"]

theorem not_mem_callWords {platform : Platform} {e : String × String}
    (h : e ∈ dateLibrary platform) : e.1 ∉ callWords := by
  revert e
  cases platform <;> decide

theorem mem_words_closure {value call body w : String} (hCall : startsWithBreak call = true)
    (h : w ∈ words (Expr.closure value call body)) :
    w ∈ words value ∨ w ∈ words call ∨ w ∈ words body := by
  have hStart : startsWithBreak (call ++ " \x7b ") = true := Template.startsWithBreak_append hCall
  rw [Expr.closure, words_append (.inr (by decide)), words_append (.inl ?_), String.append_assoc,
    words_append (.inr hStart), words_append (.inr (by decide))] at h
  · have hOpening : words " \x7b " = [] := by decide
    have hClosing : words " \x7d" = [] := by decide
    simp only [hOpening, hClosing, List.append_nil, List.mem_append] at h
    tauto
  · exact endsWithBreak_append (by decide)

theorem conversionSemantics_eq_some_iff {platform : Platform} {p : Property}
    {semantics : DateSemantics} : conversionSemantics platform p = some semantics ↔
      p.overrideFor platform = none ∧ p.dateSemantics = some semantics := by
  unfold conversionSemantics
  cases p.overrideFor platform <;> simp

section Expressions

variable {platform : Platform} {template : Template} {value w : String}

/-- An expression with a template at its scalars has the words of the value and of the template. -/
theorem mem_words_mapLeaf (hSpaced : template.isSpaced = true) (d : Descriptor) {e : Expr}
    (h : w ∈ words ((Expr.mapLeaf template e d).text platform)) :
    w ∈ words (e.text platform) ∨ w ∈ callWords ∨ w ∈ template.ownWords := by
  have hItem : ∀ w ∈ words (Expr.item.text platform), w ∈ callWords := by
    cases platform <;> decide
  have hPresent : startsWithBreak (Expr.ifPresentCall platform) = true ∧
      ∀ w ∈ words (Expr.ifPresentCall platform), w ∈ callWords := by
    cases platform <;> decide
  have hMap : ∀ w ∈ words ".map", w ∈ callWords := by decide
  induction d generalizing e with
  | nullable d ih =>
    rcases mem_words_closure hPresent.1 h with h | h | h
    · exact .inl h
    · exact .inr (.inl (hPresent.2 w h))
    · exact .inr ((ih h).elim (fun hIn => .inl (hItem w hIn)) id)
  | collection d ih =>
    rcases mem_words_closure (by decide) h with h | h | h
    · exact .inl h
    · exact .inr (.inl (hMap w h))
    · exact .inr ((ih h).elim (fun hIn => .inl (hItem w hIn)) id)
  | reference name => exact .inl h
  | primitive | foreign => exact (Template.mem_words_fill hSpaced h).imp_right .inr

theorem mem_words_convert (hSpaced : template.isSpaced = true) (d : Descriptor)
    (h : w ∈ words ((Expr.convert template d (.given value)).text platform)) :
    w ∈ words value ∨ w ∈ callWords ∨ w ∈ template.ownWords := by
  unfold Expr.convert at h
  split at h
  · exact .inl h
  · exact mem_words_mapLeaf hSpaced d h

/-- The words of a property's expressions are those of the value, of calls, and of a template of
its meaning. -/
theorem mem_words_convertValue {templates : Platform → DateSemantics → Template} {p : Property}
    {semantics : DateSemantics} (hSpaced : (templates platform semantics).isSpaced = true)
    (hSemantics : p.dateSemantics = some semantics)
    (h : w ∈ words ((convertValue templates platform p value).text platform)) :
    w ∈ words value ∨ w ∈ callWords ∨ w ∈ (templates platform semantics).ownWords := by
  unfold convertValue at h
  split at h
  · exact .inl h
  · rename_i hConversion
    cases hSemantics.symm.trans (conversionSemantics_eq_some_iff.1 hConversion).2
    split at h
    · exact .inl h
    · exact mem_words_convert hSpaced p.type h

theorem mem_words_snapshot (h : w ∈ words (snapshot platform value)) :
    w ∈ words value ∨ w ∈ callWords := by
  have hList : ∀ w ∈ words ".toList()", w ∈ callWords := by decide
  have hArray : ∀ w ∈ words "Array(", w ∈ callWords := by decide
  have hClosing : words ")" = [] := by decide
  cases platform with
  | android =>
    rw [snapshot, words_append (.inr (by decide)), List.mem_append] at h
    exact h.imp_right (hList w)
  | ios =>
    rw [snapshot, words_append (.inr (by decide)), words_append (.inl (by decide)), hClosing,
      List.append_nil, List.mem_append] at h
    exact h.symm.imp_right (hArray w)

theorem mem_words_currentValue {p : Property} {semantics : DateSemantics}
    (hSemantics : p.dateSemantics = some semantics) {isInListener : Bool}
    (h : w ∈ words (PropertyView.currentValue platform p isInListener)) :
    w ∈ words (sourceAccess platform isInListener p.name) ∨ w ∈ callWords ∨
      w ∈ (toTarget platform semantics).ownWords := by
  have hSpaced := Template.isSpaced_toTarget platform semantics
  unfold PropertyView.currentValue at h
  dsimp only at h
  split at h
  · split at h
    · rename_i e hElements
      obtain ⟨semantics', element, -, hSemantics', -, -, rfl⟩ :=
        convertElements_eq_some_iff.1 hElements
      cases hSemantics.symm.trans hSemantics'
      exact mem_words_convert hSpaced (.collection element) h
    · exact (mem_words_snapshot h).imp_right .inl
  · exact mem_words_convertValue hSpaced hSemantics h

end Expressions

/-! ## Templates of expressions -/

namespace Expr

/-- The templates that are filled in an expression. -/
def templates : Expr → List Template
  | .given _ | .item => []
  | .filled template value => template :: value.templates
  | .ifPresent value body | .each value body => value.templates ++ body.templates

variable {template : Template} {d : Descriptor}

theorem templates_mapLeaf {e : Expr} (hValue : e.templates = [])
    (hLeaf : ∃ name, d.leaf = .reference name) : (mapLeaf template e d).templates = [] := by
  obtain ⟨name, hLeaf⟩ := hLeaf
  induction d generalizing e with
  | nullable d ih => rw [mapLeaf, templates, hValue, ih rfl hLeaf, List.append_nil]
  | collection d ih => rw [mapLeaf, templates, hValue, ih rfl hLeaf, List.append_nil]
  | reference => exact hValue
  | primitive | foreign => contradiction

theorem templates_convert {value : String} (hLeaf : ∃ name, d.leaf = .reference name) :
    (convert template d (.given value)).templates = [] := by
  unfold convert
  split
  · rfl
  · exact templates_mapLeaf rfl hLeaf

end Expr

section Unused

variable {platform : Platform} {p : Property}

/-- Where no date is used, an override has taken its place or the leaf is a type of the source
program. -/
theorem leaf_of_not_usesDate (hType : p.shownType.isType = true) (h : ¬p.UsesDate platform)
    (hOverride : p.overrideFor platform = none) :
    ∃ name, p.shownType.leaf = .reference name :=
  (Descriptor.leaf_of_isType hType).resolve_left fun hScalar => h ⟨hOverride, hScalar⟩

theorem templates_convertValue (templates : Platform → DateSemantics → Template)
    (hType : p.shownType.isType = true) (h : ¬p.UsesDate platform) (value : String) :
    (convertValue templates platform p value).templates = [] := by
  unfold convertValue
  split
  · rfl
  · rename_i hConversion
    have hOverride := (conversionSemantics_eq_some_iff.1 hConversion).1
    have hLeaf := leaf_of_not_usesDate hType h hOverride
    unfold Property.isObservable
    unfold Property.shownType at hLeaf
    cases hElement : p.element with
    | some element => rfl
    | none =>
      rw [hElement] at hLeaf
      exact Expr.templates_convert hLeaf

theorem templates_convertElements (hType : p.shownType.isType = true) (h : ¬p.UsesDate platform)
    {value : String} {e : Expr} (hElements : convertElements platform p value = some e) :
    e.templates = [] := by
  obtain ⟨semantics, element, hOverride, -, hElement, -, rfl⟩ :=
    convertElements_eq_some_iff.1 hElements
  have hLeaf := leaf_of_not_usesDate hType h hOverride
  rw [Property.shownType, hElement] at hLeaf
  exact Expr.templates_convert hLeaf

end Unused

/-! ## Types of dates -/

theorem inLayers_foldr (platform : Platform) (layers : List Descriptor.Layer) (r : Resolution) :
    (layers.foldr (Resolution.inLayer platform) r).1 =
      { r.1 with
        name := layers.foldr (fun layer name => layerName platform name layer) r.1.name } := by
  induction layers with
  | nil => rfl
  | cons layer rest ih => rw [List.foldr_cons, Resolution.inLayer, ih]; rfl

/-- The type of a property with a date at its leaf is the type of the meaning in the layers of
the property, with the needs of that type. -/
theorem propertyType_of_usesDate {t : Target} {p : Property} {semantics : DateSemantics}
    (h : p.UsesDate t.platform) (hSemantics : p.dateSemantics = some semantics) :
    ∃ r findings, t.propertyType p = .ok (r, findings) ∧
      r = { named t.platform (dateType t.platform semantics) with
        name := p.shownLayers.foldr (fun layer name => layerName t.platform name layer)
          (dateType t.platform semantics) } := by
  obtain ⟨hOverride, kind, hLeaf⟩ := h
  have hResolved : t.resolveWithin p p.shownType = .ok
      (p.shownType.layers.foldr (Resolution.inLayer t.platform)
        (named t.platform (dateType t.platform semantics), [])) := by
    rw [resolveWithin, hOverride]
    dsimp only
    rw [resolve_layers, hLeaf, hSemantics]
    rfl
  unfold propertyType Property.shownLayers
  unfold Property.shownType at hResolved
  cases hElement : p.element with
  | none =>
    rw [hElement, Option.getD_none] at hResolved
    exact ⟨_, _, hResolved, inLayers_foldr _ _ _⟩
  | some element =>
    rw [hElement, Option.getD_some] at hResolved
    refine ⟨_, _, congrArg (Except.map _) hResolved, ?_⟩
    exact inLayers_foldr t.platform (.collection :: element.layers) _

theorem words_dateType (platform : Platform) (semantics : DateSemantics) :
    words (dateType platform semantics) = [dateType platform semantics] := by
  cases platform <;> cases semantics <;> decide

/-- What the type of a meaning requires is among the needs of its name. -/
theorem needs_dateType {platform : Platform} {semantics : DateSemantics} {required : Requirement}
    (h : requirement? platform (dateType platform semantics) = some required) :
    required.importLine ∈ (named platform (dateType platform semantics)).imports ∧
      required.capability ∈ (named platform (dateType platform semantics)).capabilities := by
  have hNeeds : required ∈ needs platform (dateType platform semantics) := by
    rw [needs, words_dateType]
    simp [h]
  constructor
  · exact (SortedSet.mem_ofList fun _ _ h => h).2 (List.mem_map_of_mem hNeeds)
  · exact (SortedSet.mem_ofList Capability.name_injective).2 (List.mem_map_of_mem hNeeds)

/-! ## The two sides -/

/-- The expressions that an adapter shows of a property, each with the access to the value. -/
def shownExpressions (platform : Platform) (p : Property) : List (String × String) := [
  (PropertyView.currentValue platform p false, sourceAccess platform false p.name),
  (PropertyView.currentValue platform p true, sourceAccess platform true p.name),
  ((toSourceExpr platform p PropertyView.newValueName).text platform, PropertyView.newValueName)]

theorem mem_words_shownExpressions {platform : Platform} {p : Property}
    {semantics : DateSemantics} (hSemantics : p.dateSemantics = some semantics)
    {x : String × String} (hx : x ∈ shownExpressions platform p) {w : String} (h : w ∈ words x.1) :
    w ∈ words x.2 ∨ w ∈ callWords ∨
      w ∈ (toTarget platform semantics).ownWords ++ (toSource platform semantics).ownWords := by
  simp only [List.mem_append]
  simp only [shownExpressions, List.mem_cons, List.not_mem_nil, or_false] at hx
  rcases hx with rfl | rfl | rfl
  · exact (mem_words_currentValue hSemantics h).imp_right (.imp_right .inl)
  · exact (mem_words_currentValue hSemantics h).imp_right (.imp_right .inl)
  · have hSpaced := Template.isSpaced_toSource platform semantics
    exact (mem_words_convertValue hSpaced hSemantics h).imp_right (.imp_right .inr)

/-- The type of a property and its expressions agree on its meaning of dates. If the leaf of the
type is that of the meaning, the import of each name from the date library that the templates
bring into an expression is among those of the type, together with the capability; otherwise no
template is filled in any expression. -/
theorem agreesOnDates (t : Target) (p : Property) (semantics : DateSemantics)
    (hSemantics : p.dateSemantics = some semantics) (hType : p.shownType.isType = true) :
    (p.UsesDate t.platform → ∃ r findings line,
      t.propertyType p = .ok (r, findings) ∧
      r.name = p.shownLayers.foldr (fun layer name => layerName t.platform name layer)
        (dateType t.platform semantics) ∧
      requirement? t.platform (dateType t.platform semantics) = some ⟨.dateTime, line⟩ ∧
      line ∈ r.imports ∧ .dateTime ∈ r.capabilities ∧
      (∀ e ∈ dateLibrary t.platform,
        e.1 ∈ (toTarget t.platform semantics).ownWords ++ (toSource t.platform semantics).ownWords →
          e.2 ∈ r.imports) ∧
      ∀ x ∈ shownExpressions t.platform p, ∀ e ∈ dateLibrary t.platform,
        e.1 ∈ words x.1 → e.1 ∉ words x.2 → e.2 ∈ r.imports) ∧
    (¬p.UsesDate t.platform → ∀ value : String,
      (toTargetExpr t.platform p value).templates = [] ∧
      (toSourceExpr t.platform p value).templates = [] ∧
      ∀ e, convertElements t.platform p value = some e → e.templates = []) := by
  constructor
  · intro hUses
    obtain ⟨r, findings, hResolved, rfl⟩ := propertyType_of_usesDate hUses hSemantics
    obtain ⟨⟨capability, line⟩, hRequired, rfl⟩ :=
      Option.map_eq_some_iff.1 (dateType_capability t.platform semantics)
    obtain ⟨hLine, hCapability⟩ := needs_dateType hRequired
    have hOwn : ∀ e ∈ dateLibrary t.platform, e.1 ∈ (toTarget t.platform semantics).ownWords ++
        (toSource t.platform semantics).ownWords →
          e.2 ∈ (named t.platform (dateType t.platform semantics)).imports := fun e he hName =>
      (needs_dateType (requirement_of_ownWords t.platform semantics e he hName)).1
    refine ⟨_, findings, line, hResolved, rfl, hRequired, hLine, hCapability, hOwn, ?_⟩
    intro x hx e he hShown hNotValue
    rcases mem_words_shownExpressions hSemantics hx hShown with hValue | hCall | hTemplate
    · exact absurd hValue hNotValue
    · exact absurd hCall (not_mem_callWords he)
    · exact hOwn e he hTemplate
  · intro hUnused value
    exact ⟨templates_convertValue toTarget hType hUnused value,
      templates_convertValue toSource hType hUnused value,
      fun e => templates_convertElements hType hUnused⟩

/-- A list of the stops of the source program, with a meaning of dates that nothing uses. -/
def datedStops : Property :=
  { plannedTimes with type := .collection (.reference "Fleet.Stop") }

/-- Times in the layers of their property, and stops that stay what they are. -/
theorem agreesOnDates_times :
    plannedTimes.dateSemantics = some .timeOnly ∧ plannedTimes.shownType.isType = true ∧
      plannedTimes.UsesDate .android ∧ ¬datedStops.UsesDate .android ∧
      (∃ r findings, propertyType ⟨.android, []⟩ plannedTimes = .ok (r, findings) ∧
        r.name = "List<List<LocalTime>?>" ∧ "java.time.LocalTime" ∈ r.imports) ∧
      (toTargetExpr .android datedStops "source.Times").templates = [] := by
  have hUses : plannedTimes.UsesDate .android := ⟨by decide, "datetime", rfl⟩
  have hUnused : ¬datedStops.UsesDate .android := fun ⟨_, _, hLeaf⟩ => nomatch hLeaf
  obtain ⟨r, findings, -, hResolved, hName, -, -, -, hOwn, -⟩ :=
    (agreesOnDates ⟨.android, []⟩ plannedTimes .timeOnly rfl rfl).1 hUses
  have hStops := (agreesOnDates ⟨.android, []⟩ datedStops .timeOnly rfl rfl).2 hUnused
  exact ⟨rfl, rfl, hUses, hUnused, ⟨r, findings, hResolved, hName.trans (by decide),
    hOwn ("LocalTime", "java.time.LocalTime") (by decide) (by decide)⟩, (hStops "source.Times").1⟩

end Target
end ViewAdapters
