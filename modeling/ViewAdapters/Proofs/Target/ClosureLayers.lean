import ViewAdapters.Proofs.Metadata.NullableTypes
import ViewAdapters.Proofs.Target.DateMapping

/-!
# Layers of types and of conversions

The name of a type marks what may be absent and what is a list, and an expression that converts
a value has a closure for each. A name does not mark twice in a row that a value may be absent,
but an expression has a closure for every layer of the type.

* `Descriptor.repeats`: how often a type says twice in a row that a value may be absent.
* `marks_foldr_layerName`: the marks of a name are its layers without the repeated ones.
* `closures_mapLeaf`, `openings_text_mapLeaf`: the closures of an expression are all layers.
* `closures_eq_marks_add_repeats`: both together, for the conversions of a property.
-/

namespace ViewAdapters

namespace Descriptor

/-- How often a layer for what may be absent stands directly inside another one. -/
def repeats : List Layer → Nat
  | .nullable :: .nullable :: rest => repeats (.nullable :: rest) + 1
  | _ :: rest => repeats rest
  | [] => 0

theorem repeats_eq_zero_iff {layers : List Layer} :
    repeats layers = 0 ↔ ¬[Layer.nullable, .nullable] <:+: layers := by
  fun_induction repeats layers with
  | case1 rest ih => simp [List.infix_cons_iff]
  | case2 layer rest hSingle ih =>
    rw [ih, List.infix_cons_iff, not_or]
    refine (and_iff_right fun hStart => ?_).symm
    obtain ⟨more, hMore⟩ := hStart
    cases hMore
    exact hSingle _ rfl rfl
  | case3 => simp

end Descriptor

namespace Target

open Descriptor (Layer repeats repeats_eq_zero_iff)

/-! ## Marks of names -/

/-- The mark of a list in the name of a type. -/
def listMark : Platform → Char
  | .android => '<'
  | .ios => '['

/-- How many layers the name of a type marks, by `?` or as lists. -/
def marks (platform : Platform) (name : String) : Nat :=
  name.toList.count '?' + name.toList.count (listMark platform)

/-- Whether a name says that a value may be absent. -/
def isOptional (name : String) : Bool := (Text.dropEnding? ['?'] name.toList).isSome

section Marks

variable {platform : Platform} {name : String}

theorem isOptional_iff : isOptional name = true ↔ ∃ front, name.toList = front ++ ['?'] := by
  simp [isOptional, Option.isSome_iff_exists, Text.dropEnding?_eq_some_iff]

theorem isOptional_optionalOf : isOptional (optionalOf name) = true := by
  unfold optionalOf
  split
  · assumption
  · exact isOptional_iff.2 ⟨name.toList, String.toList_append⟩

theorem isOptional_listOf : isOptional (listOf platform name) = false := by
  rw [Bool.eq_false_iff, ne_eq, isOptional_iff]
  rintro ⟨front, hFront⟩
  cases platform <;> rw [listOf, String.toList_append] at hFront <;>
    exact absurd (List.append_inj' hFront rfl).2 (by decide)

theorem marks_append (s t : String) :
    marks platform (s ++ t) = marks platform s + marks platform t := by
  simp only [marks, String.toList_append, List.count_append]
  omega

theorem marks_optionalOf :
    marks platform (optionalOf name) = marks platform name + if isOptional name then 0 else 1 := by
  have hMark : marks platform "?" = 1 := by cases platform <;> decide
  unfold optionalOf
  change marks platform (if isOptional name = true then name else name ++ "?") = _
  split
  · rfl
  · rw [marks_append, hMark]

theorem marks_listOf : marks platform (listOf platform name) = marks platform name + 1 := by
  cases platform with
  | android =>
    have hStart : marks .android "List<" = 1 := by decide
    have hEnd : marks .android ">" = 0 := by decide
    rw [listOf, marks_append, marks_append, hStart, hEnd]
    omega
  | ios =>
    have hStart : marks .ios "[" = 1 := by decide
    have hEnd : marks .ios "]" = 0 := by decide
    rw [listOf, marks_append, marks_append, hStart, hEnd]
    omega

/-- The marks of a name in layers, together with the layers that it leaves out, are as many as
the layers. -/
theorem marks_foldr_layerName (hName : isOptional name = false) (layers : List Layer) :
    marks platform (layers.foldr (fun layer name => layerName platform name layer) name) +
      repeats layers = marks platform name + layers.length := by
  fun_induction repeats layers with
  | case1 rest ih =>
    simp only [List.foldr_cons, layerName, List.length_cons] at ih ⊢
    rw [marks_optionalOf, if_pos isOptional_optionalOf]
    omega
  | case2 layer rest hSingle ih =>
    rw [List.foldr_cons, List.length_cons]
    cases layer with
    | collection =>
      rw [layerName, marks_listOf]
      omega
    | nullable =>
      have hInner : isOptional
          (rest.foldr (fun layer name => layerName platform name layer) name) = false := by
        match rest with
        | [] => exact hName
        | .collection :: _ => exact isOptional_listOf
        | .nullable :: _ => exact (hSingle _ rfl rfl).elim
      rw [layerName, marks_optionalOf, hInner]
      simp only [Bool.false_eq_true, if_false]
      omega
  | case3 => rfl

theorem marks_dateType (platform : Platform) (semantics : DateSemantics) :
    marks platform (dateType platform semantics) = 0 ∧
      isOptional (dateType platform semantics) = false := by
  cases platform <;> cases semantics <;> decide

end Marks

/-! ## Closures of expressions -/

namespace Expr

/-- How many closures are around the innermost part of an expression. -/
def closures : Expr → Nat
  | .given _ | .item | .filled _ _ => 0
  | .ifPresent _ body | .each _ body => body.closures + 1

theorem closures_mapLeaf (template : Template) {value : Expr} (hValue : value.closures = 0)
    (d : Descriptor) : (mapLeaf template value d).closures = d.layers.length := by
  induction d generalizing value with
  | nullable d ih => rw [mapLeaf, closures, ih rfl]; rfl
  | collection d ih => rw [mapLeaf, closures, ih rfl]; rfl
  | reference => exact hValue
  | primitive | foreign => rfl

end Expr

/-- How many closures the text of an expression opens. -/
def openings (text : String) : Nat := text.toList.count '\x7b'

theorem openings_append (s t : String) : openings (s ++ t) = openings s + openings t := by
  rw [openings, String.toList_append, List.count_append]
  rfl

theorem openings_closure {value call body : String} (hCall : openings call = 0) :
    openings (Expr.closure value call body) = openings value + openings body + 1 := by
  have hStart : openings " \x7b " = 1 := by decide
  have hEnd : openings " \x7d" = 0 := by decide
  simp only [Expr.closure, openings_append, hCall, hStart, hEnd]
  omega

theorem Template.openings_fill {template : Template}
    (h : ∀ part ∈ template, openings (part.getD "") = 0) {value : String}
    (hValue : openings value = 0) : openings (template.fill value) = 0 := by
  induction template with
  | nil => rfl
  | cons part rest ih =>
    rw [List.forall_mem_cons] at h
    rw [fill_cons, openings_append, ih h.2]
    cases part with
    | none => exact hValue
    | some s => exact h.1

/-- The closures of an expression are those that its text opens. -/
theorem openings_text_mapLeaf {platform : Platform} {template : Template}
    (h : ∀ part ∈ template, openings (part.getD "") = 0) {value : Expr}
    (hValue : openings (value.text platform) = 0) (d : Descriptor) :
    openings ((Expr.mapLeaf template value d).text platform) = d.layers.length := by
  have hItem : openings (Expr.item.text platform) = 0 := by cases platform <;> decide
  have hPresent : openings (Expr.ifPresentCall platform) = 0 := by cases platform <;> decide
  induction d generalizing value with
  | nullable d ih =>
    rw [Expr.mapLeaf, Expr.text, openings_closure hPresent, hValue, ih hItem]
    simp [Descriptor.layers]
  | collection d ih =>
    rw [Expr.mapLeaf, Expr.text, openings_closure (by decide), hValue, ih hItem]
    simp [Descriptor.layers]
  | reference => exact hValue
  | primitive | foreign => exact Template.openings_fill h hValue

/-! ## Conversions of properties -/

theorem openings_toTarget (platform : Platform) (semantics : DateSemantics) :
    ∀ part ∈ toTarget platform semantics, openings (part.getD "") = 0 := by
  cases platform <;> cases semantics <;> decide

theorem openings_toSource (platform : Platform) (semantics : DateSemantics) :
    ∀ part ∈ toSource platform semantics, openings (part.getD "") = 0 := by
  cases platform <;> cases semantics <;> decide

/-- An expression has a closure for each layer of a type, which the name of the type marks but
for the repeated ones, and its text shows the closures. -/
structure CountsLayers (platform : Platform) (layers : List Layer) (name value : String)
    (e : Expr) : Prop where
  closures : e.closures = marks platform name + repeats layers
  eq_iff : e.closures = marks platform name ↔ ¬[Layer.nullable, .nullable] <:+: layers
  shown : openings value = 0 → openings (e.text platform) = e.closures

theorem countsLayers_convertValue {templates : Platform → DateSemantics → Template}
    {platform : Platform} {p : Property} {semantics : DateSemantics} {name : String}
    (hTexts : ∀ part ∈ templates platform semantics, openings (part.getD "") = 0)
    (hOverride : p.overrideFor platform = none) (hSemantics : p.dateSemantics = some semantics)
    (hPlain : p.isObservable = false) (hChanges : templates platform semantics ≠ Template.identity)
    (hName : marks platform name + repeats p.type.layers = p.type.layers.length)
    (value : String) :
    CountsLayers platform p.type.layers name value (convertValue templates platform p value) := by
  rw [convertValue_of_plain hOverride hSemantics hPlain, Expr.convert, if_neg hChanges]
  have hClosures :
      (Expr.mapLeaf (templates platform semantics) (.given value) p.type).closures =
        p.type.layers.length := Expr.closures_mapLeaf _ rfl _
  constructor
  · omega
  · rw [← repeats_eq_zero_iff]
    omega
  · intro hValue
    rw [hClosures]
    exact @openings_text_mapLeaf platform _ hTexts (.given value) hValue p.type

/-- The conversions of a property with a date at its leaf have as many closures as the name of
its type has marks, and one more for each time that the type says twice in a row that a value
may be absent. -/
theorem closures_eq_marks_add_repeats (t : Target) (p : Property) (semantics : DateSemantics)
    (kind value : String) (hPlain : p.element = none) (hOverride : p.overrideFor t.platform = none)
    (hSemantics : p.dateSemantics = some semantics) (hLeaf : p.type.leaf = .primitive kind) :
    ∃ r findings, t.propertyType p = .ok (r, findings) ∧
      (toTarget t.platform semantics ≠ Template.identity →
        CountsLayers t.platform p.type.layers r.name value (toTargetExpr t.platform p value)) ∧
      (toSource t.platform semantics ≠ Template.identity →
        CountsLayers t.platform p.type.layers r.name value (toSourceExpr t.platform p value)) := by
  have hShown : p.shownType = p.type ∧ p.shownLayers = p.type.layers := by
    simp [Property.shownType, Property.shownLayers, hPlain]
  have hObservable : p.isObservable = false := by simp [Property.isObservable, hPlain]
  obtain ⟨r, findings, hType, rfl⟩ :=
    propertyType_of_usesDate ⟨hOverride, kind, hShown.1 ▸ hLeaf⟩ hSemantics
  obtain ⟨hMarks, hOptional⟩ := marks_dateType t.platform semantics
  have hName := @marks_foldr_layerName t.platform _ hOptional p.shownLayers
  rw [hMarks, Nat.zero_add, hShown.2] at hName
  rw [hShown.2] at hType
  refine ⟨_, findings, hType, fun hChanges => ?_, fun hChanges => ?_⟩
  · exact countsLayers_convertValue (openings_toTarget _ _) hOverride hSemantics hObservable
      hChanges hName value
  · exact countsLayers_convertValue (openings_toSource _ _) hOverride hSemantics hObservable
      hChanges hName value

/-- A moment that may be absent, said twice. -/
def doubledMoment : Property where
  name := "Due"
  type := .nullable (.nullable (.primitive "datetime"))
  isReadOnly := true
  element := none
  typeOverride := none
  dateSemantics := some .utcInstant
  validation := none
  batching := none
  excluded := .none
  warning := none

/-- Times in lists, some of which may be absent, and a moment that is said twice to be so. -/
theorem closures_eq_marks_add_repeats_times :
    plannedTimes.element = none ∧ plannedTimes.overrideFor .android = none ∧
      plannedTimes.dateSemantics = some .timeOnly ∧
      plannedTimes.type.leaf = .primitive "datetime" ∧
      (∃ r findings, propertyType ⟨.android, []⟩ plannedTimes = .ok (r, findings) ∧
        r.name = "List<List<LocalTime>?>" ∧
        (toTargetExpr .android plannedTimes "source.Times").closures = marks .android r.name) ∧
      ∃ r findings, propertyType ⟨.ios, []⟩ doubledMoment = .ok (r, findings) ∧
        (toTargetExpr .ios doubledMoment "source.Due").closures = marks .ios r.name + 1 := by
  obtain ⟨r, findings, hType, hTarget, -⟩ := closures_eq_marks_add_repeats ⟨.android, []⟩
    plannedTimes .timeOnly "datetime" "source.Times" rfl (by decide) rfl rfl
  obtain ⟨r', findings', hType', hTarget', -⟩ := closures_eq_marks_add_repeats ⟨.ios, []⟩
    doubledMoment .utcInstant "datetime" "source.Due" rfl (by decide) rfl rfl
  have hName : (propertyType ⟨.android, []⟩ plannedTimes).toOption.map (·.1.name) =
      some "List<List<LocalTime>?>" := by decide
  rw [hType] at hName
  refine ⟨rfl, by decide, rfl, rfl, ⟨r, findings, hType, Option.some.inj hName, ?_⟩,
    r', findings', hType', (hTarget' (by decide)).closures⟩
  exact (hTarget (by decide)).eq_iff.2 (by decide)

/-- What may be absent twice has one mark and two closures. -/
theorem doubled_closures_differ :
    TypeText.parse "datetime??" = .ok (doubledMoment.type, false) ∧
      ∃ r findings, propertyType ⟨.ios, []⟩ doubledMoment = .ok (r, findings) ∧
        r.name = "Date?" ∧
        (toTargetExpr .ios doubledMoment "source.Due").text .ios =
          "source.Due.map \x7b $0.map \x7b " ++
            "Date(timeIntervalSince1970: $0.timeIntervalSince1970) \x7d \x7d" ∧
        toTarget .ios .utcInstant ≠ Template.identity ∧
        (toTargetExpr .ios doubledMoment "source.Due").closures ≠ marks .ios r.name := by
  have hMoment : TypeText.parse "datetime" = .ok (.primitive "datetime", false) := by
    have hShape : TypeText.shape (Text.trimChars "datetime".toList) =
        .leaf (.primitive "datetime") := by decide
    rw [TypeText.parse, TypeText.parse_eq, hShape]
    rfl
  have hOnce := (@TypeText.parse_optional_iff "datetime" (by decide) _).2 ⟨_, hMoment, rfl⟩
  have hTwice := (@TypeText.parse_optional_iff "datetime?" (by decide) _).2 ⟨_, hOnce, rfl⟩
  exact ⟨hTwice, _, _, rfl, by decide, by decide, by decide, by decide⟩

end Target
end ViewAdapters
