import ViewAdapters.Proofs.Text.Marks
import ViewAdapters.Target.Conversion

/-!
# Data of converted values

What an expression that converts a value does to the data of the value: what is absent stays
absent, a list keeps its length and its order, and a template is applied once to each scalar.

The text of an expression is read along the type of the value, as the compilers of the target
languages read it: a call on what may be absent or on a list has a closure, and the body of a
closure means what it is called with by the name that the innermost closure gives it.

* `Descriptor.Data`, `Descriptor.mapScalars`: data of a type, and a function on its scalars.
* `meaning?`: the function on data that a text denotes.
* `meaning?_mapLeaf`: the text of an expression denotes a function on scalars.
* `means_conversions`: that for all conversions of a property.
-/

namespace ViewAdapters

/-! ## Data of types -/

namespace Descriptor

/-- Data of a type whose leaves hold `α`. -/
def Data (α : Type) : Descriptor → Type
  | .nullable d => Option (d.Data α)
  | .collection d => List (d.Data α)
  | .primitive _ | .reference _ | .foreign _ => α

variable {α : Type}

/-- Applies a function to the leaves of data if they are scalars. A type of the source program
is no scalar. -/
def mapScalars (f : α → α) : (d : Descriptor) → d.Data α → d.Data α
  | .nullable d => Option.map (d.mapScalars f)
  | .collection d => List.map (d.mapScalars f)
  | .reference _ => id
  | .primitive _ | .foreign _ => f

theorem mapScalars_id (d : Descriptor) : d.mapScalars (α := α) id = id := by
  induction d with
  | nullable d ih => rw [mapScalars, ih, Option.map_id]; rfl
  | collection d ih => rw [mapScalars, ih, List.map_id_fun]; rfl
  | primitive | reference | foreign => rfl

end Descriptor

namespace Target

/-! ## Reading of expressions -/

/-- The start of a call with a closure for what is inside a layer. -/
def closureStart : Platform → Descriptor.Layer → String
  | .android, .nullable => "?.let \x7b "
  | .android, .collection => ".map \x7b "
  | .ios, _ => ".map \x7b "

def closureEnd : String := " \x7d"

/-- The name that a closure gives to what it is called with. -/
def closureItem : Platform → String
  | .android => "it"
  | .ios => "$0"

/-- The body of the closure, if a text is a call on a value for what is inside a layer. -/
def closureBody? (platform : Platform) (layer : Descriptor.Layer) (value text : String) :
    Option String :=
  ((text.toList.dropPrefix? (value ++ closureStart platform layer).toList).bind
    (Text.dropEnding? closureEnd.toList)).map String.ofList

/-- The function on data that a text denotes as an expression of a value, where a template with
the value in it stands for a function on leaves. -/
def meaning? {α : Type} (platform : Platform) (template : Template) (f : α → α) :
    (d : Descriptor) → (value text : String) → Option (d.Data α → d.Data α)
  | .nullable d, value, text =>
    if text = value then some id
    else (closureBody? platform .nullable value text).bind fun body =>
      (meaning? platform template f d (closureItem platform) body).map Option.map
  | .collection d, value, text =>
    if text = value then some id
    else (closureBody? platform .collection value text).bind fun body =>
      (meaning? platform template f d (closureItem platform) body).map List.map
  | .primitive _, value, text | .reference _, value, text | .foreign _, value, text =>
    if text = value then some id
    else if text = template.fill value then some f
    else none

section Reading

variable {α : Type} {platform : Platform} {template : Template} {f : α → α}

/-- A value itself is converted to itself. -/
theorem meaning?_self (d : Descriptor) (value : String) :
    meaning? platform template f d value value = some id := by
  cases d <;> exact if_pos rfl

theorem closure_ne (value call body : String) : Expr.closure value call body ≠ value := by
  intro h
  have hLength := congrArg String.length h
  have hEnd : " \x7d".length = 2 := rfl
  simp only [Expr.closure, String.length_append] at hLength
  omega

theorem closureBody?_ifPresent (value body : String) :
    closureBody? platform .nullable value (Expr.closure value (Expr.ifPresentCall platform) body) =
      some body := by
  have hText : (Expr.closure value (Expr.ifPresentCall platform) body).toList =
      (value ++ closureStart platform .nullable).toList ++ (body.toList ++ closureEnd.toList) := by
    cases platform <;>
      simp [Expr.closure, Expr.ifPresentCall, closureStart, closureEnd, String.toList_append]
  rw [closureBody?, hText, dropPrefix?_append, Option.bind_some,
    Text.dropEnding?_eq_some_iff.2 rfl, Option.map_some, String.ofList_toList]

theorem closureBody?_each (value body : String) :
    closureBody? platform .collection value (Expr.closure value ".map" body) = some body := by
  have hText : (Expr.closure value ".map" body).toList =
      (value ++ closureStart platform .collection).toList ++
        (body.toList ++ closureEnd.toList) := by
    cases platform <;> simp [Expr.closure, closureStart, closureEnd, String.toList_append]
  rw [closureBody?, hText, dropPrefix?_append, Option.bind_some,
    Text.dropEnding?_eq_some_iff.2 rfl, Option.map_some, String.ofList_toList]

/-- An expression with a template at its scalars denotes the function on scalars that the
template stands for. -/
theorem meaning?_mapLeaf (hChanges : ∀ s, template.fill s ≠ s) (d : Descriptor) (value : Expr) :
    meaning? platform template f d (value.text platform)
      ((Expr.mapLeaf template value d).text platform) = some (d.mapScalars f) := by
  have hItem : closureItem platform = Expr.item.text platform := by cases platform <;> rfl
  induction d generalizing value with
  | nullable d ih =>
    rw [Expr.mapLeaf, Expr.text, meaning?, if_neg (closure_ne _ _ _), closureBody?_ifPresent,
      Option.bind_some, hItem, ih]
    rfl
  | collection d ih =>
    rw [Expr.mapLeaf, Expr.text, meaning?, if_neg (closure_ne _ _ _), closureBody?_each,
      Option.bind_some, hItem, ih]
    rfl
  | reference name => exact meaning?_self _ _
  | primitive | foreign =>
    rw [Expr.mapLeaf, Expr.text, meaning?, if_neg (hChanges _), if_pos rfl]
    rfl

end Reading

/-! ## Templates of dates -/

theorem Template.fill_cons (part : Option String) (rest : Template) (s : String) :
    fill (part :: rest) s = part.getD s ++ fill rest s := by
  simp [fill, String.join_cons]

theorem length_le_join {t : String} {ts : List String} (h : t ∈ ts) :
    t.length ≤ (String.join ts).length := by
  induction h with
  | head rest =>
    rw [String.join_cons, String.length_append]
    exact Nat.le_add_right _ _
  | tail first _ ih =>
    rw [String.join_cons, String.length_append]
    exact Nat.le_add_left_of_le ih

theorem Template.length_fill (template : Template) (s : String) :
    (template.fill s).length =
      (String.join (template.filterMap id)).length + template.count none * s.length := by
  induction template with
  | nil => simp [fill]
  | cons part rest ih =>
    rw [fill_cons, String.length_append, ih]
    cases part with
    | none =>
      simp [Nat.add_mul]
      omega
    | some t =>
      simp
      omega

/-- A template with a value and a text in it changes every value. -/
theorem Template.fill_ne {template : Template} (hValue : none ∈ template)
    (hText : ∃ t ∈ template.filterMap id, t ≠ "") (s : String) : template.fill s ≠ s := by
  obtain ⟨t, ht, hFilled⟩ := hText
  intro h
  have hLength := congrArg String.length h
  rw [length_fill] at hLength
  have hSome : 0 < t.length :=
    Nat.pos_of_ne_zero fun hZero => hFilled (String.length_eq_zero_iff.1 hZero)
  have hLiteral := length_le_join ht
  have hOnce : s.length ≤ template.count none * s.length :=
    Nat.le_mul_of_pos_left _ (List.count_pos_iff.2 hValue)
  omega

theorem fill_toTarget_ne {platform : Platform} {semantics : DateSemantics}
    (h : toTarget platform semantics ≠ Template.identity) (s : String) :
    (toTarget platform semantics).fill s ≠ s := by
  refine Template.fill_ne ?_ ?_ s <;> revert h <;> cases platform <;> cases semantics <;> decide

theorem fill_toSource_ne {platform : Platform} {semantics : DateSemantics}
    (h : toSource platform semantics ≠ Template.identity) (s : String) :
    (toSource platform semantics).fill s ≠ s := by
  refine Template.fill_ne ?_ ?_ s <;> revert h <;> cases platform <;> cases semantics <;> decide

/-! ## Conversions of properties -/

section Conversions

variable {α : Type} {platform : Platform} {template : Template} {f : α → α}

/-- A converted value denotes the function on scalars that the template stands for, also if
that is the template which changes nothing. -/
theorem meaning?_convert (hChanges : template ≠ Template.identity → ∀ s, template.fill s ≠ s)
    (hIdentity : template = Template.identity → f = id) (d : Descriptor) (value : String) :
    meaning? platform template f d value ((Expr.convert template d (.given value)).text platform) =
      some (d.mapScalars f) := by
  by_cases h : template = Template.identity
  · rw [Expr.convert, if_pos h, hIdentity h, Descriptor.mapScalars_id]
    exact meaning?_self d value
  · rw [Expr.convert, if_neg h]
    exact meaning?_mapLeaf (hChanges h) d (.given value)

theorem convertValue_of_plain {templates : Platform → DateSemantics → Template} {p : Property}
    {semantics : DateSemantics} (hOverride : p.overrideFor platform = none)
    (hSemantics : p.dateSemantics = some semantics) (hPlain : p.isObservable = false)
    (value : String) : convertValue templates platform p value =
      Expr.convert (templates platform semantics) p.type (.given value) := by
  simp [convertValue, conversionSemantics, hOverride, hSemantics, hPlain]

theorem convertElements_eq_some_iff {p : Property} {value : String} {e : Expr} :
    convertElements platform p value = some e ↔
      ∃ semantics element, p.overrideFor platform = none ∧ p.dateSemantics = some semantics ∧
        p.element = some element ∧ toTarget platform semantics ≠ Template.identity ∧
        e = Expr.convert (toTarget platform semantics) (.collection element) (.given value) := by
  unfold convertElements conversionSemantics
  cases hOverride : p.overrideFor platform <;> cases hSemantics : p.dateSemantics <;>
    cases hElement : p.element <;> simp [eq_comm]

/-- The conversions of a property without an override keep what is absent and the lists of a
value, and apply the template of its meaning once to each scalar, and so do the conversions of
the elements of an observable collection. -/
theorem means_conversions (platform : Platform) (p : Property) (value : String)
    (interpret : Template → α → α) (hIdentity : interpret Template.identity = id) :
    (∀ semantics, p.overrideFor platform = none → p.dateSemantics = some semantics →
      p.isObservable = false →
        meaning? platform (toTarget platform semantics) (interpret (toTarget platform semantics))
            p.type value ((toTargetExpr platform p value).text platform) =
          some (p.type.mapScalars (interpret (toTarget platform semantics))) ∧
        meaning? platform (toSource platform semantics) (interpret (toSource platform semantics))
            p.type value ((toSourceExpr platform p value).text platform) =
          some (p.type.mapScalars (interpret (toSource platform semantics)))) ∧
    ∀ e, convertElements platform p value = some e →
      ∃ semantics element, p.dateSemantics = some semantics ∧ p.element = some element ∧
        meaning? platform (toTarget platform semantics) (interpret (toTarget platform semantics))
            (.collection element) value (e.text platform) =
          some (List.map (element.mapScalars (interpret (toTarget platform semantics)))) := by
  refine ⟨fun semantics hOverride hSemantics hPlain => ⟨?_, ?_⟩, fun e hElements => ?_⟩
  · rw [toTargetExpr, convertValue_of_plain hOverride hSemantics hPlain]
    exact meaning?_convert fill_toTarget_ne (fun h => h ▸ hIdentity) p.type value
  · rw [toSourceExpr, convertValue_of_plain hOverride hSemantics hPlain]
    exact meaning?_convert fill_toSource_ne (fun h => h ▸ hIdentity) p.type value
  · obtain ⟨semantics, element, -, hSemantics, hElement, -, rfl⟩ :=
      convertElements_eq_some_iff.1 hElements
    exact ⟨semantics, element, hSemantics, hElement,
      meaning?_convert fill_toTarget_ne (fun h => h ▸ hIdentity) (.collection element) value⟩

end Conversions

/-- Times of the stops of several days, some of which are not planned yet. -/
def plannedTimes : Property where
  name := "Times"
  type := .collection (.nullable (.collection (.primitive "datetime")))
  isReadOnly := true
  element := none
  typeOverride := none
  dateSemantics := some .timeOnly
  validation := none
  batching := none
  excluded := .none
  warning := none

/-- The same times as an observable collection. -/
def observedTimes : Property :=
  { plannedTimes with element := some (.nullable (.collection (.primitive "datetime"))) }

/-- Closures around a template, where every scalar stands for its text. -/
theorem means_conversions_times :
    Template.fill Template.identity = id ∧
      plannedTimes.overrideFor .android = none ∧
      (toTargetExpr .android plannedTimes "source.Times").text .android =
        "source.Times.map \x7b it?.let \x7b it.map \x7b " ++
          "LocalTime.parse(it.toString()) \x7d \x7d \x7d" ∧
      (meaning? .android (toTarget .android .timeOnly) (Template.fill (toTarget .android .timeOnly))
          plannedTimes.type "source.Times"
          ((toTargetExpr .android plannedTimes "source.Times").text .android)).map
          (· [none, some ["9:00", "12:30"]]) =
        some [none,
          some ["LocalTime.parse(9:00.toString())", "LocalTime.parse(12:30.toString())"]] ∧
      ∃ e, convertElements .ios observedTimes "source.Times" = some e ∧
        (meaning? .ios (toTarget .ios .timeOnly) (Template.fill (toTarget .ios .timeOnly))
            observedTimes.type "source.Times" (e.text .ios)).map (· [none, some ["$0"]]) =
          some [none, some ["Calendar.current.dateComponents(" ++
            "[.hour, .minute, .second], from: $0)"]] := by
  have hIdentity : Template.fill Template.identity = id :=
    funext fun s => by simp [Template.fill, Template.identity, String.join_cons]
  have hPlanned := (means_conversions .android plannedTimes "source.Times" Template.fill
    hIdentity).1 .timeOnly (by decide) rfl rfl
  have hObserved := (means_conversions .ios observedTimes "source.Times" Template.fill hIdentity).2
  refine ⟨hIdentity, by decide, by decide, ?_, _, rfl, ?_⟩
  · rw [hPlanned.1]
    rfl
  · obtain ⟨semantics, element, hSemantics, hElement, hMeaning⟩ := hObserved _ rfl
    cases hSemantics
    cases hElement
    exact (congrArg _ hMeaning).trans rfl

end Target
end ViewAdapters
