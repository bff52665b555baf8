import ViewAdapters.Proofs.Adapter.ShownTexts
import ViewAdapters.Proofs.Adapter.TextLines

/-!
# Composed lines

The lines of an adapter are composed of literal characters and of values. Whatever property the
values have that composed texts inherit, the literal characters of a part of the adapter stay
within their lines and close the brackets that they open.

* `Kotlin.composed_lines`, `Swift.composed_lines`, `Header.composed_lines`: the parts of an
  adapter.
* `Content.composed_lines`: all lines.
-/

namespace ViewAdapters

/-- Lines that are composed of literal characters and of values with a property. Lines whose literal
characters are enclosed need not be counted where other lines stand around them. -/
inductive ComposedLines (P : String → Prop) : List String → List Char → Prop
  | nil : ComposedLines P [] []
  | cons {s : String} {ls : List String} {cs ds : List Char} : Composed P s cs →
    ComposedLines P ls ds → ComposedLines P (s :: ls) (cs ++ ds)
  | append {ls ls' : List String} {cs ds : List Char} : ComposedLines P ls cs →
    ComposedLines P ls' ds → ComposedLines P (ls ++ ls') (cs ++ ds)
  | enclosed {ls : List String} {cs : List Char} : ComposedLines P ls cs →
    isEnclosed cs = true → ComposedLines P ls []

variable {banned : List Char} {P : String → Prop}

namespace ComposedLines

/-- Enclosed lines for each item. -/
theorem flatMap {α : Type} {xs : List α} {f : α → List String}
    (h : ∀ x ∈ xs, ComposedLines P (f x) []) : ComposedLines P (xs.flatMap f) [] := by
  induction xs with
  | nil => exact .nil
  | cons x xs ih =>
    rw [List.forall_mem_cons] at h
    exact h.1.append (ih h.2)

/-- One enclosed line for each item. -/
theorem map {α : Type} {xs : List α} {f : α → String}
    (h : ∀ x ∈ xs, ComposedLines P [f x] []) : ComposedLines P (xs.map f) [] := by
  induction xs with
  | nil => exact .nil
  | cons x xs ih =>
    rw [List.forall_mem_cons] at h
    exact h.1.append (ih h.2)

/-- An optional line is composed if it is wherever it is there. -/
theorem option {s : Option String} {f : String → String}
    (h : ∀ x ∈ s, ComposedLines P [f x] []) : ComposedLines P (s.map f).toList [] := by
  cases s with
  | none => exact .nil
  | some x => exact h x rfl

end ComposedLines

/-- The argument of a call is the name of the parameter, or nothing. -/
theorem CommandView.Shows.argument {c : CommandView} (h : c.Shows P) (hP : Inherited banned P) :
    P c.argument := by
  unfold CommandView.argument
  cases hParameter : c.parameter with
  | none => exact hP.literal (by decide)
  | some q => exact (h.parameter q hParameter).1

/-! ## Headers -/

namespace Header

/-- A note names members behind a literal. -/
theorem composed_note (hP : Inherited banned P) {text : String} {members : List String}
    (hText : P text) (h : ∀ s ∈ members, P s) : ComposedLines P (note text members) [] := by
  unfold note
  split
  · exact .nil
  · exact .enclosed (.cons (.value (.next .literal hText) (hP.intercalate h)) .nil) (by decide)

set_option maxRecDepth 2000 in
theorem composed_lines (hP : Inherited banned P) {c : Content}
    (hQualified : P c.viewModel.qualifiedName) (hModule : P c.viewModel.originModule)
    (hTime : P c.time.headerText) (hProperties : ∀ p ∈ c.properties, P p.name)
    (hCommands : ∀ d ∈ c.commands, P d.name) : ComposedLines P (lines c) [] := by
  have hCustom : ∀ s ∈ c.customMembers, P s := by
    simp only [Content.customMembers, List.mem_map, List.mem_filter]
    rintro _ ⟨p, ⟨hp, -⟩, rfl⟩
    exact hProperties p hp
  have hWarned : ∀ s ∈ c.warnedMembers, P s := by
    simp only [Content.warnedMembers, List.mem_append, List.mem_map, List.mem_filter]
    rintro _ (⟨p, ⟨hp, -⟩, rfl⟩ | ⟨d, ⟨hd, -⟩, rfl⟩)
    · exact hProperties p hp
    · exact hCommands d hd
  have hDisclaimer : P disclaimer := hP.literal (by decide)
  refine .enclosed (.append (.append (.append
    (.cons .literal <| .cons (.value .literal hDisclaimer) <|
      .cons (.value .literal hQualified) <| .cons (.value .literal hModule) <|
      .cons (.value .literal hTime) .nil)
    (composed_note hP (hP.literal ?_) hCustom)) (composed_note hP (hP.literal ?_) hWarned))
    (.cons .literal <| .cons .literal .nil)) ?_ <;> decide

end Header

/-! ## Members -/

section Members

variable {p : PropertyView} {c : CommandView}

/-- The texts of the parameter and of the call of a wrapper on both platforms. -/
theorem CommandView.Shows.texts (h : c.Shows P) (hP : Inherited banned P) :
    (P (Kotlin.parameterText c) ∧ P (Kotlin.callText c)) ∧
      P (Swift.parameterText c) ∧ P (Swift.callText c) := by
  have hArgument := h.argument hP
  refine ⟨⟨?_, hP.of_composed (.next (.next .literal h.name) hArgument) (by decide)⟩, ?_,
    hP.of_composed (.next (.next .literal h.name) hArgument) (by decide)⟩
  · unfold Kotlin.parameterText
    cases hParameter : c.parameter with
    | none => exact hP.literal (by decide)
    | some q =>
      have hBoth := h.parameter q hParameter
      exact hP.append (hP.append hBoth.1 (hP.literal (by decide))) hBoth.2
  · unfold Swift.parameterText
    cases hParameter : c.parameter with
    | none => exact hP.literal (by decide)
    | some q =>
      have hBoth := h.parameter q hParameter
      exact hP.of_composed (.value (.next .literal hBoth.1) hBoth.2) (by decide)

/-- What follows a value that was written back, on both platforms. -/
theorem PropertyView.Shows.composed_afterWrite (h : p.Shows P) (hP : Inherited banned P) :
    ComposedLines P (Kotlin.afterWriteLines p.afterWrite) [] ∧
      ComposedLines P (Swift.afterWriteLines p.afterWrite) [] := by
  cases hAfter : p.afterWrite with
  | nothing => exact ⟨.nil, .nil⟩
  | call validator =>
    have hValidator : P validator := h.validator validator (by rw [hAfter]; rfl)
    constructor <;> exact .enclosed (.cons (.next .literal hValidator) .nil) (by decide)
  | bySource =>
    have hNote : P AfterWrite.noteText := hP.literal (by decide)
    constructor <;> exact .enclosed (.cons (.value .literal hNote) .nil) (by decide)

set_option maxRecDepth 2000 in
/-- The wrappers of both platforms that report their results. -/
theorem CommandView.Shows.composed_main (h : c.Shows P) (hP : Inherited banned P) :
    ComposedLines P (Kotlin.mainLines c) [] ∧ ComposedLines P (Swift.mainLines c) [] := by
  obtain ⟨⟨hKotlin, hKotlinCall⟩, hSwift, hSwiftCall⟩ := h.texts hP
  have hParameter {text : String} (hText : P text) :
      P (if c.parameter.isSome then text ++ ", " else "") := hP.ite_append hText (by decide)
  constructor <;>
    refine .enclosed (.cons (.next (.next .literal h.identifier) (hParameter ?_)) <|
      .cons .literal <| .cons (.next .literal ?_) <| .cons .literal <|
      .cons .literal .nil) ?_ <;> first | assumption | decide

end Members

/-! ## Kotlin -/

namespace Kotlin

section Members

variable {p : PropertyView} {c : CommandView}

theorem shows_backing (hP : Inherited banned P) (h : p.Shows P) : P (backing p) :=
  hP.prepend h.identifier (by decide)

theorem shows_refreshText (hP : Inherited banned P) (h : p.Shows P) : P (refreshText p) :=
  hP.append (hP.append (shows_backing hP h) (hP.literal (by decide))) h.refresh

theorem composed_notes {warning batchNote : Option String} (hWarning : ∀ s ∈ warning, P s)
    (hNote : ∀ s ∈ batchNote, P s) : ComposedLines P (notes warning batchNote) [] := by
  refine .append (.option fun s hs => ?_) (.option fun s hs => ?_)
  · exact .enclosed (.cons (.value .literal (hWarning s hs)) .nil) (by decide)
  · exact .enclosed (.cons (.value .literal (hNote s hs)) .nil) (by decide)

theorem composed_setter (hP : Inherited banned P) (h : p.Shows P) :
    ComposedLines P (setterLines p) [] := by
  refine .enclosed (.cons .literal <| .cons (.next (.next .literal h.setter) h.typeName) <|
    .cons (.next .literal (shows_backing hP h)) <| .cons .literal .nil) ?_
  decide

theorem composed_property (hP : Inherited banned P) (h : p.Shows P) :
    ComposedLines P (propertyLines p) [] := by
  have hBacking := shows_backing hP h
  have hSetter : ComposedLines P (if p.isTwoWay then setterLines p else []) [] := by
    split
    · exact composed_setter hP h
    · exact .nil
  refine .enclosed (.append (.append (.append (.cons .literal .nil)
    (composed_notes h.warning h.batchNote))
    (.cons (.next (.next (.next .literal hBacking) h.typeName) h.seed) <|
      .cons (.next (.next (.next .literal h.identifier) h.typeName) hBacking) .nil)) hSetter) ?_
  decide

/-- The case names the property in a string and updates its container. -/
theorem composed_changedCase (hP : Inherited banned P) (h : p.Shows P) :
    ComposedLines P [changedCase p] [] :=
  .enclosed (.cons (.next (.next .literal h.name) (shows_refreshText hP h)) .nil) (by decide)

theorem composed_collectionListener (hP : Inherited banned P) (h : p.Shows P) :
    ComposedLines P (collectionListener p) [] := by
  refine .enclosed (.cons (.next .literal h.name) <|
    .cons (.value .literal (shows_refreshText hP h)) <| .cons .literal .nil) ?_
  decide

set_option maxRecDepth 2000 in
theorem composed_writeBack (hP : Inherited banned P) (h : p.Shows P) :
    ComposedLines P (writeBackLines p) [] := by
  refine .enclosed (.append (.append
    (.cons (.value .literal h.identifier) <| .cons .literal <| .cons .literal <|
      .cons (.value (.next .literal h.name) h.toSource) .nil)
    (h.composed_afterWrite hP).1) (.cons .literal <| .cons .literal .nil)) ?_
  decide

theorem composed_canExecute (h : c.Shows P) : ComposedLines P (canExecuteLines c) [] := by
  refine .enclosed (.cons .literal <| .cons (.next .literal h.canName) <|
    .cons (.next .literal h.name) .nil) ?_
  decide

set_option maxRecDepth 2000 in
/-- An asynchronous wrapper suspends and calls its source behind its context. -/
theorem composed_async (hP : Inherited banned P) (h : c.Shows P) :
    ComposedLines P (asyncLines c) [] := by
  have hThread : P (if c.dispatch = .main then "Dispatchers.Main" else "Dispatchers.IO") := by
    split <;> exact hP.literal (by decide)
  refine .enclosed (.cons (.next (.next .literal h.identifier) (h.texts hP).1.1) <|
    .cons (.next .literal hThread) <| .cons .literal <|
    .cons (.next (.next .literal h.name) (h.argument hP)) <| .cons .literal <|
    .cons .literal <| .cons .literal <| .cons .literal <| .cons .literal .nil) ?_
  decide

/-- A wrapper without a thread of its own calls its source in one line. -/
theorem composed_inline (hP : Inherited banned P) (h : c.Shows P) :
    ComposedLines P (inlineLines c) [] := by
  refine .enclosed (.cons (.next (.next .literal h.identifier) (h.texts hP).1.1) <|
    .cons (.value .literal (h.texts hP).1.2) .nil) ?_
  decide

theorem composed_command (hP : Inherited banned P) (h : c.Shows P) :
    ComposedLines P (commandLines c) [] := by
  refine .append (.append (.cons .literal .nil) (composed_notes h.warning (by simp))) ?_
  split
  · exact composed_async hP h
  · split
    · exact (h.composed_main hP).1
    · exact composed_inline hP h

end Members

variable {c : Content}

set_option maxRecDepth 2000 in
/-- The initializer lists the cases of all properties, then their listeners and write-backs. -/
theorem composed_init (hP : Inherited banned P) (h : c.Shows P) :
    ComposedLines P (initLines c) [] := by
  have hCases : ComposedLines P (c.properties.map changedCase) [] :=
    .map fun p hp => composed_changedCase hP (h.properties p hp)
  have hListeners : ComposedLines P (c.collections.flatMap collectionListener) [] :=
    .flatMap fun p hp => composed_collectionListener hP
      (h.properties p (List.mem_of_mem_filter hp))
  have hWriteBack : ComposedLines P (c.twoWayProperties.flatMap writeBackLines) [] :=
    .flatMap fun p hp => composed_writeBack hP (h.properties p (List.mem_of_mem_filter hp))
  refine .enclosed (.append (.append (.append (.append (.append
    (.cons .literal <| .cons .literal <| .cons .literal <| .cons .literal .nil) hCases)
    (.cons .literal <| .cons .literal <| .cons .literal .nil)) hListeners) hWriteBack)
    (.cons .literal .nil)) ?_
  decide

/-- An import is a literal behind which only its name stands. -/
theorem composed_imports (h : c.Shows P) :
    ComposedLines P (c.imports.items.map ("import " ++ ·)) [] :=
  .map fun i hi => .enclosed (.cons (.value .literal (h.imports i hi)) .nil) (by decide)

set_option maxRecDepth 2000 in
theorem composed_lines (hP : Inherited banned P) (h : c.Shows P) :
    ComposedLines P (lines c) [] := by
  have hProperties : ComposedLines P (c.properties.flatMap propertyLines) [] :=
    .flatMap fun p hp => composed_property hP (h.properties p hp)
  have hCan : ComposedLines P
      ((c.commands.filter (·.exposesCanExecute)).flatMap canExecuteLines) [] :=
    .flatMap fun d hd => composed_canExecute (h.commands d (List.mem_of_mem_filter hd))
  have hInit : ComposedLines P (if c.properties.isEmpty then [] else initLines c) [] := by
    split
    · exact .nil
    · exact composed_init hP h
  have hCommands : ComposedLines P (c.commands.flatMap commandLines) [] :=
    .flatMap fun d hd => composed_command hP (h.commands d hd)
  refine .enclosed (.append (.append (.append (.append (.append
    (.append (.append (.cons (.value .literal h.package) <| .cons .literal .nil)
      (composed_imports h))
      (.cons .literal <| .cons (.next .literal h.adapterName) <|
        .cons (.value .literal h.sourceType) <| .cons .literal .nil))
    hProperties) hCan) hInit) hCommands)
    (.cons .literal <| .cons .literal <| .cons .literal <| .cons .literal <| .cons .literal <|
      .cons .literal .nil)) ?_
  decide

end Kotlin

/-! ## Swift -/

namespace Swift

section Members

variable {p : PropertyView} {c : CommandView}

theorem composed_declaration (hP : Inherited banned P) (h : p.Shows P) :
    ComposedLines P (declarationLines p) [] := by
  have hVariable : P (if p.isTwoWay then "var " else "private(set) var ") := by
    split <;> exact hP.literal (by decide)
  refine .append (.append (.option fun s hs => ?_) (.option fun s hs => ?_)) ?_
  · exact .enclosed (.cons (.value .literal (h.warning s hs)) .nil) (by decide)
  · exact .enclosed (.cons (.value .literal (h.batchNote s hs)) .nil) (by decide)
  · refine .enclosed (.cons (.value (.next (.value .literal hVariable) h.identifier) h.typeName)
      .nil) ?_
    decide

theorem composed_seed (h : p.Shows P) :
    ComposedLines P ["        self." ++ p.identifier ++ " = " ++ p.seed] [] :=
  .enclosed (.cons (.value (.next .literal h.identifier) h.seed) .nil) (by decide)

theorem composed_changedCase (h : p.Shows P) : ComposedLines P (changedCase p) [] := by
  refine .enclosed (.cons (.next .literal h.name) <|
    .cons (.value (.next .literal h.identifier) h.refresh) .nil) ?_
  decide

set_option maxRecDepth 2000 in
theorem composed_collectionListener (h : p.Shows P) :
    ComposedLines P (collectionListener p) [] := by
  refine .enclosed (.cons .literal <| .cons (.next .literal h.name) <| .cons .literal <|
    .cons .literal <| .cons .literal <| .cons (.value (.next .literal h.identifier) h.refresh) <|
    .cons .literal <| .cons .literal <| .cons .literal .nil) ?_
  decide

set_option maxRecDepth 2000 in
theorem composed_writeBack (hP : Inherited banned P) (h : p.Shows P) :
    ComposedLines P (writeBackLines p) [] := by
  refine .enclosed (.append (.append
    (.cons .literal <| .cons (.value .literal h.identifier) <| .cons .literal <|
      .cons .literal <| .cons .literal <| .cons (.value (.next .literal h.name) h.toSource) .nil)
    (h.composed_afterWrite hP).2) (.cons .literal <| .cons .literal .nil)) ?_
  decide

theorem composed_canExecute (h : c.Shows P) : ComposedLines P (canExecuteLines c) [] := by
  refine .enclosed (.cons .literal <| .cons (.next .literal h.canName) <|
    .cons (.next .literal h.name) <| .cons .literal .nil) ?_
  decide

set_option maxRecDepth 2000 in
theorem composed_async (hP : Inherited banned P) (h : c.Shows P) :
    ComposedLines P (asyncLines c) [] := by
  unfold asyncLines taskLines
  split
  all_goals
    refine .enclosed (.append (.append
      (.cons (.next (.next .literal h.identifier) (h.texts hP).2.1) .nil)
      (.cons (by first | exact .literal | exact .more .literal) <| .cons .literal .nil))
      (.cons .literal <| .cons (.next (.next .literal h.name) (h.argument hP)) <|
        .cons .literal <| .cons .literal <| .cons .literal <| .cons .literal <|
        .cons .literal <| .cons .literal .nil)) ?_
    decide

theorem composed_inline (hP : Inherited banned P) (h : c.Shows P) :
    ComposedLines P (inlineLines c) [] := by
  refine .enclosed (.cons (.next (.next .literal h.identifier) (h.texts hP).2.1) <|
    .cons (.value .literal (h.texts hP).2.2) <| .cons .literal .nil) ?_
  decide

theorem composed_command (hP : Inherited banned P) (h : c.Shows P) :
    ComposedLines P (commandLines c) [] := by
  refine .append (.append (.cons .literal .nil) (.option fun s hs => ?_)) ?_
  · exact .enclosed (.cons (.value .literal (h.warning s hs)) .nil) (by decide)
  · split
    · exact composed_async hP h
    · split
      · exact (h.composed_main hP).2
      · exact composed_inline hP h

end Members

variable {c : Content}

/-- The only text of the input in the stored members is the type of the source. -/
theorem composed_storage (h : c.Shows P) : ComposedLines P (storageLines c) [] := by
  have hBlank : ComposedLines P (if c.properties.isEmpty then [] else [""]) [] := by
    split
    · exact .nil
    · exact .cons .literal .nil
  have hFlag : ComposedLines P (if c.twoWayProperties.isEmpty then []
      else ["    private var isApplyingSourceChange = false"]) [] := by
    split
    · exact .nil
    · exact .enclosed (.cons .literal .nil) (by decide)
  refine .enclosed (.append (.append hBlank
    (.cons (.value .literal h.sourceType) <| .cons .literal .nil)) hFlag) ?_
  decide

theorem composed_init (h : c.Shows P) : ComposedLines P (initLines c) [] := by
  have hSeeds : ComposedLines P
      (c.properties.map fun p => "        self." ++ p.identifier ++ " = " ++ p.seed) [] :=
    .map fun p hp => composed_seed (h.properties p hp)
  have hBindings : ComposedLines P
      (if c.properties.isEmpty then [] else ["        setupBindings()"]) [] := by
    split
    · exact .nil
    · exact .enclosed (.cons .literal .nil) (by decide)
  refine .enclosed (.append (.append (.append
    (.cons .literal <| .cons (.next .literal h.sourceType) <| .cons .literal .nil) hSeeds)
    hBindings) (.cons .literal .nil)) ?_
  decide

set_option maxRecDepth 2000 in
/-- Bindings are composed from the cases, listeners and write-backs of the properties. -/
theorem composed_binding (hP : Inherited banned P) (h : c.Shows P) :
    ComposedLines P (bindingLines c) [] := by
  have hGuard : ComposedLines P (if c.twoWayProperties.isEmpty then [] else guardLines) [] := by
    split
    · exact .nil
    · exact .enclosed (.cons .literal <| .cons .literal .nil) (by decide)
  have hCases : ComposedLines P (c.properties.flatMap changedCase) [] :=
    .flatMap fun p hp => composed_changedCase (h.properties p hp)
  have hListeners : ComposedLines P (c.collections.flatMap collectionListener) [] :=
    .flatMap fun p hp => composed_collectionListener (h.properties p (List.mem_of_mem_filter hp))
  have hWriteBack : ComposedLines P (c.twoWayProperties.flatMap writeBackLines) [] :=
    .flatMap fun p hp => composed_writeBack hP (h.properties p (List.mem_of_mem_filter hp))
  refine .enclosed (.append (.append (.append (.append (.append (.append (.append
    (.cons .literal <| .cons .literal <| .cons .literal <| .cons .literal <| .cons .literal <|
      .cons .literal .nil) hGuard) (.cons .literal .nil)) hCases)
    (.cons .literal <| .cons .literal <| .cons .literal <| .cons .literal <| .cons .literal <|
      .cons .literal .nil)) hListeners) hWriteBack) (.cons .literal .nil)) ?_
  decide

set_option maxRecDepth 2000 in
theorem composed_lines (hP : Inherited banned P) (h : c.Shows P) :
    ComposedLines P (lines c) [] := by
  have hImports : ComposedLines P (c.imports.items.map ("import " ++ ·)) [] :=
    .map fun i hi => .enclosed (.cons (.value .literal (h.imports i hi)) .nil) (by decide)
  have hProperties : ComposedLines P (c.properties.flatMap declarationLines) [] :=
    .flatMap fun p hp => composed_declaration hP (h.properties p hp)
  have hCan : ComposedLines P
      ((c.commands.filter (·.exposesCanExecute)).flatMap canExecuteLines) [] :=
    .flatMap fun d hd => composed_canExecute (h.commands d (List.mem_of_mem_filter hd))
  have hCommands : ComposedLines P (c.commands.flatMap commandLines) [] :=
    .flatMap fun d hd => composed_command hP (h.commands d hd)
  have hBinding : ComposedLines P (if c.properties.isEmpty then [] else bindingLines c) [] := by
    split
    · exact .nil
    · exact composed_binding hP h
  refine .enclosed (.append (.append (.append (.append (.append (.append (.append
    (.append hImports (.cons .literal <| .cons (.next .literal h.adapterName) .nil))
    hProperties) (composed_storage h)) (composed_init h)) hCan) hCommands) hBinding)
    (.cons .literal <| .cons .literal <| .cons .literal <| .cons .literal <| .cons .literal <|
      .cons .literal .nil)) ?_
  decide

end Swift

/-! ## All lines -/

/-- All lines of an adapter are composed from literals and the texts that it shows. -/
theorem Content.composed_lines (hP : Inherited banned P) {c : Content} (h : c.Shows P) :
    ComposedLines P c.lines [] := by
  have hBody : ComposedLines P (UserTemplate.bodyLines c.platform c) [] := by
    cases hPlatform : c.platform with
    | android => exact Kotlin.composed_lines hP h
    | ios => exact Swift.composed_lines hP h
  have hHeader : ComposedLines P (Header.lines c) [] :=
    Header.composed_lines hP h.qualifiedName h.originModule h.time
      (fun p hp => (h.properties p hp).name) fun d hd => (h.commands d hd).name
  exact hHeader.append hBody

namespace ComposedLines

/-- Lines composed from texts without a line break have none. -/
theorem noFeed {ls : List String} {cs : List Char} (h : ComposedLines NoFeed ls cs)
    (hcs : '\n' ∉ cs) : ∀ line ∈ ls, NoFeed line := by
  induction h with
  | nil => simp
  | cons hLine _ ih =>
    rw [List.mem_append, not_or] at hcs
    exact List.forall_mem_cons.2 ⟨hLine.noFeed hcs.1, ih hcs.2⟩
  | append _ _ ih ih' =>
    rw [List.mem_append, not_or] at hcs
    exact List.forall_mem_append.2 ⟨ih hcs.1, ih' hcs.2⟩
  | enclosed _ hEnclosed ih => exact ih (isEnclosed_iff.1 hEnclosed).1

/-- Reading composed lines is reading their literal characters. -/
theorem awaitedAfter_eq {ls : List String} {cs : List Char}
    (h : ComposedLines WellBracketed ls cs) (awaited : List Char) :
    Text.awaitedAfter awaited (textOfLines ls).toList = Text.awaitedAfter awaited cs := by
  induction h generalizing awaited with
  | nil => rfl
  | cons hLine _ ih =>
    have hFeed : Text.IsNested "\n".toList := .plain (by decide) .nil
    simp only [Text.textOfLines_cons, String.toList_append, Text.awaitedAfter_append,
      hLine.awaitedAfter_eq, hFeed.awaitedAfter_eq, ih, Option.bind_assoc, Option.bind_some]
  | append _ _ ih ih' =>
    simp only [Text.textOfLines_append, String.toList_append, Text.awaitedAfter_append, ih, ih']
  | enclosed _ hEnclosed ih =>
    rw [ih, (isEnclosed_iff.1 hEnclosed).2.awaitedAfter_eq]
    rfl

end ComposedLines

end ViewAdapters
