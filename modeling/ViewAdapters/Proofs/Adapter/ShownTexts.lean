import ViewAdapters.Proofs.Adapter.Imports
import ViewAdapters.Proofs.Target.ResolvedTypes
import ViewAdapters.Proofs.Text.Composed

/-!
# Shown texts

What an adapter shows of a view-model is put together from the texts of the input, from names
that are derived from them and from literals. So a property that texts have if they lack some of
the structural characters, and that composed texts inherit from their parts, is one of all that
is shown if the texts of the input lack these characters.

* `Target.transfers_shows`, `PropertyView.shows_of_of`: the types and the expressions.
* `Assembly.shows_of_make`: the content of an adapter.
-/

namespace ViewAdapters

/-! ## Texts without structural characters -/

section Lacks

variable {banned : List Char} {s : String}

/-- The last part of a name holds no character that the name does not. -/
theorem lacks_simpleName (h : Lacks banned s) : Lacks banned (Descriptor.simpleName s) := by
  refine h.mono fun c hc => ?_
  rw [Descriptor.simpleName, Text.lastSegment, String.toList_ofList] at hc
  exact Text.mem_of_mem_lastSegment hc

/-- What is left of a name behind its namespace holds no new character. -/
theorem lacks_afterNamespace (source : String) (h : Lacks banned s) :
    Lacks banned (Target.afterNamespace source s) := by
  refine h.mono fun c hc => ?_
  rw [Target.afterNamespace, String.toList_ofList] at hc
  exact List.mem_of_mem_drop ((List.dropWhile_sublist _).subset hc)

/-- Digits have no structure. -/
theorem lacks_digits (h : IsDigits s) : Lacks structuralChars s := by
  have hNoDigit : structuralChars.all (!·.isDigit) = true := by decide
  intro c hc hIn
  have hOther := List.all_eq_true.1 hNoDigit c hIn
  simp [h c hc] at hOther

/-- Integers are written without structure, also with a sign. -/
theorem lacks_numeral (n : Int) : Lacks structuralChars (Text.numeral n) := by
  have hDigits := lacks_digits (isDigits_toDigits n.natAbs)
  unfold Text.numeral
  split
  · intro c hc
    rw [String.toList_ofList] at hc
    rcases List.mem_cons.1 hc with rfl | hc
    · decide
    · exact hDigits c (String.toList_ofList ▸ hc)
  · exact hDigits

/-- The time in a header holds digits, signs and blanks only. -/
theorem lacks_headerText (t : Calendar.UtcSecond) : Lacks structuralChars t.headerText := by
  have hYear : Lacks structuralChars t.date.year.repr :=
    Nat.repr_eq_ofList_toDigits ▸ lacks_digits (isDigits_toDigits t.date.year)
  have hPadded : ∀ n, Lacks structuralChars (Calendar.padded 2 n) :=
    fun n => lacks_digits (isDigits_padded 2 n)
  unfold Calendar.UtcSecond.headerText Calendar.UtcSecond.clockText
  refine .append (.append (.append (.append (.append (.append (.append hYear ?_)
    (hPadded _)) ?_) (hPadded _)) ?_)
    (.append (.append (.append (.append (hPadded _) ?_) (hPadded _)) ?_)
      (hPadded _))) ?_ <;>
  decide

/-- The name of an adapter holds only letters beside those of its view-model. -/
theorem lacks_adapterNameOf (hStructural : ∀ c ∈ banned, c ∈ structuralChars)
    (h : Lacks banned s) : Lacks banned (ViewModel.adapterNameOf s) := by
  have hEnding : Lacks structuralChars "Adapter" := by decide
  refine .append (h.mono ?_) fun c hc hIn => hEnding c hc (hStructural c hIn)
  rw [String.toList_ofList]
  cases hStem : Text.stem? ViewModel.nameEnding s.toList with
  | none => exact List.Subset.refl _
  | some stem =>
    rw [(Text.stem?_eq_some_iff.1 hStem).1]
    exact List.subset_append_left _ _

end Lacks

variable {banned : List Char} {P : String → Prop}

namespace Target

/-! ## Types -/

/-- The name of a type and its imports have a property. -/
structure Resolved.Shows (P : String → Prop) (r : Resolved) : Prop where
  name : P r.name
  imports : ∀ i ∈ r.imports, P i

theorem shows_plain {name : String} (h : P name) : (Resolved.plain name).Shows P :=
  ⟨h, fun _ hi => absurd hi List.not_mem_nil⟩

/-- A reference shows the name of the type and of its namespaces, before or after the mapping. -/
theorem shows_reference (hP : Inherited banned P) {t : Target}
    (hTargets : ∀ e ∈ t.namespaces, Lacks banned e.2) {qualifiedName : String}
    (h : Lacks banned qualifiedName) : (t.reference qualifiedName).Shows P := by
  have hSimple := hP.of_lacks _ (lacks_simpleName h)
  unfold reference
  split
  · exact shows_plain hSimple
  · rename_i source target hLongest
    have hTarget := hP.of_lacks _ (hTargets _ (NamespaceTable.longest?_covers hLongest).2)
    have hPoint : P (target ++ ".") := hP.append hTarget (hP.literal (by decide))
    unfold replaced
    split
    · have hRest := hP.of_lacks _ (lacks_afterNamespace source h)
      refine shows_plain ?_
      split
      · exact hRest
      · split
        · exact hTarget
        · exact hP.append hPoint hRest
    · dsimp only
      split
      · exact shows_plain hSimple
      · refine ⟨hP.append hPoint hSimple, fun i hi => ?_⟩
        rw [SortedSet.mem_ofList fun _ _ h => h, List.mem_singleton] at hi
        rwa [hi]

theorem shows_named (hP : Inherited banned P) (platform : Platform) {name : String} (h : P name) :
    (named platform name).Shows P where
  name := h
  imports i hi := by
    have hTable : ∀ e ∈ requirements platform, P e.2.importLine := by
      cases platform <;>
        simp only [requirements, androidRequirements, iosRequirements, List.forall_mem_cons] <;>
        and_intros <;> first | exact hP.literal (by decide) | simp
    obtain ⟨word, -, capability, hRequired⟩ := mem_named_imports.1 hi
    exact hTable (word, ⟨capability, i⟩) (SortedMap.mem_of_lookup hRequired)

/-- The types of scalars are texts of the platform. -/
theorem shows_scalar (hP : Inherited banned P) (platform : Platform)
    (semantics : Option DateSemantics) (member kind : String) :
    (resolveScalar platform semantics member kind).1.Shows P := by
  have hDate : ∀ date, P (dateType platform date) := by
    intro date
    cases platform <;> cases date <;> exact hP.literal (by decide)
  have hTable : ∀ e ∈ scalars platform, P e.2 := by
    cases platform <;> simp only [scalars, androidScalars, iosScalars, List.forall_mem_cons] <;>
      and_intros <;> first | exact hP.literal (by decide) | simp
  exact resolveScalar_induction (fun date => shows_named hP platform (hDate date))
    (fun e he => shows_named hP platform (hTable e he)) (shows_plain (hP.literal (by decide)))
    semantics member kind

/-- A layer puts literals around the type inside. -/
theorem shows_inLayer (hP : Inherited banned P) (platform : Platform) (layer : Descriptor.Layer)
    {r : Resolution} (h : r.1.Shows P) : (r.inLayer platform layer).1.Shows P := by
  refine ⟨?_, h.imports⟩
  cases layer with
  | nullable =>
    simp only [Resolution.inLayer, Resolved.wrap, layerName, optionalOf]
    split
    · exact h.name
    · exact hP.append h.name (hP.literal (by decide))
  | collection => cases platform <;> exact hP.between h.name (by decide)

/-- Resolution brings nothing into a type but texts of the input and literals. -/
theorem transfers_shows (hP : Inherited banned P) {t : Target}
    (hTargets : ∀ e ∈ t.namespaces, Lacks banned e.2) :
    t.Transfers (Lacks banned) (Resolved.Shows P) where
  named h := shows_named hP t.platform (hP.of_lacks _ h)
  reference := shows_reference hP hTargets
  scalar := shows_scalar hP t.platform
  inLayer layer _ := shows_inLayer hP t.platform layer

/-! ## Expressions -/

section Expressions

variable {platform : Platform} {s : String}

/-- A closure over shown texts is shown, whatever it is called with. -/
theorem shows_closure (hP : Inherited banned P) {value call body : String} (hValue : P value)
    (hCall : P call) (hBody : P body) : P (Expr.closure value call body) := by
  have hInside : P (" \x7b " ++ body ++ " \x7d") := hP.between hBody (by decide)
  simpa only [Expr.closure, String.append_assoc] using
    hP.append (hP.append hValue hCall) hInside

/-- Converting the leaves of a value shows what the template makes of a text, layer by layer. -/
theorem shows_mapLeaf (hP : Inherited banned P) {template : Template}
    (hTemplate : ∀ s, P s → P (template.fill s)) (d : Descriptor) {value : Expr}
    (hValue : P (value.text platform)) : P ((Expr.mapLeaf template value d).text platform) := by
  have hItem : P (Expr.item.text platform) := by
    cases platform <;> exact hP.literal (by decide)
  have hCall : P (Expr.ifPresentCall platform) := by
    cases platform <;> exact hP.literal (by decide)
  induction d generalizing value with
  | nullable d ih => exact shows_closure hP hValue hCall (ih hItem)
  | collection d ih => exact shows_closure hP hValue (hP.literal (by decide)) (ih hItem)
  | reference qualifiedName => exact hValue
  | primitive kind => exact hTemplate _ hValue
  | foreign literal => exact hTemplate _ hValue

/-- A conversion of a given text shows what its template shows. -/
theorem shows_convert (hP : Inherited banned P) {template : Template}
    (hTemplate : ∀ s, P s → P (template.fill s)) (d : Descriptor) (hs : P s) :
    P ((Expr.convert template d (.given s)).text platform) := by
  unfold Expr.convert
  split
  · exact hs
  · exact shows_mapLeaf hP hTemplate d hs

theorem shows_identity (hs : P s) : P (Template.identity.fill s) := by
  simpa [Template.identity, Template.fill, String.join_cons] using hs

/-- Two templates behind each other are filled with the same text. -/
theorem Template.fill_append (t t' : Template) (s : String) :
    Template.fill (t ++ t') s = t.fill s ++ t'.fill s := by
  simp [Template.fill, String.join_append]

/-- A text between two literals is shown if the literals enclose it. -/
theorem shows_around (hP : Inherited banned P) {ds es : List Char} (hs : P s)
    (h : isEnclosed (ds ++ es) = true) :
    P ((Template.around (String.ofList ds) (String.ofList es)).fill s) := by
  rw [Template.fill_around]
  exact hP.between hs h

theorem shows_parsed (hP : Inherited banned P) {typeName : String} (hType : P typeName)
    (hs : P s) : P ((parsed typeName).fill s) := by
  have hCall : P (".parse(" ++ s ++ ".toString())") := hP.between hs (by decide)
  rw [parsed, Template.fill_around]
  simpa only [String.append_assoc] using hP.append hType hCall

theorem shows_fill_toTarget (hP : Inherited banned P) (semantics : DateSemantics) (hs : P s) :
    P ((toTarget platform semantics).fill s) := by
  cases platform with
  | android => cases semantics <;> exact shows_parsed hP (hP.literal (by decide)) hs
  | ios =>
    cases semantics with
    | localDateTime => exact shows_identity hs
    | zonedDateTime =>
      rw [toTarget, Template.fill_append, ← String.ofList_append]
      exact hP.append (shows_around hP hs (by decide)) (shows_identity hs)
    | _ => exact shows_around hP hs (by decide)

theorem shows_fill_toSource (hP : Inherited banned P) (semantics : DateSemantics) (hs : P s) :
    P ((toSource platform semantics).fill s) := by
  cases platform with
  | android => exact shows_around hP hs (by decide)
  | ios =>
    cases semantics <;> first
      | exact shows_identity hs
      | exact shows_around hP hs (by decide)

/-- The conversion of a property shows the text that is converted. -/
theorem shows_convertValue (hP : Inherited banned P)
    {templates : Platform → DateSemantics → Template}
    (hTemplates : ∀ semantics s, P s → P ((templates platform semantics).fill s))
    (p : Property) (hs : P s) : P ((convertValue templates platform p s).text platform) := by
  unfold convertValue
  split
  · exact hs
  · split
    · exact hs
    · exact shows_convert hP (hTemplates _) p.type hs

theorem shows_convertElements (hP : Inherited banned P) {p : Property} {e : Expr} (hs : P s)
    (h : convertElements platform p s = some e) : P (e.text platform) := by
  simp only [convertElements, Option.bind_eq_bind, Option.bind_eq_some_iff] at h
  obtain ⟨semantics, -, element, -, hExpr⟩ := h
  split at hExpr
  · contradiction
  · cases hExpr
    exact shows_convert hP (fun s => shows_fill_toTarget hP semantics) (.collection element) hs

end Expressions

end Target

/-! ## Views -/

/-- What an adapter shows of a property has a property of texts. -/
structure PropertyView.Shows (P : String → Prop) (p : PropertyView) : Prop where
  name : P p.name
  identifier : P p.identifier
  setter : P p.setter
  typeName : P p.typeName
  seed : P p.seed
  refresh : P p.refresh
  toSource : P p.toSource
  validator : ∀ s ∈ p.afterWrite.validator?, P s
  batchNote : ∀ s ∈ p.batchNote, P s
  warning : ∀ s ∈ p.warning, P s

/-- What an adapter shows of a command has a property of texts. -/
structure CommandView.Shows (P : String → Prop) (c : CommandView) : Prop where
  name : P c.name
  identifier : P c.identifier
  canName : P c.canName
  parameter : ∀ p ∈ c.parameter, P p.1 ∧ P p.2
  warning : ∀ s ∈ c.warning, P s

/-- Everything that an adapter shows has a property of texts. -/
structure Content.Shows (P : String → Prop) (c : Content) : Prop where
  qualifiedName : P c.viewModel.qualifiedName
  originModule : P c.viewModel.originModule
  adapterName : P c.adapterName
  sourceType : P c.sourceType
  package : P c.package
  time : P c.time.headerText
  imports : ∀ i ∈ c.imports, P i
  properties : ∀ p ∈ c.properties, p.Shows P
  commands : ∀ d ∈ c.commands, d.Shows P

namespace PropertyView

/-- The current value is the property of the source, converted where it needs to be. -/
theorem shows_currentValue (hP : Inherited banned P) (platform : Platform) {p : Property}
    (hName : P p.name) (isInListener : Bool) : P (currentValue platform p isInListener) := by
  have hAccess : P (sourceAccess platform isInListener p.name) := by
    cases platform <;> cases isInListener <;> exact hP.prepend hName (by decide)
  unfold currentValue
  dsimp only
  split
  · split
    · rename_i e hElements
      exact Target.shows_convertElements hP hAccess hElements
    · cases platform with
      | android => exact hP.append hAccess (hP.literal (by decide))
      | ios => exact hP.between hAccess (by decide)
  · exact Target.shows_convertValue hP
      (fun semantics _ => Target.shows_fill_toTarget hP semantics) p hAccess

/-- A note on batches shows the size only. -/
theorem shows_batchNote (hP : Inherited banned P) {p : Property} {note : Option String}
    (h : batchNoteOf p = .ok note) : ∀ s ∈ note, P s := by
  intro s hs
  rcases batchNote_cases h hs with rfl | ⟨n, rfl⟩
  · exact hP.literal (by decide)
  · exact hP.between (hP.of_structural (lacks_numeral n)) (by decide)

/-- The view of a property shows its texts and its type. -/
theorem shows_of_of (hP : Inherited banned P) {platform : Platform} {p : Property}
    {typeName : String} {elementTypeName : Option String} {view : PropertyView}
    (hTexts : ∀ s ∈ p.texts, Lacks banned s) (hType : P typeName)
    (h : of platform p typeName elementTypeName = .ok view) : view.Shows P := by
  obtain ⟨note, hNote, rfl⟩ := map_eq_ok.1 h
  have hName : P p.name := hP.of_lacks _ (hTexts p.name (by simp [Property.texts]))
  have hDerived : ∀ s ∈ p.derivedNames, P s := fun s hs => hP.of_lacks s fun c hc hIn =>
    Property.not_mem_derivedNames (hP.isUncased hIn)
      (fun hName => hTexts p.name (by simp [Property.texts]) c hName hIn) s hs hc
  exact {
    name := hName
    identifier := hDerived _ (by simp [Property.derivedNames])
    setter := hDerived _ (by simp [Property.derivedNames, setter])
    typeName := hType
    seed := shows_currentValue hP platform hName false
    refresh := shows_currentValue hP platform hName true
    toSource := Target.shows_convertValue hP
      (fun semantics _ => Target.shows_fill_toSource hP semantics) p (hP.literal (by decide))
    validator := fun s hs => hP.of_lacks s (hTexts s (validator_mem_texts hs))
    batchNote := shows_batchNote hP hNote
    warning := fun s hs => by
      have hDeclared : p.warning = some s := shown_eq_some hs
      exact hP.of_lacks s (hTexts s (by simp [Property.texts, hDeclared])) }

end PropertyView

/-- The view of a command shows its texts and the type of its parameter. -/
theorem CommandView.shows_of (hP : Inherited banned P) {c : Command} {typeName : Option String}
    (hTexts : ∀ s ∈ c.texts, Lacks banned s) (hType : ∀ s ∈ typeName, P s) :
    (of c typeName).Shows P := by
  have hDerived : ∀ s ∈ c.derivedNames, P s := fun s hs => hP.of_lacks s fun d hd hIn =>
    Command.not_mem_derivedNames (hP.isUncased hIn)
      (fun t ht hText => hTexts t ht d hText hIn) s hs hd
  exact {
    name := hP.of_lacks _ (hTexts c.name (by simp [Command.texts]))
    identifier := hDerived _ (by simp [Command.derivedNames, of])
    canName := hDerived _ (by simp [Command.derivedNames, of, canName])
    parameter := fun q hq => by
      obtain ⟨name, hName, rfl⟩ :=
        Option.map_eq_some_iff.1 (Option.filter_eq_some_iff.1 hq).1
      exact ⟨hDerived _ (by simp [Command.derivedNames]), hType name hName⟩
    warning := fun s hs => by
      have hDeclared : c.warning = some s := shown_eq_some hs
      exact hP.of_lacks s (hTexts s (by simp [Command.texts, hDeclared])) }

/-! ## Contents -/

namespace Assembly

variable {t : Target}

/-- The part of a property shows texts of the property and of the namespaces. -/
theorem propertyPart_shows (hP : Inherited banned P)
    (hTargets : ∀ e ∈ t.namespaces, Lacks banned e.2) {p : Property} {part : PropertyPart}
    (hTexts : ∀ s ∈ p.texts, Lacks banned s) (h : propertyPart t p = .ok part) :
    part.1.Shows P ∧ part.2.1.Shows P := by
  obtain ⟨r, element, view, hType, -, hView, rfl⟩ := propertyPart_eq_ok.1 h
  have hResolved := (Target.transfers_shows hP hTargets).of_propertyType hTexts hType
  exact ⟨PropertyView.shows_of_of hP hTexts hResolved.name hView, hResolved⟩

/-- The part of a command shows texts of the command and of the namespaces. -/
theorem commandPart_shows (hP : Inherited banned P)
    (hTargets : ∀ e ∈ t.namespaces, Lacks banned e.2) {c : Command} {part : CommandPart}
    (hTexts : ∀ s ∈ c.texts, Lacks banned s) (h : commandPart t c = .ok part) :
    part.1.Shows P ∧ ∀ r ∈ part.2.1, r.Shows P := by
  obtain ⟨r, hType, rfl⟩ := commandPart_eq_ok.1 h
  have hResolved := (Target.transfers_shows hP hTargets).of_parameterType hTexts hType
  refine ⟨CommandView.shows_of hP hTexts ?_, by simpa using hResolved⟩
  simp only [Option.mem_def, Option.map_eq_some_iff]
  rintro _ ⟨resolved, hIn, rfl⟩
  exact (hResolved resolved hIn).name

/-- Imports that are there for the members are texts of the platform. -/
theorem shows_structuralImports (hP : Inherited banned P) (platform : Platform)
    (ps : List PropertyView) (cs : List CommandView) :
    ∀ i ∈ structuralImports platform ps cs, P i := by
  have hFlow : ∀ i ∈ flowImports, P i := by
    simp only [flowImports, List.forall_mem_cons]
    refine ⟨hP.literal ?_, hP.literal ?_, hP.literal ?_, by simp⟩ <;> decide
  have hWriteBack : ∀ i ∈ writeBackImports, P i := by
    simp only [writeBackImports, List.forall_mem_cons]
    refine ⟨hP.literal ?_, hP.literal ?_, hP.literal ?_, by simp⟩ <;> decide
  intro i hi
  cases platform with
  | ios =>
    rw [List.mem_singleton.1 hi]
    exact hP.literal (by decide)
  | android =>
    rcases mem_kotlinImports.1 hi with h | ⟨-, h⟩ | ⟨-, h⟩ | ⟨-, rfl⟩ | ⟨-, rfl⟩ | ⟨-, rfl⟩
    · rcases List.mem_pair.1 h with rfl | rfl <;> exact hP.literal (by decide)
    · exact hFlow i h
    · exact hWriteBack i h
    · exact hP.literal (by decide)
    · exact hP.literal (by decide)
    · exact hP.literal (by decide)

/-- All that is shown has a property if the texts of the input lack the structural characters
that it is about. -/
theorem shows_of_make (hP : Inherited banned P) {package : String} {time : Calendar.UtcSecond}
    {v : ViewModel} {a : Assembly} (hPackage : Lacks banned package)
    (hTargets : ∀ e ∈ t.namespaces, Lacks banned e.2) (hTexts : ∀ s ∈ v.texts, Lacks banned s)
    (h : make t package time v = .ok a) : a.content.Shows P := by
  obtain ⟨properties, commands, hProperties, hCommands, rfl⟩ := make_eq_ok.1 h
  simp only [ViewModel.texts, List.forall_mem_append, List.forall_mem_cons,
    List.forall_mem_flatMap] at hTexts
  obtain ⟨⟨⟨hName, hQualified, hModule, -⟩, hPropertyTexts⟩, hCommandTexts⟩ := hTexts
  have hSource := Target.shows_reference hP hTargets hQualified
  have hPropertyParts : ∀ part ∈ properties, part.1.Shows P ∧ part.2.1.Shows P := by
    intro part hPart
    obtain ⟨p, hp, hOk⟩ := exists_of_mem_mapM hProperties hPart
    exact propertyPart_shows hP hTargets
      (hPropertyTexts p (ViewModel.mem_propertiesFor.1 hp).1) hOk
  have hCommandParts : ∀ part ∈ commands, part.1.Shows P ∧ ∀ r ∈ part.2.1, r.Shows P := by
    intro part hPart
    obtain ⟨c, hc, hOk⟩ := exists_of_mem_mapM hCommands hPart
    exact commandPart_shows hP hTargets
      (hCommandTexts c (ViewModel.mem_commandsFor.1 hc).1) hOk
  exact {
    qualifiedName := hP.of_lacks _ hQualified
    originModule := hP.of_lacks _ hModule
    adapterName := hP.of_lacks _ (lacks_adapterNameOf hP.structural hName)
    sourceType := hSource.name
    package := hP.of_lacks _ hPackage
    time := hP.of_structural (lacks_headerText time)
    imports := fun i hi => by
      have hDispatch : P (Target.dispatchImport t.platform) := by
        cases t.platform <;> exact hP.literal (by decide)
      rcases mem_imports_ofParts.1 hi with ⟨part, hPart, hIn⟩ | ⟨part, hPart, r, hr, hIn⟩ |
        hIn | ⟨-, rfl⟩ | hIn
      · exact (hPropertyParts part hPart).2.imports i hIn
      · exact ((hCommandParts part hPart).2 r hr).imports i hIn
      · exact hSource.imports i hIn
      · exact hDispatch
      · exact shows_structuralImports hP _ _ _ i hIn
    properties := List.forall_mem_map.2 fun part hPart => (hPropertyParts part hPart).1
    commands := List.forall_mem_map.2 fun part hPart => (hCommandParts part hPart).1 }

end Assembly

/-- An adapter shows the texts of its backend and its view-model. -/
theorem Backend.shows_of_make (hP : Inherited banned P) {b : Backend} {v : ViewModel}
    {a : Assembly} (hTexts : ∀ s ∈ b.texts ++ v.texts, Lacks banned s)
    (h : Assembly.make b.target b.package b.time v = .ok a) : a.content.Shows P := by
  simp only [List.forall_mem_append, Backend.texts, List.forall_mem_cons,
    List.forall_mem_flatMap] at hTexts
  obtain ⟨⟨hPackage, hNamespaces⟩, hOwn⟩ := hTexts
  exact Assembly.shows_of_make hP hPackage (fun e he => (hNamespaces e he).2.1) hOwn h

end ViewAdapters
