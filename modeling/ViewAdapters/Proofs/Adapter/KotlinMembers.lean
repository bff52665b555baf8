import ViewAdapters.Proofs.Adapter.InputTexts
import ViewAdapters.Proofs.Adapter.KotlinLines
import ViewAdapters.Proofs.Adapter.KotlinTypes

/-!
# Members in Kotlin adapters

What a Kotlin adapter shows of a view-model is made from the texts of the input and from names
that are derived from them. If these fit, all that is shown fits.

* `Assembly.shows_of_propertyPart`, `Assembly.shows_of_commandPart`: the views of members.
* `Assembly.fitting_ofParts`: the content of an adapter.
-/

namespace ViewAdapters

section Views

variable {known : String → Prop}

/-! ## Texts of digits -/

/-- Whether a text stays within its line and has no small letter. -/
def hasNoSmallLetter (s : String) : Bool := s.toList.all fun c => !c.isLower && c != '\n'

theorem hasNoSmallLetter_append (s t : String) :
    hasNoSmallLetter (s ++ t) = (hasNoSmallLetter s && hasNoSmallLetter t) := by
  rw [hasNoSmallLetter, String.toList_append, List.all_append]
  rfl

/-- Every imported name has a small letter. -/
theorem Fits.of_hasNoSmallLetter (hPlain : Admits known []) {s : String}
    (h : hasNoSmallLetter s = true) : Fits known s := by
  have hChar : ∀ c ∈ s.toList, c.isLower = false ∧ c ≠ '\n' := by
    simpa [hasNoSmallLetter, List.all_eq_true] using h
  have hNames : ∀ n ∈ importedNames, n.1.toList.any Char.isLower = true := by decide
  refine ⟨fun hIn => (hChar _ hIn).2 rfl, fun w hw => hPlain.known_of_ne fun n hn hSame => ?_⟩
  obtain ⟨c, hc, hLower⟩ := List.any_eq_true.1 (hNames n hn)
  have hNot := (hChar c (Target.mem_of_mem_words hw (hSame ▸ hc))).1
  rw [hLower] at hNot
  contradiction

theorem hasNoSmallLetter_digits {s : String} (h : IsDigits s) : hasNoSmallLetter s = true := by
  rw [hasNoSmallLetter, List.all_eq_true]
  intro c hc
  have hDigit := h c hc
  have hNine : c.val ≤ 57 := by
    simp only [Char.isDigit, Bool.and_eq_true, decide_eq_true_eq] at hDigit
    exact hDigit.2
  have hLower : c.isLower = false := by
    refine Bool.and_eq_false_iff.2 (.inl (decide_eq_false fun hLetter => ?_))
    exact absurd (UInt32.le_trans hLetter hNine) (by decide)
  have hFeed : c ≠ '\n' := by
    rintro rfl
    revert hDigit
    decide
  simp [hLower, hFeed]

theorem fits_headerText (hPlain : Admits known []) (t : Calendar.UtcSecond) :
    Fits known t.headerText := by
  have hYear : hasNoSmallLetter t.date.year.repr = true :=
    Nat.repr_eq_ofList_toDigits ▸ hasNoSmallLetter_digits (isDigits_toDigits t.date.year)
  have hMarks : ∀ mark ∈ ["-", "T", ":", "Z"], hasNoSmallLetter mark = true := by decide
  refine .of_hasNoSmallLetter hPlain ?_
  simp only [List.forall_mem_cons] at hMarks
  simp [Calendar.UtcSecond.headerText, Calendar.UtcSecond.clockText, hasNoSmallLetter_append,
    hasNoSmallLetter_digits (isDigits_padded _ _), hYear, hMarks]

theorem fits_numeral (hPlain : Admits known []) (n : Int) : Fits known (Text.numeral n) := by
  refine .of_hasNoSmallLetter hPlain ?_
  have hDigits := hasNoSmallLetter_digits (isDigits_toDigits n.natAbs)
  unfold Text.numeral
  split
  · rw [hasNoSmallLetter, String.toList_ofList] at hDigits ⊢
    rw [List.all_cons, hDigits]
    rfl
  · exact hDigits

/-! ## Properties -/

/-- What is put into the lines of a property fits, and its type is shown by its name. -/
structure Assembly.ShowsProperty (known : String → Prop) (part : PropertyPart) : Prop where
  fitting : part.1.Fitting known
  displays : part.2.1.Displays known
  typeName : part.1.typeName = part.2.1.name

theorem PropertyView.fits_currentValue (hPlain : Admits known []) {p : Property}
    (hName : Fits known p.name) (isInListener : Bool) :
    Fits known (currentValue .android p isInListener) := by
  have hAccess : Fits known (sourceAccess .android isInListener p.name) :=
    hPlain.before hName (by decide)
  unfold currentValue
  dsimp only
  split
  · split
    · rename_i e hElements
      exact Target.fits_convertElements hPlain hAccess hElements
    · exact hPlain.behind hAccess (by decide)
  · exact Target.fits_convertValue hPlain
      (fun semantics _ => Target.fits_fill_toTarget hPlain semantics) p hAccess

theorem PropertyView.fits_batchNote (hPlain : Admits known []) {p : Property}
    {note : Option String} (h : batchNoteOf p = .ok note) : ∀ s ∈ note, Fits known s := by
  intro s hs
  rcases batchNote_cases h hs with rfl | ⟨n, rfl⟩
  · exact hPlain.fits (by decide)
  · exact hPlain.behind (hPlain.before (fits_numeral hPlain n) (by decide)) (by decide)

theorem Assembly.shows_of_propertyPart (hPlain : Admits known []) {namespaces : NamespaceTable}
    (hTargets : ∀ e ∈ namespaces, Fits known e.2) {p : Property} {part : PropertyPart}
    (hTexts : ∀ s ∈ p.texts, Fits known s) (hNames : ∀ s ∈ p.derivedNames, Fits known s)
    (h : propertyPart ⟨.android, namespaces⟩ p = .ok part) : ShowsProperty known part := by
  obtain ⟨r, element, view, hType, -, hView, rfl⟩ := propertyPart_eq_ok.1 h
  obtain ⟨note, hNote, rfl⟩ := map_eq_ok.1 hView
  have hDisplays := (Target.transfers_displays hPlain hTargets).of_propertyType hTexts hType
  have hName : Fits known p.name := hTexts p.name (by simp [Property.texts])
  have hNewValue : Fits known PropertyView.newValueName := hPlain.fits (by decide)
  refine ⟨?_, hDisplays, rfl⟩
  exact {
    name := hName
    identifier := hNames _ (by simp [Property.derivedNames])
    setter := hNames _ (by simp [Property.derivedNames, PropertyView.setter])
    typeName := hDisplays.fits
    seed := PropertyView.fits_currentValue hPlain hName false
    refresh := PropertyView.fits_currentValue hPlain hName true
    toSource := Target.fits_convertValue hPlain
      (fun semantics _ => Target.fits_fill_toSource hPlain semantics) p hNewValue
    validator := fun s hs => hTexts s (PropertyView.validator_mem_texts hs)
    batchNote := PropertyView.fits_batchNote hPlain hNote
    warning := fun s hs => by
      have hDeclared : p.warning = some s := shown_eq_some hs
      exact hTexts s (by simp [Property.texts, hDeclared]) }

/-! ## Commands -/

/-- What is put into the lines of a command fits, and the type of its parameter is shown by its
name. -/
structure Assembly.ShowsCommand (known : String → Prop) (part : CommandPart) : Prop where
  fitting : part.1.Fitting known
  displays : ∀ r ∈ part.2.1, r.Displays known
  parameter : part.1.declaredParameter.map (·.2) = part.2.1.map (·.name)
  dispatch : part.1.dispatch ≠ .inline ↔ part.1.isAsync = true ∨ part.1.isMainSync = true

/-- A command is dispatched exactly if it is asynchronous or sent to the main thread. -/
theorem CommandView.dispatch_ne_inline_iff (c : Command) (typeName : Option String) :
    (of c typeName).dispatch ≠ .inline ↔
      (of c typeName).isAsync = true ∨ (of c typeName).isMainSync = true := by
  simp only [isMainSync, of, Command.dispatch]
  cases c.requiresMain <;> cases c.isAsync <;> decide

theorem Assembly.shows_of_commandPart (hPlain : Admits known []) {namespaces : NamespaceTable}
    (hTargets : ∀ e ∈ namespaces, Fits known e.2) {c : Command} {part : CommandPart}
    (hTexts : ∀ s ∈ c.texts, Fits known s) (hNames : ∀ s ∈ c.derivedNames, Fits known s)
    (h : commandPart ⟨.android, namespaces⟩ c = .ok part) : ShowsCommand known part := by
  obtain ⟨r, hType, rfl⟩ := commandPart_eq_ok.1 h
  have hDisplays : ∀ resolved ∈ r, resolved.1.Displays known :=
    (Target.transfers_displays hPlain hTargets).of_parameterType hTexts hType
  have hName : Fits known (CommandView.parameterName c.parameter) :=
    hNames _ (by simp [Command.derivedNames])
  refine ⟨?_, by simpa using hDisplays, by cases r <;> rfl,
    CommandView.dispatch_ne_inline_iff c _⟩
  exact {
    name := hTexts c.name (by simp [Command.texts])
    identifier := hNames _ (by simp [Command.derivedNames, CommandView.of])
    canName := hNames _ (by simp [Command.derivedNames, CommandView.of, CommandView.canName])
    parameter := fun q hq => by
      obtain ⟨typeName, hTypeName, rfl⟩ :=
        Option.map_eq_some_iff.1 (Option.filter_eq_some_iff.1 hq).1
      obtain ⟨resolved, hResolved, rfl⟩ := Option.map_eq_some_iff.1 hTypeName
      exact ⟨hName, (hDisplays resolved hResolved).fits⟩
    warning := fun s hs => by
      have hDeclared : c.warning = some s := shown_eq_some hs
      exact hTexts s (by simp [Command.texts, hDeclared]) }

/-! ## Contents -/

/-- The words of a text with another ending are its own, or have the ending that no imported
name has. -/
theorem fits_adapterName (hPlain : Admits known []) {name : String} (h : Fits known name) :
    Fits known (ViewModel.adapterNameOf name) := by
  obtain ⟨stem, rest, hName, hAdapter⟩ : ∃ stem rest : String, name = stem ++ rest ∧
      ViewModel.adapterNameOf name = stem ++ "Adapter" := by
    unfold ViewModel.adapterNameOf
    cases hStem : Text.stem? ViewModel.nameEnding name.toList with
    | none => exact ⟨name, "", by simp, by simp⟩
    | some stem =>
      refine ⟨String.ofList stem, String.ofList ViewModel.nameEnding, ?_, rfl⟩
      rw [← String.ofList_append, ← (Text.stem?_eq_some_iff.1 hStem).1, String.ofList_toList]
  have hFeed := h.noLineFeed
  rw [hName, String.toList_append, List.mem_append, not_or] at hFeed
  rw [hAdapter]
  refine ⟨?_, fun w hw => ?_⟩
  · rw [String.toList_append, List.mem_append, not_or]
    exact ⟨hFeed.1, by decide⟩
  · have hEnding : "Adapter".toList = 'A' :: "dapter".toList := by decide
    rcases Target.mem_words_of_ending hEnding (by decide) (by decide) hw with hEnds | hAny
    · have hNames : ∀ n ∈ importedNames, "Adapter".toList.isSuffixOf n.1.toList = false := by
        decide
      refine hPlain.known_of_ne fun n hn hSame => ?_
      rw [← hSame, ← List.isSuffixOf_iff_suffix, hNames n hn] at hEnds
      contradiction
    · exact h.known_of_mem w (hName ▸ hAny rest)

/-- The texts of a view-model and of what its adapter is set up with fit, and so do the names
that are derived from them. -/
structure FittingInput (known : String → Prop) (namespaces : NamespaceTable) (package : String)
    (v : ViewModel) : Prop where
  texts : ∀ s ∈ v.texts, Fits known s
  names : ∀ s ∈ v.derivedNames, Fits known s
  targets : ∀ e ∈ namespaces, Fits known e.2
  package : Fits known package

namespace Assembly

variable {namespaces : NamespaceTable} {package : String} {time : Calendar.UtcSecond}
  {v : ViewModel} {properties : List PropertyPart} {commands : List CommandPart}

theorem shows_of_mapM_propertyPart (hPlain : Admits known [])
    (h : FittingInput known namespaces package v)
    (hParts : (v.propertiesFor .android).mapM (propertyPart ⟨.android, namespaces⟩) =
      .ok properties) :
    ∀ part ∈ properties, ShowsProperty known part := by
  intro part hPart
  obtain ⟨p, hp, hOk⟩ := exists_of_mem_mapM hParts hPart
  have hIn : p ∈ v.properties := (ViewModel.mem_propertiesFor.1 hp).1
  have hTexts := h.texts
  have hNames := h.names
  simp only [ViewModel.texts, List.forall_mem_append, List.forall_mem_flatMap] at hTexts
  simp only [ViewModel.derivedNames, List.forall_mem_append, List.forall_mem_flatMap] at hNames
  exact shows_of_propertyPart hPlain h.targets (hTexts.1.2 p hIn) (hNames.1 p hIn) hOk

theorem shows_of_mapM_commandPart (hPlain : Admits known [])
    (h : FittingInput known namespaces package v)
    (hParts : (v.commandsFor .android).mapM (commandPart ⟨.android, namespaces⟩) =
      .ok commands) :
    ∀ part ∈ commands, ShowsCommand known part := by
  intro part hPart
  obtain ⟨c, hc, hOk⟩ := exists_of_mem_mapM hParts hPart
  have hIn : c ∈ v.commands := (ViewModel.mem_commandsFor.1 hc).1
  have hTexts := h.texts
  have hNames := h.names
  simp only [ViewModel.texts, List.forall_mem_append, List.forall_mem_flatMap] at hTexts
  simp only [ViewModel.derivedNames, List.forall_mem_append, List.forall_mem_flatMap] at hNames
  exact shows_of_commandPart hPlain h.targets (hTexts.2 c hIn) (hNames.2 c hIn) hOk

theorem fitting_ofParts {content : Content} (hPlain : Admits known [])
    (h : FittingInput known namespaces package v)
    (hContent : content =
      (ofParts ⟨.android, namespaces⟩ package time v properties commands).content)
    (hProperties : ∀ part ∈ properties, ShowsProperty known part)
    (hCommands : ∀ part ∈ commands, ShowsCommand known part) : content.Fitting known := by
  have hTexts := h.texts
  simp only [ViewModel.texts, List.forall_mem_append, List.forall_mem_cons] at hTexts
  obtain ⟨⟨⟨hName, hQualified, hModule, -⟩, -⟩, -⟩ := hTexts
  subst hContent
  exact {
    qualifiedName := hQualified
    originModule := hModule
    adapterName := fits_adapterName hPlain hName
    sourceType := Target.fits_reference hPlain h.targets hQualified
    package := h.package
    time := fits_headerText hPlain time
    properties := List.forall_mem_map.2 fun part hPart => (hProperties part hPart).fitting
    commands := List.forall_mem_map.2 fun part hPart => (hCommands part hPart).fitting }

end Assembly

end Views
end ViewAdapters
