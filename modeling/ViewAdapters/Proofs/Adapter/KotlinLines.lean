import ViewAdapters.Proofs.Adapter.FittingLines
import ViewAdapters.Proofs.Adapter.Imports
import ViewAdapters.Proofs.Adapter.TextLines

/-!
# Lines of Kotlin adapters

Which names the lines of a Kotlin adapter take from imports, part by part: none but those that
the literals of the part take, as long as what is shown of the members fits.

* `Kotlin.fitsLines_property`, `Kotlin.fitsLines_writeBack`, `Kotlin.fitsLines_command`: the
  parts whose literals take names from imports.
* `Kotlin.fitsLines_before`, `Kotlin.fitsLines_after`: all lines in front of the imports and all
  lines behind them.
-/

namespace ViewAdapters

/-! ## Fitting content -/

/-- What an adapter shows of a property fits. -/
structure PropertyView.Fitting (known : String → Prop) (p : PropertyView) : Prop where
  name : Fits known p.name
  identifier : Fits known p.identifier
  setter : Fits known p.setter
  typeName : Fits known p.typeName
  seed : Fits known p.seed
  refresh : Fits known p.refresh
  toSource : Fits known p.toSource
  validator : ∀ s ∈ p.afterWrite.validator?, Fits known s
  batchNote : ∀ s ∈ p.batchNote, Fits known s
  warning : ∀ s ∈ p.warning, Fits known s

/-- What an adapter shows of a command fits. -/
structure CommandView.Fitting (known : String → Prop) (c : CommandView) : Prop where
  name : Fits known c.name
  identifier : Fits known c.identifier
  canName : Fits known c.canName
  parameter : ∀ p ∈ c.parameter, Fits known p.1 ∧ Fits known p.2
  warning : ∀ s ∈ c.warning, Fits known s

/-- Everything that an adapter shows fits. -/
structure Content.Fitting (known : String → Prop) (c : Content) : Prop where
  qualifiedName : Fits known c.viewModel.qualifiedName
  originModule : Fits known c.viewModel.originModule
  adapterName : Fits known c.adapterName
  sourceType : Fits known c.sourceType
  package : Fits known c.package
  time : Fits known c.time.headerText
  properties : ∀ p ∈ c.properties, p.Fitting known
  commands : ∀ d ∈ c.commands, d.Fitting known

section Parts

variable {known : String → Prop} {p : PropertyView} {c : CommandView}

/-! ## Headers -/

theorem Fits.intercalate (hPlain : Admits known []) {members : List String}
    (h : ∀ s ∈ members, Fits known s) : Fits known (", ".intercalate members) :=
  Text.intercalate_induction .empty (fun hs ht => hPlain.join hs ht (by decide)) h

namespace Header

/-- A note in the header fits by its text and the members that it names. -/
theorem fitsLines_note (hPlain : Admits known []) {text : String} {members : List String}
    (hText : Fits known text) (h : ∀ s ∈ members, Fits known s) :
    ∀ line ∈ note text members, FitsLine known line := by
  unfold note
  split
  · simp
  · rw [List.forall_mem_singleton]
    refine ((hPlain.head ?_).next hText ?_).append (.intercalate hPlain h) <;> decide

/-- A header fits by the names in it. -/
theorem fitsLines_lines (hPlain : Admits known []) {c : Content} (h : c.Fitting known) :
    ∀ line ∈ lines c, FitsLine known line := by
  have hCustom : ∀ s ∈ c.customMembers, Fits known s := by
    simp only [Content.customMembers, List.mem_map, List.mem_filter]
    rintro _ ⟨p, ⟨hp, -⟩, rfl⟩
    exact (h.properties p hp).name
  have hWarned : ∀ s ∈ c.warnedMembers, Fits known s := by
    simp only [Content.warnedMembers, List.mem_append, List.mem_map, List.mem_filter]
    rintro _ (⟨p, ⟨hp, -⟩, rfl⟩ | ⟨d, ⟨hd, -⟩, rfl⟩)
    · exact (h.properties p hp).name
    · exact (h.commands d hd).name
  have hDisclaimer : Fits known disclaimer := hPlain.fits (by decide)
  simp only [lines, List.forall_mem_append, List.forall_mem_cons]
  refine ⟨⟨⟨⟨hPlain.line ?_, (hPlain.head ?_).append hDisclaimer,
        (hPlain.head ?_).append h.qualifiedName, (hPlain.head ?_).append h.originModule,
        (hPlain.head ?_).append h.time, by simp⟩,
      fitsLines_note hPlain (hPlain.fits ?_) hCustom⟩,
    fitsLines_note hPlain (hPlain.fits ?_) hWarned⟩,
    hPlain.line ?_, hPlain.line ?_, by simp⟩ <;> decide

end Header

/-! ## Properties -/

namespace Kotlin

/-- The name of a container is an underscore and the identifier. -/
theorem fits_backing (hPlain : Admits known []) (h : Fits known p.identifier) :
    Fits known (backing p) where
  noLineFeed := by
    rw [backing, String.toList_append, List.mem_append, not_or]
    exact ⟨by decide, h.noLineFeed⟩
  known_of_mem w hw := by
    rcases Target.mem_words_of_mark hw with hMark | hIn
    · have hNames : ∀ n ∈ importedNames, n.1.toList.head? ≠ some '_' := by decide
      exact hPlain.known_of_ne fun n hn hSame => hNames n hn (hSame ▸ hMark)
    · exact h.known_of_mem w hIn

theorem fits_refreshText (hPlain : Admits known []) (h : p.Fitting known) :
    Fits known (refreshText p) :=
  hPlain.join (fits_backing hPlain h.identifier) h.refresh (by decide)

/-- Notes of members are comments of one line each. -/
theorem fitsLines_notes (hPlain : Admits known []) {warning batchNote : Option String}
    (hWarning : ∀ s ∈ warning, Fits known s) (hNote : ∀ s ∈ batchNote, Fits known s) :
    ∀ line ∈ notes warning batchNote, FitsLine known line := by
  simp only [notes, List.forall_mem_append, Option.mem_toList, Option.map_eq_some_iff]
  constructor
  · rintro _ ⟨s, hs, rfl⟩
    exact (hPlain.head (by decide)).append (hWarning s hs)
  · rintro _ ⟨s, hs, rfl⟩
    exact (hPlain.head (by decide)).append (hNote s hs)

theorem fitsLines_setter (hPlain : Admits known []) (h : p.Fitting known) :
    ∀ line ∈ setterLines p, FitsLine known line := by
  simp only [setterLines, List.forall_mem_cons]
  refine ⟨.blank, ((hPlain.head ?_).next h.setter ?_).close h.typeName ?_,
    (hPlain.head ?_).close (fits_backing hPlain h.identifier) ?_, hPlain.line ?_,
    by simp⟩ <;> decide

/-- The names from imports that the lines of a property take. -/
def flowNames : List String := ["MutableStateFlow", "StateFlow", "asStateFlow"]

/-- The lines of a property use the names of flows. -/
theorem fitsLines_property (hFlow : Admits known flowNames) (h : p.Fitting known) :
    ∀ line ∈ propertyLines p, FitsLine known line := by
  have hBacking := fits_backing hFlow.plain h.identifier
  simp only [propertyLines, List.forall_mem_append, List.forall_mem_cons]
  have hSetter : ∀ line ∈ (if p.isTwoWay then setterLines p else []), FitsLine known line := by
    split
    · exact fitsLines_setter hFlow.plain h
    · simp
  refine ⟨⟨⟨⟨.blank, by simp⟩, fitsLines_notes hFlow.plain h.warning h.batchNote⟩,
    (((hFlow.head ?_).next hBacking ?_).next h.typeName ?_).close h.seed ?_,
    (((hFlow.head ?_).next h.identifier ?_).next h.typeName ?_).close hBacking ?_, by simp⟩,
    hSetter⟩ <;> decide

theorem fitsLine_changedCase (hPlain : Admits known []) (h : p.Fitting known) :
    FitsLine known (changedCase p) := by
  refine ((hPlain.head ?_).next h.name ?_).close (fits_refreshText hPlain h) ?_ <;> decide

theorem fitsLines_collectionListener (hPlain : Admits known []) (h : p.Fitting known) :
    ∀ line ∈ collectionListener p, FitsLine known line := by
  simp only [collectionListener, List.forall_mem_cons]
  refine ⟨(hPlain.head ?_).close h.name ?_, (hPlain.head ?_).append (fits_refreshText hPlain h),
    hPlain.line ?_, by simp⟩ <;> decide

/-- The names from imports that the lines take which write a property back. -/
def writeBackNames : List String := ["drop", "onEach", "launchIn", "viewModelScope"]

/-- What is done behind a write calls a validator or nothing. -/
theorem fitsLines_afterWrite (hPlain : Admits known []) (h : p.Fitting known) :
    ∀ line ∈ afterWriteLines p.afterWrite, FitsLine known line := by
  cases hAfter : p.afterWrite with
  | nothing => simp [afterWriteLines]
  | call validator =>
    have hValidator : Fits known validator := h.validator validator (by rw [hAfter]; rfl)
    exact List.forall_mem_singleton.2 ((hPlain.head (by decide)).close hValidator (by decide))
  | bySource =>
    have hNote : Fits known AfterWrite.noteText := hPlain.fits (by decide)
    exact List.forall_mem_singleton.2 ((hPlain.head (by decide)).append hNote)

/-- The lines of a write-back use the names of running in a scope. -/
theorem fitsLines_writeBack (hNames : Admits known writeBackNames) (h : p.Fitting known) :
    ∀ line ∈ writeBackLines p, FitsLine known line := by
  simp only [writeBackLines, List.forall_mem_append, List.forall_mem_cons]
  refine ⟨⟨⟨(hNames.head ?_).append h.identifier, hNames.line ?_, hNames.line ?_,
      ((hNames.head ?_).next h.name ?_).append h.toSource, by simp⟩,
    fitsLines_afterWrite hNames.plain h⟩, hNames.line ?_, hNames.line ?_, by simp⟩ <;> decide

/-! ## Commands -/

theorem fits_parameterText (hPlain : Admits known []) (h : c.Fitting known) :
    Fits known (parameterText c) := by
  unfold parameterText
  cases hParameter : c.parameter with
  | none => exact .empty
  | some q =>
    have hBoth := h.parameter q hParameter
    exact hPlain.join hBoth.1 hBoth.2 (by decide)

theorem fits_argument (h : c.Fitting known) : Fits known c.argument := by
  unfold CommandView.argument
  cases hParameter : c.parameter with
  | none => exact .empty
  | some q => exact (h.parameter q hParameter).1

theorem fits_callText (hPlain : Admits known []) (h : c.Fitting known) :
    Fits known (callText c) := by
  refine hPlain.behind (hPlain.join (hPlain.before h.name ?_) (fits_argument h) ?_) ?_ <;>
    decide

theorem fitsLines_canExecute (hPlain : Admits known []) (h : c.Fitting known) :
    ∀ line ∈ canExecuteLines c, FitsLine known line := by
  simp only [canExecuteLines, List.forall_mem_cons]
  refine ⟨.blank, (hPlain.head ?_).close h.canName ?_, (hPlain.head ?_).close h.name ?_,
    by simp⟩ <;> decide

/-- The names from imports that the lines of an asynchronous command take. -/
def asyncNames : List String := ["withContext", "Dispatchers"]

/-- An asynchronous wrapper uses the names of contexts. -/
theorem fitsLines_async (hNames : Admits known asyncNames) (h : c.Fitting known) :
    ∀ line ∈ asyncLines c, FitsLine known line := by
  have hThread : Fits known
      (if c.dispatch = .main then "Dispatchers.Main" else "Dispatchers.IO") := by
    split <;> exact hNames.fits (by decide)
  simp only [asyncLines, List.forall_mem_cons]
  refine ⟨((hNames.head ?_).next h.identifier ?_).close (fits_parameterText hNames.plain h) ?_,
    (hNames.head ?_).close hThread ?_, hNames.line ?_,
    ((hNames.head ?_).next h.name ?_).close (fits_argument h) ?_, hNames.line ?_,
    hNames.line ?_, hNames.line ?_, hNames.line ?_, hNames.line ?_, by simp⟩ <;> decide

/-- The names from imports that a synchronous command on the main thread takes. -/
def mainNames : List String := ["viewModelScope", "launch", "Dispatchers"]

/-- A parameter is followed by a comma, so a break stands in front of the last literal. -/
theorem fitsLine_mainHead (hPlain : Admits known []) (h : c.Fitting known) :
    FitsLine known ("    fun " ++ c.identifier ++ "(" ++
      (if c.parameter.isSome then parameterText c ++ ", " else "") ++
      "onResult: (Result<Unit>) -> Unit = \x7b\x7d) \x7b") := by
  split
  · have hComma : Head known []
        ("    fun " ++ c.identifier ++ "(" ++ parameterText c ++ ", ") := by
      refine ((hPlain.head ?_).next h.identifier ?_).next (fits_parameterText hPlain h) ?_ <;>
        decide
    rw [String.append_assoc] at hComma
    exact hComma.append (hPlain.fits (by decide))
  · rw [String.append_empty]
    refine ((hPlain.head ?_).next h.identifier ?_).append (hPlain.fits ?_) <;> decide

/-- A wrapper for the main thread uses the names of blocking calls. -/
theorem fitsLines_main (hNames : Admits known mainNames) (h : c.Fitting known) :
    ∀ line ∈ mainLines c, FitsLine known line := by
  simp only [mainLines, List.forall_mem_cons]
  refine ⟨fitsLine_mainHead hNames.plain h, hNames.line ?_,
    (hNames.head ?_).close (fits_callText hNames.plain h) ?_, hNames.line ?_, hNames.line ?_,
    by simp⟩ <;> decide

theorem fitsLines_inline (hPlain : Admits known []) (h : c.Fitting known) :
    ∀ line ∈ inlineLines c, FitsLine known line := by
  simp only [inlineLines, List.forall_mem_cons]
  refine ⟨((hPlain.head ?_).next h.identifier ?_).close (fits_parameterText hPlain h) ?_,
    (hPlain.head ?_).append (fits_callText hPlain h), by simp⟩ <;> decide

/-- A wrapper uses the names of its own kind only. -/
theorem fitsLines_command (hPlain : Admits known [])
    (hAsync : c.isAsync = true → Admits known asyncNames)
    (hMain : c.isMainSync = true → Admits known mainNames) (h : c.Fitting known) :
    ∀ line ∈ commandLines c, FitsLine known line := by
  simp only [commandLines, List.forall_mem_append, List.forall_mem_singleton]
  refine ⟨⟨.blank, fitsLines_notes hPlain h.warning (by simp)⟩, ?_⟩
  split
  · rename_i hIs
    exact fitsLines_async (hAsync hIs) h
  · rename_i hSync
    split
    · rename_i hDispatch
      exact fitsLines_main (hMain (by simp [CommandView.isMainSync, hSync, hDispatch])) h
    · exact fitsLines_inline hPlain h

end Kotlin
end Parts

/-! ## All lines -/

/-- The words are known that the parts of the content take from imports. -/
structure Content.Admitting (known : String → Prop) (c : Content) : Prop where
  plain : Admits known []
  flow : c.properties ≠ [] → Admits known Kotlin.flowNames
  writeBack : ∀ p ∈ c.properties, p.isTwoWay = true → Admits known Kotlin.writeBackNames
  async : ∀ d ∈ c.commands, d.isAsync = true → Admits known Kotlin.asyncNames
  main : ∀ d ∈ c.commands, d.isMainSync = true → Admits known Kotlin.mainNames

namespace Kotlin

/-- The lines in front of the imports. -/
def linesBefore (c : Content) : List String := Header.lines c ++ ["package " ++ c.package, ""]

/-- The head of the class. -/
def classLines (c : Content) : List String :=
  ["",
    "class " ++ c.adapterName ++ " @Inject constructor(",
    "    private val source: " ++ c.sourceType,
    ") : ViewModel() \x7b"]

/-- The lines behind the imports. -/
def linesAfter (c : Content) : List String :=
  classLines c ++
  c.properties.flatMap propertyLines ++
  (c.commands.filter (·.exposesCanExecute)).flatMap canExecuteLines ++
  (if c.properties.isEmpty then [] else initLines c) ++
  c.commands.flatMap commandLines ++
  closingLines

/-- The imports of an adapter stand in one block between its package and its class. -/
theorem lines_eq_append {c : Content} (hAndroid : c.platform = .android) :
    c.lines = linesBefore c ++ c.imports.items.map ("import " ++ ·) ++ linesAfter c := by
  simp [Content.lines, UserTemplate.bodyLines, hAndroid, lines, openingLines, linesBefore,
    linesAfter, classLines]

variable {known : String → Prop} {c : Content}

theorem fitsLines_before (hPlain : Admits known []) (h : c.Fitting known) :
    ∀ line ∈ linesBefore c, FitsLine known line := by
  simp only [linesBefore, List.forall_mem_append, List.forall_mem_cons]
  exact ⟨Header.fitsLines_lines hPlain h, (hPlain.head (by decide)).append h.package, .blank,
    by simp⟩

theorem fitsLines_class (hPlain : Admits known []) (h : c.Fitting known) :
    ∀ line ∈ classLines c, FitsLine known line := by
  simp only [classLines, List.forall_mem_cons]
  refine ⟨.blank, (hPlain.head ?_).close h.adapterName ?_, (hPlain.head ?_).append h.sourceType,
    hPlain.line ?_, by simp⟩ <;> decide

/-- The initializer uses the names of scopes where a property is written back. -/
theorem fitsLines_init (hNames : c.Admitting known) (h : c.Fitting known) :
    ∀ line ∈ initLines c, FitsLine known line := by
  have hPlain := hNames.plain
  have hCases : ∀ line ∈ c.properties.map changedCase, FitsLine known line :=
    List.forall_mem_map.2 fun p hp => fitsLine_changedCase hPlain (h.properties p hp)
  have hListeners : ∀ line ∈ c.collections.flatMap collectionListener, FitsLine known line := by
    refine List.forall_mem_flatMap.2 fun p hp => ?_
    exact fitsLines_collectionListener hPlain (h.properties p (List.mem_of_mem_filter hp))
  have hWriteBack : ∀ line ∈ c.twoWayProperties.flatMap writeBackLines,
      FitsLine known line := by
    refine List.forall_mem_flatMap.2 fun p hp => ?_
    obtain ⟨hIn, hTwoWay⟩ := List.mem_filter.1 hp
    exact fitsLines_writeBack (hNames.writeBack p hIn hTwoWay) (h.properties p hIn)
  simp only [initLines, List.forall_mem_append, List.forall_mem_cons]
  refine ⟨⟨⟨⟨⟨⟨.blank, hPlain.line ?_, hPlain.line ?_, hPlain.line ?_, by simp⟩, hCases⟩,
      hPlain.line ?_, hPlain.line ?_, hPlain.line ?_, by simp⟩, hListeners⟩, hWriteBack⟩,
    hPlain.line ?_, by simp⟩ <;> decide

theorem fitsLines_closing (hPlain : Admits known []) :
    ∀ line ∈ closingLines, FitsLine known line := by
  simp only [closingLines, List.forall_mem_cons]
  refine ⟨.blank, hPlain.line ?_, hPlain.line ?_, hPlain.line ?_, hPlain.line ?_, hPlain.line ?_,
    by simp⟩ <;> decide

/-- All lines behind the imports use only names that the members need. -/
theorem fitsLines_after (hNames : c.Admitting known) (h : c.Fitting known) :
    ∀ line ∈ linesAfter c, FitsLine known line := by
  have hPlain := hNames.plain
  have hProperties : ∀ line ∈ c.properties.flatMap propertyLines, FitsLine known line := by
    refine List.forall_mem_flatMap.2 fun p hp => ?_
    exact fitsLines_property (hNames.flow (List.ne_nil_of_mem hp)) (h.properties p hp)
  have hCan : ∀ line ∈ (c.commands.filter (·.exposesCanExecute)).flatMap canExecuteLines,
      FitsLine known line := by
    refine List.forall_mem_flatMap.2 fun d hd => ?_
    exact fitsLines_canExecute hPlain (h.commands d (List.mem_of_mem_filter hd))
  have hInit : ∀ line ∈ (if c.properties.isEmpty then [] else initLines c),
      FitsLine known line := by
    split
    · simp
    · exact fitsLines_init hNames h
  have hCommands : ∀ line ∈ c.commands.flatMap commandLines, FitsLine known line :=
    List.forall_mem_flatMap.2 fun d hd =>
      fitsLines_command hPlain (hNames.async d hd) (hNames.main d hd) (h.commands d hd)
  unfold linesAfter
  simp only [List.forall_mem_append]
  exact ⟨⟨⟨⟨⟨fitsLines_class hPlain h, hProperties⟩, hCan⟩, hInit⟩, hCommands⟩,
    fitsLines_closing hPlain⟩

end Kotlin
end ViewAdapters
