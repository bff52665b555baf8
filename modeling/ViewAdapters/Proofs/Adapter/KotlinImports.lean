import ViewAdapters.Proofs.Adapter.Findings
import ViewAdapters.Proofs.Adapter.KotlinMembers

/-!
# Imports of Kotlin adapters

The import lines of a Kotlin adapter are its imports, in their order. Each of them is used by
another line of the text, and the names that the text takes from imports have theirs, unless
they are names of the input.

* `Kotlin.shown_flow`, `Kotlin.shown_writeBack`, `Kotlin.shown_async`, `Kotlin.shown_main`: the
  lines that show the names that their part takes from imports.
* `Assembly.admitting_ofParts`: the names that the lines take have imports.
* `Assembly.showsImport_of_mem`: every import is shown.
* `Backend.hasExactImports_of_generate`: both for all adapters.
-/

namespace ViewAdapters

open Target (words endsWithBreak words_append endsWithBreak_append)

namespace Kotlin

variable {p : PropertyView} {c : CommandView} {w : String}

/-! ## Shown names -/

theorem shown_flow (p : PropertyView) :
    ∀ w ∈ flowNames, ∃ line ∈ propertyLines p, w ∈ words line := by
  have hField : ("    private val " ++ backing p ++ " = MutableStateFlow<" ++ p.typeName ++ ">(" ++
      p.seed ++ ")") ∈ propertyLines p := by simp [propertyLines]
  have hFlow : ("    val " ++ p.identifier ++ ": StateFlow<" ++ p.typeName ++ "> = " ++
      backing p ++ ".asStateFlow()") ∈ propertyLines p := by simp [propertyLines]
  simp only [flowNames, List.forall_mem_cons]
  refine ⟨⟨_, hField, mem_words_next ?_ (.inl (mem_words_next ?_ (.inl
      (mem_words_first ?_ (.inr (.inr (mem_words_literal ?_)))))))⟩,
    ⟨_, hFlow, mem_words_next ?_ (.inl (mem_words_next ?_ (.inl
      (mem_words_first ?_ (.inr (.inr (mem_words_literal ?_)))))))⟩,
    ⟨_, hFlow, mem_words_next ?_ (.inr (.inr (mem_words_literal ?_)))⟩, by simp⟩ <;> decide

theorem shown_type (hw : w ∈ words p.typeName) : ∃ line ∈ propertyLines p, w ∈ words line := by
  have hFlow : ("    val " ++ p.identifier ++ ": StateFlow<" ++ p.typeName ++ "> = " ++
      backing p ++ ".asStateFlow()") ∈ propertyLines p := by simp [propertyLines]
  refine ⟨_, hFlow, mem_words_next ?_ (.inl (mem_words_next ?_ (.inr (.inl hw))))⟩ <;> decide

theorem shown_writeBack (p : PropertyView) :
    ∀ w ∈ writeBackNames, ∃ line ∈ writeBackLines p, w ∈ words line := by
  have hDrop : "            .drop(1)" ∈ writeBackLines p := by simp [writeBackLines]
  have hOnEach : "            .onEach \x7b newValue ->" ∈ writeBackLines p := by
    simp [writeBackLines]
  have hLaunch : "            .launchIn(viewModelScope)" ∈ writeBackLines p := by
    simp [writeBackLines]
  simp only [writeBackNames, List.forall_mem_cons]
  refine ⟨⟨_, hDrop, mem_words_literal ?_⟩, ⟨_, hOnEach, mem_words_literal ?_⟩,
    ⟨_, hLaunch, mem_words_literal ?_⟩, ⟨_, hLaunch, mem_words_literal ?_⟩, by simp⟩ <;> decide

theorem shown_async (hAsync : c.isAsync = true) :
    ∀ w ∈ asyncNames, ∃ line ∈ commandLines c, w ∈ words line := by
  have hContext : ("        withContext(" ++
      (if c.dispatch = .main then "Dispatchers.Main" else "Dispatchers.IO") ++ ") \x7b") ∈
      commandLines c := by simp [commandLines, asyncLines, hAsync]
  have hDispatchers : "Dispatchers" ∈
      words (if c.dispatch = .main then "Dispatchers.Main" else "Dispatchers.IO") := by
    split <;> exact mem_words_literal (by decide)
  simp only [asyncNames, List.forall_mem_cons]
  refine ⟨⟨_, hContext, mem_words_first ?_ (.inl (mem_words_literal ?_))⟩,
    ⟨_, hContext, mem_words_first ?_ (.inr (.inl hDispatchers))⟩, by simp⟩ <;> decide

theorem shown_main (hMain : c.isMainSync = true) :
    ∀ w ∈ mainNames, ∃ line ∈ commandLines c, w ∈ words line := by
  simp only [CommandView.isMainSync, Bool.and_eq_true, Bool.not_eq_true', beq_iff_eq] at hMain
  have hLaunch : "        viewModelScope.launch(Dispatchers.Main) \x7b" ∈ commandLines c := by
    simp [commandLines, mainLines, hMain.1, hMain.2]
  simp only [mainNames, List.forall_mem_cons]
  refine ⟨⟨_, hLaunch, mem_words_literal ?_⟩, ⟨_, hLaunch, mem_words_literal ?_⟩,
    ⟨_, hLaunch, mem_words_literal ?_⟩, by simp⟩ <;> decide

theorem shown_parameter {q : String × String} (hq : c.parameter = some q)
    (hw : w ∈ words q.2) : ∃ line ∈ commandLines c, w ∈ words line := by
  have hText : parameterText c = q.1 ++ ": " ++ q.2 := by rw [parameterText, hq]; rfl
  have hShown : w ∈ words (parameterText c) := by
    have hColon : endsWithBreak (q.1 ++ ": ") = true :=
      endsWithBreak_append (endsWithBreak_ofList (by decide))
    rw [hText, words_append (.inl hColon)]
    exact List.mem_append_right _ hw
  by_cases hAsync : c.isAsync
  · have hHead : ("    suspend fun " ++ c.identifier ++ "(" ++ parameterText c ++
        "): Result<Unit> =") ∈ commandLines c := by simp [commandLines, asyncLines, hAsync]
    exact ⟨_, hHead, mem_words_next (by decide) (.inr (.inl hShown))⟩
  · by_cases hMain : c.dispatch = .main
    · have hHead : ("    fun " ++ c.identifier ++ "(" ++ (parameterText c ++ ", ") ++
          "onResult: (Result<Unit>) -> Unit = \x7b\x7d) \x7b") ∈ commandLines c := by
        simp [commandLines, mainLines, hAsync, hMain, hq]
      have hOpen : endsWithBreak ("    fun " ++ c.identifier ++ "(") = true :=
        endsWithBreak_append (endsWithBreak_ofList (by decide))
      have hComma : endsWithBreak ", " = true := endsWithBreak_ofList (by decide)
      have hArgument : w ∈ words (parameterText c ++ ", ") := by
        rw [words_append (.inr (startsWithBreak_ofList (by decide)))]
        exact List.mem_append_left _ hShown
      refine ⟨_, hHead, ?_⟩
      rw [words_append (.inl (endsWithBreak_append (endsWithBreak_append hComma))),
        words_append (.inl hOpen)]
      exact List.mem_append_left _ (List.mem_append_right _ hArgument)
    · have hHead : ("    fun " ++ c.identifier ++ "(" ++ parameterText c ++
          "): Result<Unit> =") ∈ commandLines c := by
        simp [commandLines, inlineLines, hAsync, hMain]
      exact ⟨_, hHead, mem_words_next (by decide) (.inr (.inl hShown))⟩

theorem shown_class (c : Content) :
    ∀ w ∈ ["ViewModel", "Inject"], ∃ line ∈ classLines c, w ∈ words line := by
  have hHead : ("class " ++ c.adapterName ++ " @Inject constructor(") ∈ classLines c := by
    simp [classLines]
  have hBase : ") : ViewModel() \x7b" ∈ classLines c := by simp [classLines]
  simp only [List.forall_mem_cons]
  refine ⟨⟨_, hBase, mem_words_literal ?_⟩,
    ⟨_, hHead, mem_words_first ?_ (.inr (.inr (mem_words_literal ?_)))⟩, by simp⟩ <;> decide

/-- Whether a line behind the imports has a word. -/
def Shows (c : Content) (w : String) : Prop := ∃ line ∈ linesAfter c, w ∈ words line

variable {d : Content}

theorem shows_of_class (h : ∃ line ∈ classLines d, w ∈ words line) : Shows d w := by
  obtain ⟨line, hLine, hw⟩ := h
  exact ⟨line, by simp [linesAfter, hLine], hw⟩

theorem shows_of_property (hp : p ∈ d.properties) (h : ∃ line ∈ propertyLines p, w ∈ words line) :
    Shows d w := by
  obtain ⟨line, hLine, hw⟩ := h
  have hAll : line ∈ d.properties.flatMap propertyLines := List.mem_flatMap.2 ⟨p, hp, hLine⟩
  exact ⟨line, by simp only [linesAfter, List.mem_append, hAll, true_or, or_true], hw⟩

theorem shows_of_writeBack (hp : p ∈ d.properties) (hTwoWay : p.isTwoWay = true)
    (h : ∃ line ∈ writeBackLines p, w ∈ words line) : Shows d w := by
  obtain ⟨line, hLine, hw⟩ := h
  have hAll : line ∈ d.twoWayProperties.flatMap writeBackLines :=
    List.mem_flatMap.2 ⟨p, List.mem_filter.2 ⟨hp, hTwoWay⟩, hLine⟩
  have hInit : line ∈ initLines d := by
    simp only [initLines, List.mem_append, hAll, true_or, or_true]
  have hNonempty : d.properties ≠ [] := List.ne_nil_of_mem hp
  refine ⟨line, ?_, hw⟩
  simp [linesAfter, hNonempty, hInit]

theorem shows_of_command (hc : c ∈ d.commands) (h : ∃ line ∈ commandLines c, w ∈ words line) :
    Shows d w := by
  obtain ⟨line, hLine, hw⟩ := h
  have hAll : line ∈ d.commands.flatMap commandLines := List.mem_flatMap.2 ⟨c, hc, hLine⟩
  exact ⟨line, by simp only [linesAfter, List.mem_append, hAll, true_or, or_true], hw⟩

/-- An import stays within its line, and a line behind the imports has its last segment. -/
def ShowsImport (c : Content) (i : String) : Prop :=
  '\n' ∉ i.toList ∧ Shows c (Text.lastSegment i)

/-- The imports of names end with these names. -/
theorem showsImport_of_shows {n : String × String} (hn : n ∈ importedNames) (h : Shows d n.1) :
    ShowsImport d n.2 := by
  have hSegments : ∀ n ∈ importedNames, '\n' ∉ n.2.toList ∧ Text.lastSegment n.2 = n.1 := by
    decide
  exact ⟨(hSegments n hn).1, (hSegments n hn).2.symm ▸ h⟩

/-- The imports of the structure come with the lines that show their names. -/
theorem showsImport_of_structural {i : String}
    (h : i ∈ kotlinImports d.properties d.commands) : ShowsImport d i := by
  have hClass : ∀ i ∈ ["androidx.lifecycle.ViewModel", "javax.inject.Inject"],
      '\n' ∉ i.toList ∧ Text.lastSegment i ∈ ["ViewModel", "Inject"] := by decide
  have hFlow : ∀ i ∈ flowImports, ∃ n ∈ importedNames, n.1 ∈ flowNames ∧ n.2 = i := by decide
  have hWriteBack : ∀ i ∈ writeBackImports,
      ∃ n ∈ importedNames, n.1 ∈ writeBackNames ∧ n.2 = i := by decide
  rcases mem_kotlinImports.1 h with hi | ⟨hNonempty, hi⟩ | ⟨⟨p, hp, hTwoWay⟩, hi⟩ |
    ⟨hScope, rfl⟩ | ⟨⟨c, hc, hMain⟩, rfl⟩ | ⟨⟨c, hc, hAsync⟩, rfl⟩
  · exact ⟨(hClass i hi).1, shows_of_class (shown_class _ _ (hClass i hi).2)⟩
  · obtain ⟨p, hp⟩ := List.exists_mem_of_ne_nil _ hNonempty
    obtain ⟨n, hn, hName, rfl⟩ := hFlow i hi
    exact showsImport_of_shows hn (shows_of_property hp (shown_flow p _ hName))
  · obtain ⟨n, hn, hName, rfl⟩ := hWriteBack i hi
    exact showsImport_of_shows hn (shows_of_writeBack hp hTwoWay (shown_writeBack p _ hName))
  · refine showsImport_of_shows (n := ("viewModelScope", _)) (by simp [importedNames]) ?_
    rcases hScope with ⟨p, hp, hTwoWay⟩ | ⟨c, hc, hMain⟩
    · exact shows_of_writeBack hp hTwoWay (shown_writeBack p _ (by decide))
    · exact shows_of_command hc (shown_main hMain _ (by decide))
  · refine showsImport_of_shows (n := ("launch", _)) (by simp [importedNames]) ?_
    exact shows_of_command hc (shown_main hMain _ (by decide))
  · refine showsImport_of_shows (n := ("withContext", _)) (by simp [importedNames]) ?_
    exact shows_of_command hc (shown_async hAsync _ (by decide))

end Kotlin

/-! ## Imports of assemblies -/

/-- A name is known if its import is there or it is a name of the input. -/
def Supplied (imports : ImportSet) (texts : List String) (w : String) : Prop :=
  ∀ n ∈ importedNames, n.1 = w → n.2 ∈ imports ∨ ∃ s ∈ texts, w ∈ words s

theorem admits_supplied {imports : ImportSet} {allowed : List String} (texts : List String)
    (h : ∀ n ∈ importedNames, n.1 ∈ allowed → n.2 ∈ imports) :
    Admits (Supplied imports texts) allowed := by
  rintro w (hOther | hAllowed) n hn rfl
  · rw [isImported, List.any_eq_false] at hOther
    exact absurd (beq_self_eq_true n.1) (hOther n hn)
  · exact .inl (h n hn hAllowed)

/-- A text of the input fits, whatever names are in it. -/
theorem fits_supplied {imports : ImportSet} {texts : List String} {s : String} (hs : s ∈ texts)
    (hFeed : '\n' ∉ s.toList) : Fits (Supplied imports texts) s :=
  ⟨hFeed, fun _ hw _ _ _ => .inr ⟨s, hs, hw⟩⟩

namespace Assembly

variable {known : String → Prop} {namespaces : NamespaceTable} {package : String}
  {time : Calendar.UtcSecond} {v : ViewModel} {properties : List PropertyPart}
  {commands : List CommandPart} {content : Content}

theorem isDispatching_of_mem (hCommands : ∀ part ∈ commands, ShowsCommand known part)
    {c : CommandView} (hc : c ∈ commands.map (·.1))
    (hDispatch : c.isAsync = true ∨ c.isMainSync = true) : isDispatching commands = true := by
  obtain ⟨part, hPart, rfl⟩ := List.mem_map.1 hc
  have hNot := (hCommands part hPart).dispatch.2 hDispatch
  exact List.any_eq_true.2 ⟨part.1, hc, by simpa using hNot⟩

/-- Wherever a line takes a name from an import, the import is there. -/
theorem admitting_ofParts (texts : List String)
    (hContent : content =
      (ofParts ⟨.android, namespaces⟩ package time v properties commands).content)
    (hCommands : ∀ part ∈ commands, ShowsCommand known part) :
    content.Admitting (Supplied content.imports texts) := by
  have hDispatch : ∀ c ∈ content.commands, c.isAsync = true ∨ c.isMainSync = true →
      Target.dispatchImport .android ∈ content.imports := by
    rw [hContent]
    exact fun c hc hIs => mem_imports_ofParts.2
      (.inr (.inr (.inr (.inl ⟨isDispatching_of_mem hCommands hc hIs, rfl⟩))))
  have hStructural : ∀ x ∈ kotlinImports content.properties content.commands,
      x ∈ content.imports := by
    rw [hContent]
    exact fun x hx => mem_imports_ofParts.2 (.inr (.inr (.inr (.inr hx))))
  have hFlow : ∀ n ∈ importedNames, n.1 ∈ Kotlin.flowNames → n.2 ∈ flowImports := by
    decide
  have hWriteBack : ∀ n ∈ importedNames, n.1 ∈ Kotlin.writeBackNames →
      n.2 ∈ writeBackImports ∨ n.2 = "androidx.lifecycle.viewModelScope" := by decide
  have hAsync : ∀ n ∈ importedNames, n.1 ∈ Kotlin.asyncNames →
      n.2 = "kotlinx.coroutines.withContext" ∨ n.2 = Target.dispatchImport .android := by
    decide
  have hMain : ∀ n ∈ importedNames, n.1 ∈ Kotlin.mainNames →
      n.2 = "androidx.lifecycle.viewModelScope" ∨ n.2 = "kotlinx.coroutines.launch" ∨
        n.2 = Target.dispatchImport .android := by decide
  refine ⟨admits_supplied texts (by simp), fun hNonempty => ?_, fun p hp hTwoWay => ?_,
    fun c hc hIs => ?_, fun c hc hIs => ?_⟩
  · refine admits_supplied texts fun n hn hName => hStructural _ (mem_kotlinImports.2 ?_)
    exact .inr (.inl ⟨hNonempty, hFlow n hn hName⟩)
  · refine admits_supplied texts fun n hn hName => hStructural _ (mem_kotlinImports.2 ?_)
    rcases hWriteBack n hn hName with hIn | hScope
    · exact .inr (.inr (.inl ⟨⟨p, hp, hTwoWay⟩, hIn⟩))
    · exact .inr (.inr (.inr (.inl ⟨.inl ⟨p, hp, hTwoWay⟩, hScope⟩)))
  · refine admits_supplied texts fun n hn hName => ?_
    rcases hAsync n hn hName with hContext | hThread
    · refine hStructural _ (mem_kotlinImports.2 ?_)
      exact .inr (.inr (.inr (.inr (.inr ⟨⟨c, hc, hIs⟩, hContext⟩))))
    · exact hThread ▸ hDispatch c hc (.inl hIs)
  · refine admits_supplied texts fun n hn hName => ?_
    rcases hMain n hn hName with hScope | hLaunch | hThread
    · refine hStructural _ (mem_kotlinImports.2 ?_)
      exact .inr (.inr (.inr (.inl ⟨.inr ⟨c, hc, hIs⟩, hScope⟩)))
    · refine hStructural _ (mem_kotlinImports.2 ?_)
      exact .inr (.inr (.inr (.inr (.inl ⟨⟨c, hc, hIs⟩, hLaunch⟩))))
    · exact hThread ▸ hDispatch c hc (.inr hIs)

/-- A parameter whose type has words is shown. -/
theorem exists_parameter_of_shows {part : CommandPart} (hPart : ShowsCommand known part)
    {r : Target.Resolved} (hr : part.2.1 = some r) {w : String} (hw : w ∈ words r.name) :
    ∃ q, part.1.parameter = some q ∧ w ∈ words q.2 := by
  have hDeclared := hPart.parameter
  rw [hr, Option.map_some, Option.map_eq_some_iff] at hDeclared
  obtain ⟨q, hq, hName⟩ := hDeclared
  rw [← hName] at hw
  have hShown : q.2.isEmpty = false := Bool.eq_false_iff.2 fun hEmpty => by
    rw [String.isEmpty_iff.1 hEmpty] at hw
    contradiction
  exact ⟨q, Option.filter_eq_some_iff.2 ⟨hq, by simp [hShown]⟩, hw⟩

/-- Every import is shown. -/
theorem showsImport_of_mem
    (hContent : content =
      (ofParts ⟨.android, namespaces⟩ package time v properties commands).content)
    (hProperties : ∀ part ∈ properties, ShowsProperty known part)
    (hCommands : ∀ part ∈ commands, ShowsCommand known part) {i : String}
    (h : i ∈ content.imports) : Kotlin.ShowsImport content i := by
  have hPropertyView : ∀ part ∈ properties, part.1 ∈ content.properties := fun part hPart =>
    hContent ▸ List.mem_map_of_mem hPart
  have hCommandView : ∀ part ∈ commands, part.1 ∈ content.commands := fun part hPart =>
    hContent ▸ List.mem_map_of_mem hPart
  rcases mem_imports_ofParts.1 (hContent ▸ h) with ⟨part, hPart, hi⟩ | ⟨part, hPart, r, hr, hi⟩ |
    hi | ⟨hDispatching, rfl⟩ | hi
  · have hShows := hProperties part hPart
    obtain ⟨hFeed, hWord⟩ := hShows.displays.shown i hi
    rw [← hShows.typeName] at hWord
    exact ⟨hFeed, Kotlin.shows_of_property (hPropertyView part hPart) (Kotlin.shown_type hWord)⟩
  · have hShows := hCommands part hPart
    obtain ⟨hFeed, hWord⟩ := (hShows.displays r hr).shown i hi
    obtain ⟨q, hq, hShown⟩ := exists_parameter_of_shows hShows hr hWord
    exact ⟨hFeed,
      Kotlin.shows_of_command (hCommandView part hPart) (Kotlin.shown_parameter hq hShown)⟩
  · rw [Target.reference_android_imports] at hi
    exact absurd hi List.not_mem_nil
  · obtain ⟨c, hc, hNot⟩ := List.any_eq_true.1 hDispatching
    obtain ⟨part, hPart, rfl⟩ := List.mem_map.1 hc
    refine Kotlin.showsImport_of_shows (n := ("Dispatchers", _)) (by simp [importedNames]) ?_
    rcases (hCommands part hPart).dispatch.1 (by simpa using hNot) with hAsync | hMain
    · exact Kotlin.shows_of_command (hCommandView part hPart)
        (Kotlin.shown_async hAsync _ (by decide))
    · exact Kotlin.shows_of_command (hCommandView part hPart)
        (Kotlin.shown_main hMain _ (by decide))
  · have hParts : content.properties = properties.map (·.1) ∧
        content.commands = commands.map (·.1) := hContent ▸ ⟨rfl, rfl⟩
    rw [← hParts.1, ← hParts.2] at hi
    exact Kotlin.showsImport_of_structural hi

end Assembly

/-! ## Exact imports -/

/-- The import lines of an adapter are its imports and exactly those that the text needs, but
for names in `texts`. -/
structure HasExactImports (texts : List String) (a : Adapter) : Prop where
  /-- The import lines are the imports, in their order. -/
  listed : (Text.lines a.text).filter isImport = a.imports.items.map ("import " ++ ·)
  sorted : a.imports.items.Pairwise (· < ·)
  /-- The last segment of every import is a word of a line that is no import. -/
  used : ∀ i ∈ a.imports, ∃ line ∈ Text.lines a.text, isImport line = false ∧
    Text.lastSegment i ∈ words line
  /-- A name that the text takes from an import, and from no other text, has its import. -/
  needed : ∀ n ∈ importedNames, ∀ line ∈ Text.lines a.text, isImport line = false →
    n.1 ∈ words line → (∀ s ∈ texts, n.1 ∉ words s) → n.2 ∈ a.imports

section Content

variable {c : Content} {known : String → Prop}

/-- The lines of a text are those that it is made from, and an empty one behind the last. -/
theorem Kotlin.lines_text (hAndroid : c.platform = .android)
    (hBefore : ∀ line ∈ linesBefore c, FitsLine known line)
    (hAfter : ∀ line ∈ linesAfter c, FitsLine known line)
    (hImports : ∀ i ∈ c.imports, ShowsImport c i) :
    Text.lines (textOfLines c.lines) =
      linesBefore c ++ c.imports.items.map ("import " ++ ·) ++ (linesAfter c ++ [""]) := by
  have hFeeds : ∀ line ∈ c.lines, '\n' ∉ line.toList := by
    simp only [lines_eq_append hAndroid, List.forall_mem_append, List.forall_mem_map]
    refine ⟨⟨fun line hLine => (hBefore line hLine).noLineFeed, fun i hi => ?_⟩,
      fun line hLine => (hAfter line hLine).noLineFeed⟩
    rw [String.toList_append, List.mem_append, not_or]
    exact ⟨by decide, (hImports i hi).1⟩
  rw [Text.lines_textOfLines_of_not_mem hFeeds, lines_eq_append hAndroid,
    List.append_assoc _ (linesAfter c)]

theorem hasExactImports_of_content {a : Adapter} {texts : List String}
    (hAndroid : c.platform = .android) (hText : a.text = textOfLines c.lines)
    (hImports : a.imports = c.imports) (hFits : c.Fitting (Supplied c.imports texts))
    (hAdmits : c.Admitting (Supplied c.imports texts))
    (hShown : ∀ i ∈ c.imports, Kotlin.ShowsImport c i) : HasExactImports texts a := by
  have hBefore := Kotlin.fitsLines_before hAdmits.plain hFits
  have hAfter := Kotlin.fitsLines_after hAdmits hFits
  have hRest : ∀ line ∈ Kotlin.linesAfter c ++ [""],
      FitsLine (Supplied c.imports texts) line :=
    List.forall_mem_append.2 ⟨hAfter, List.forall_mem_singleton.2 .blank⟩
  have hLines := hText ▸ Kotlin.lines_text hAndroid hBefore hAfter hShown
  refine ⟨?_, a.imports.sorted, fun i hi => ?_, fun n hn line hLine hNot hWord hOwn => ?_⟩
  · have hAll : (c.imports.items.map ("import " ++ ·)).filter isImport =
        c.imports.items.map ("import " ++ ·) :=
      List.filter_eq_self.2 (List.forall_mem_map.2 fun i _ => isImport_import i)
    rw [hLines, List.filter_append, List.filter_append, FitsLine.filter_isImport hBefore,
      FitsLine.filter_isImport hRest, hAll, hImports, List.nil_append, List.append_nil]
  · obtain ⟨line, hLine, hWord⟩ := (hShown i (hImports ▸ hi)).2
    refine ⟨line, ?_, (hAfter line hLine).notImport, hWord⟩
    rw [hLines]
    exact List.mem_append_right _ (List.mem_append_left _ hLine)
  · have hFitsLine : FitsLine (Supplied c.imports texts) line := by
      rw [hLines] at hLine
      rcases List.mem_append.1 hLine with hLine | hLine
      · rcases List.mem_append.1 hLine with hLine | hLine
        · exact hBefore line hLine
        · obtain ⟨i, -, rfl⟩ := List.mem_map.1 hLine
          rw [isImport_import] at hNot
          contradiction
      · exact hRest line hLine
    rcases hFitsLine.known_of_mem n.1 hWord n hn rfl with hIn | ⟨s, hs, hOther⟩
    · exact hImports ▸ hIn
    · exact absurd hOther (hOwn s hs)

end Content

namespace Backend

variable {b : Backend} {v : ViewModel} {a : Adapter}

/-- The input of a backend fits, since all names in it are known. -/
theorem fittingInput (imports : ImportSet)
    (hFeeds : ∀ s ∈ b.texts ++ v.texts, '\n' ∉ s.toList) :
    FittingInput (Supplied imports (b.texts ++ v.texts ++ v.derivedNames)) b.target.namespaces
      b.package v := by
  rw [List.forall_mem_append] at hFeeds
  have hOwn : ∀ s ∈ b.texts, Fits (Supplied imports (b.texts ++ v.texts ++ v.derivedNames)) s :=
    fun s hs => fits_supplied (by simp [hs]) (hFeeds.1 s hs)
  have hNames := ViewModel.not_mem_derivedNames (by decide) hFeeds.2
  exact {
    texts := fun s hs => fits_supplied (by simp [hs]) (hFeeds.2 s hs)
    names := fun s hs => fits_supplied (by simp [hs]) (hNames s hs)
    targets := fun e he =>
      hOwn e.2 (List.mem_cons_of_mem _ (List.mem_flatMap.2 ⟨e, he, by simp⟩))
    package := hOwn b.package List.mem_cons_self }

/-- The imports of a Kotlin adapter are exact if no text of the input has a line feed. Only a
name that the input brings along, or that is derived from one, can be shown without an import. -/
theorem hasExactImports_of_generate (hAndroid : b.platform = .android)
    (hStandard : b.templates = []) (hFeeds : ∀ s ∈ b.texts ++ v.texts, '\n' ∉ s.toList)
    (h : b.generate v = .ok a) :
    HasExactImports (b.texts ++ v.texts ++ v.derivedNames) a := by
  obtain ⟨assembly, hMake, hText, hImports⟩ := exists_assembly_of_generate hStandard h
  have hTarget : b.target = ⟨.android, b.target.namespaces⟩ := by rw [← hAndroid]; rfl
  rw [hTarget] at hMake
  obtain ⟨properties, commands, hProperties, hCommands, hParts⟩ := Assembly.make_eq_ok.1 hMake
  have hContent := congrArg Assembly.content hParts
  have hInput := fittingInput assembly.content.imports hFeeds
  have hPlain : Admits (Supplied assembly.content.imports
      (b.texts ++ v.texts ++ v.derivedNames)) [] := admits_supplied _ (by simp)
  have hShowsProperties := Assembly.shows_of_mapM_propertyPart hPlain hInput hProperties
  have hShowsCommands := Assembly.shows_of_mapM_commandPart hPlain hInput hCommands
  have hPlatform : assembly.content.platform = .android := by rw [hContent]; rfl
  exact hasExactImports_of_content hPlatform hText hImports
    (Assembly.fitting_ofParts hPlain hInput hContent hShowsProperties hShowsCommands)
    (Assembly.admitting_ofParts _ hContent hShowsCommands)
    fun i hi => Assembly.showsImport_of_mem hContent hShowsProperties hShowsCommands hi

/-- A view-model with a member for every part of a Kotlin adapter. -/
def journey : ViewModel where
  name := "JourneyViewModel"
  qualifiedName := "Location.Core.JourneyViewModel"
  originModule := "Location.Core"
  properties := [
    { Property.plain "Due" (.nullable (.primitive "datetime")) with
      dateSemantics := some .dateOnly, validation := some ⟨true, some "CheckDue"⟩ },
    { Property.plain "Stops" (.collection (.primitive "uuid")) with
      element := some (.primitive "uuid"), batching := some ⟨true, some 20⟩ },
    { Property.plain "Place" (.primitive "Point") with
      isReadOnly := true, typeOverride := some ⟨some "LatLng", none⟩ }]
  commands := [
    { Command.plain "LoadCommand" with
      isAsync := true, parameter := some (.reference "Location.Core.Route"),
      behavior := some ⟨false, true⟩ },
    { Command.plain "Share" with
      parameter := some (.primitive "uri"), threading := some ⟨true, false⟩ },
    { Command.plain "Reset" with warning := some "Clears all stops" }]
  excluded := Exclusion.none

def journeyImports : List String := [
  "androidx.lifecycle.ViewModel", "androidx.lifecycle.viewModelScope",
  "com.google.android.gms.maps.model.LatLng", "java.net.URI", "java.time.LocalDate",
  "java.util.UUID", "javax.inject.Inject", "kotlinx.coroutines.Dispatchers",
  "kotlinx.coroutines.flow.MutableStateFlow", "kotlinx.coroutines.flow.StateFlow",
  "kotlinx.coroutines.flow.asStateFlow", "kotlinx.coroutines.flow.drop",
  "kotlinx.coroutines.flow.launchIn", "kotlinx.coroutines.flow.onEach",
  "kotlinx.coroutines.launch", "kotlinx.coroutines.withContext"]

theorem hasExactImports_journey :
    ∃ a, (standard .android).generate journey = .ok a ∧
      a.imports.items = journeyImports ∧
      HasExactImports ((standard .android).texts ++ journey.texts ++ journey.derivedNames) a := by
  have hItems : ((standard .android).generate journey).toOption.map (·.imports.items) =
      some journeyImports := by decide +kernel
  cases ha : (standard .android).generate journey with
  | error fault =>
    rw [ha] at hItems
    contradiction
  | ok a =>
    rw [ha] at hItems
    exact ⟨a, rfl, Option.some.inj hItems,
      hasExactImports_of_generate rfl rfl (by decide) ha⟩

end Backend
end ViewAdapters
