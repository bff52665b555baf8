import ViewAdapters.Proofs.Adapter.MarkedLines

/-!
# Reading of Kotlin adapters

What the lines of a Kotlin adapter say of the members that are shown, part by part.

* `Kotlin.reads_property`, `Kotlin.reads_init`, `Kotlin.reads_command`: the parts that say
  something.
* `Kotlin.reads_lines`: all lines behind the header.
-/

namespace ViewAdapters

/-! ## Bodies and parameters of functions -/

section Functions

variable {cs : List Char} {s : String}

theorem startsBody_indent (hBlank : cs.all Text.isBlank = true) :
    startsBody (String.ofList cs ++ s) = startsBody s := by
  have hTrim : Text.trimStartChars (String.ofList cs ++ s).toList =
      Text.trimStartChars s.toList := by
    rw [String.toList_append, String.toList_ofList, Text.trimStartChars,
      List.dropWhile_append_of_pos (List.all_eq_true.1 hBlank)]
    rfl
  rw [startsBody, hTrim]
  rfl

/-- Whether a literal settles that a line starts a body, or that it does not. -/
def bodyStart? (cs : List Char) : Option Bool :=
  let lead := Text.trimStartChars cs
  if lead.isEmpty then none
  else if bodyStarts.any (·.toList.isPrefixOf lead) then some true
  else if bodyStarts.all (clashes lead ·.toList) then some false
  else none

theorem startsBody_literal {isStart : Bool} (h : bodyStart? cs = some isStart) :
    startsBody (String.ofList cs ++ s) = isStart := by
  simp only [bodyStart?] at h
  split at h
  · contradiction
  · rename_i hLead
    have hTrim : Text.trimStartChars (String.ofList cs ++ s).toList =
        Text.trimStartChars cs ++ s.toList := by
      rw [String.toList_append, String.toList_ofList,
        Text.trimStartChars_append (fun hNil => hLead (List.isEmpty_iff.2 hNil))]
    rw [startsBody, hTrim]
    split at h
    · rename_i hStarts
      cases h
      obtain ⟨start, hIn, hPrefix⟩ := List.any_eq_true.1 hStarts
      exact List.any_eq_true.2 ⟨start, hIn, isPrefixOf_append hPrefix _⟩
    · split at h
      · rename_i hClashes
        cases h
        refine List.any_eq_false.2 fun start hIn hPrefix => ?_
        obtain ⟨rest, hRest⟩ := List.isPrefixOf_iff_prefix.1 hPrefix
        exact ne_of_clashes (clashes_append (List.all_eq_true.1 hClashes start hIn)) hRest.symm
      · contradiction

theorem parameterIn_android {name r : String} (hName : IsWord name) (hNe : name ≠ "")
    (hRest : name ++ ": " ++ r ≠ onlyResult) :
    parameterIn .android (name ++ ": " ++ r) = some name := by
  have hBreak : ": ".toList.head?.any (!Target.isWordPart ·) = true := by decide
  have hTake : (name ++ ": " ++ r).toList.takeWhile Target.isWordPart = name.toList := by
    rw [String.toList_append, String.toList_append, List.append_assoc]
    exact (takeWhile_word hName hBreak).1
  have hEmpty : name.toList.isEmpty = false := by
    simpa [List.isEmpty_eq_false_iff] using hNe
  simp only [parameterIn, if_neg hRest, Option.map_some, hTake, Option.bind_some, hEmpty,
    String.ofList_toList, Bool.false_eq_true, if_false]

end Functions

namespace Kotlin

variable {keep : LineItem → Bool} {p : PropertyView} {c : CommandView}

theorem reads_notes (warning batchNote : Option String) :
    Reads keep .android (notes warning batchNote) [] := by
  refine .silent ?_
  simp only [notes, List.forall_mem_append, Option.mem_toList, Option.map_eq_some_iff]
  constructor
  · rintro _ ⟨s, -, rfl⟩
    exact ((Unmarked.literal (by decide)).more s).mentions_eq
  · rintro _ ⟨s, -, rfl⟩
    exact ((Unmarked.literal (by decide)).more s).mentions_eq

theorem unmarked_backing (p : PropertyView) : Unmarked (lineMarks .android) (backing p) :=
  (Unmarked.literal (by decide)).more _

theorem readLine_function {head name : String} {r : List Char}
    (h : Mentions (lineMarks .android) head name [(.function, r)]) (more below : String) :
    readLine .android (head ++ more) below =
      if startsBody below then
        [.wrapper ⟨name, false, parameterIn .android (String.ofList r ++ more)⟩]
      else [] := by
  rw [readLine, h more]
  simp [itemsOf]

/-- A setter is a function that starts with an assignment. -/
theorem reads_setter (h : p.Readable keep) : Reads keep .android (setterLines p) [] := by
  have hHead : Mentions (lineMarks .android) ("    fun " ++ p.setter ++ "(value: ") p.setter
      [(.function, "value: ".toList)] := .start h.setter (by decide)
  have hBody : startsBody ("        " ++ backing p ++ ".value = value") = false := by
    rw [String.append_assoc, startsBody_indent (by decide), backing, String.append_assoc]
    exact startsBody_literal (by decide)
  have hNone := readLine_function hHead (p.typeName ++ ") \x7b")
    ("        " ++ backing p ++ ".value = value")
  rw [hBody, ← String.append_assoc] at hNone
  exact .skip (mentions_blank _) <| .above hNone <|
    .skip (((unmarked_backing p).indent (by decide)).more _).mentions_eq <|
    .silent (by decide)

theorem reads_property (h : p.Readable keep) :
    Reads keep .android (propertyLines p) p.declaredItems := by
  have hContainer : Mentions (lineMarks .android)
      ("    private val " ++ backing p ++ " = MutableStateFlow<") p.identifier [(.container, [])] :=
    .startBehind h.identifier (by decide)
  have hPublished : Mentions (lineMarks .android)
      ("    val " ++ p.identifier ++ ": StateFlow<") p.identifier [(.published, [])] :=
    .start h.identifier (by decide)
  have hContains : Gives .android
      ("    private val " ++ backing p ++ " = MutableStateFlow<") [.container p.identifier] :=
    .of_mentions hContainer fun _ _ => rfl
  have hPublishes : Gives .android
      ("    val " ++ p.identifier ++ ": StateFlow<") [.published p.identifier] :=
    .of_mentions hPublished fun _ _ => rfl
  have hDeclared : Reads keep .android
      ["    private val " ++ backing p ++ " = MutableStateFlow<" ++ p.typeName ++ ">(" ++ p.seed ++
          ")",
        "    val " ++ p.identifier ++ ": StateFlow<" ++ p.typeName ++ "> = " ++ backing p ++
          ".asStateFlow()"] p.declaredItems :=
    .give ((((hContains.more _).more _).more _).more _) <|
      .give ((((hPublishes.more _).more _).more _).more _) .nil
  have hSetter : Reads keep .android (if p.isTwoWay then setterLines p else []) [] := by
    split
    · exact reads_setter h
    · exact .nil
  simpa [propertyLines] using
    ((Reads.skip (mentions_blank _) .nil).append (reads_notes p.warning p.batchNote)).append
      (hDeclared.append hSetter)

theorem reads_canExecute (h : c.Readable) :
    Reads keep .android (canExecuteLines c) [.accessor c.canName] := by
  have hAccessor : Mentions (lineMarks .android) ("    val " ++ c.canName ++ ": Boolean") c.canName
      [(.accessor, [])] := .start h.canName (by decide)
  have hTells : Gives .android ("    val " ++ c.canName ++ ": Boolean") [.accessor c.canName] :=
    .of_mentions hAccessor fun _ _ => rfl
  have hGetter : Unmarked (lineMarks .android) "        get() = source." := .literal (by decide)
  exact .skip (mentions_blank _) <| .give hTells <|
    .skip ((hGetter.more _).more _).mentions_eq .nil

theorem reads_changedCase (h : p.Readable keep) :
    Reads keep .android [changedCase p] [.changed p.name] := by
  have hCase : Mentions (lineMarks .android)
      ("                \"" ++ p.name ++ "\" -> \x7b ") p.name [(.changed, [])] :=
    .start h.name (by decide)
  have hHandles : Gives .android ("                \"" ++ p.name ++ "\" -> \x7b ")
      [.changed p.name] := .of_mentions hCase fun _ _ => rfl
  exact .give ((hHandles.more _).more _) .nil

theorem reads_listener (h : p.Readable keep) :
    Reads keep .android (collectionListener p) [.listener p.name] := by
  have hSource : Mentions (lineMarks .android)
      ("        source." ++ p.name ++ ".CollectionChanged += \x7b _, _ ->") p.name
      [(.listener, [])] := .start h.name (by decide)
  have hListens : Gives .android
      ("        source." ++ p.name ++ ".CollectionChanged += \x7b _, _ ->") [.listener p.name] :=
    .of_mentions hSource fun _ _ => rfl
  have hRefresh : Unmarked (lineMarks .android) (refreshText p) :=
    ((unmarked_backing p).more _).more _
  exact .give hListens <| .skip (hRefresh.indent (by decide)).mentions_eq <| .silent (by decide)

theorem startsAtSource : StartsAtSource .android "                source.".toList := by
  constructor <;> decide

theorem reads_writeBack (h : p.Readable keep) :
    Reads keep .android (writeBackLines p) [.writeBack p.writeBack] := by
  have hFlow : mentions (lineMarks .android) ("        " ++ p.identifier) = [] :=
    mentions_word (by decide) (by decide) h.identifier
  have hEnd : Reads keep .android
      ["            \x7d", "            .launchIn(viewModelScope)"] [] := .silent (by decide)
  have hWritten : Reads keep .android
      (["                source." ++ p.name ++ " = " ++ p.toSource] ++
        (afterWriteLines p.afterWrite ++
          ["            \x7d", "            .launchIn(viewModelScope)"]))
      [.writeBack p.writeBack] :=
    reads_written startsAtSource h rfl (fun _ => rfl) rfl (by decide) (by decide) (by decide) hEnd
  exact .skip hFlow <| .skip (by decide) <| .skip (by decide) hWritten

theorem reads_init {c : Content} (h : ∀ p ∈ c.properties, p.Readable keep) :
    Reads keep .android (initLines c) c.bindingItems := by
  have hCases : Reads keep .android (c.properties.map changedCase)
      (c.properties.map (.changed ·.name)) :=
    .map fun p hp => reads_changedCase (h p hp)
  have hListeners : Reads keep .android (c.collections.flatMap collectionListener)
      (c.collections.map (.listener ·.name)) :=
    .each fun p hp => reads_listener (h p (List.mem_filter.1 hp).1)
  have hWriteBacks : Reads keep .android (c.twoWayProperties.flatMap writeBackLines)
      (c.twoWayProperties.map (.writeBack ·.writeBack)) :=
    .each fun p hp => reads_writeBack (h p (List.mem_filter.1 hp).1)
  have hStart : Reads keep .android
      ["",
        "    init \x7b",
        "        source.PropertyChanged += \x7b _, args ->",
        "            when (args.PropertyName) \x7b"] [] := .silent (by decide)
  have hElse : Reads keep .android
      ["                else -> \x7b\x7d",
        "            \x7d",
        "        \x7d"] [] := .silent (by decide)
  have hEnd : Reads keep .android ["    \x7d"] [] := .silent (by decide)
  have hBody := (((hStart.append hCases).append hElse).append hListeners).append hWriteBacks
  simpa [initLines, Content.bindingItems] using hBody.append hEnd

/-! ## Commands -/

/-- The parameter of a command, wherever its type ends. -/
theorem parameterIn_parameterText (h : c.Readable) {closing : String}
    (hNone : parameterIn .android closing = none)
    (hSome : ∀ s, s ++ closing ≠ onlyResult) :
    parameterIn .android (parameterText c ++ closing) = c.parameter.map (·.1) := by
  unfold parameterText
  cases hParameter : c.parameter with
  | none => simpa using hNone
  | some q =>
    obtain ⟨hWord, hNe⟩ := h.parameter q (by simp [hParameter])
    have hRest := hSome (q.1 ++ ": " ++ q.2)
    simp only [Option.map_some, Option.getD_some]
    rw [@String.append_assoc (q.1 ++ ": ")] at hRest ⊢
    exact parameterIn_android hWord hNe hRest

theorem reads_async (h : c.Readable) (hAsync : c.isAsync = true) :
    Reads keep .android (asyncLines c) [.wrapper c.wrapper] := by
  have hFunction : Mentions (lineMarks .android) ("    suspend fun " ++ c.identifier ++ "(")
      c.identifier [(.suspended, [])] := .start h.identifier (by decide)
  have hParameter : parameterIn .android (parameterText c ++ "): Result<Unit> =") =
      c.parameter.map (·.1) :=
    parameterIn_parameterText h (by decide) fun s => append_ne_of_clashes (by decide)
  have hHead : ∀ below, readLine .android
      ("    suspend fun " ++ c.identifier ++ "(" ++ parameterText c ++ "): Result<Unit> =") below =
        [.wrapper c.wrapper] := by
    intro below
    have hRead := hFunction (parameterText c ++ "): Result<Unit> =")
    rw [← String.append_assoc] at hRead
    rw [readLine, hRead]
    simp [itemsOf, CommandView.wrapper, hAsync, hParameter]
  have hContext : Unmarked (lineMarks .android) "        withContext(" := .literal (by decide)
  have hCall : Mentions (lineMarks .android)
      ("                source." ++ c.name ++ ".executeAsync(") c.name [] :=
    .start h.name (by decide)
  exact .read hHead <| .skip ((hContext.more _).more _).mentions_eq <| .skip (by decide) <|
    .skip (((Unmarked.of_mentions hCall).more _).more _).mentions_eq <| .silent (by decide)

theorem unmarked_callText (c : CommandView) : Unmarked (lineMarks .android) (callText c) :=
  ((((Unmarked.literal (by decide)).more _).more _).more _).more _

/-- What follows the opening bracket in a function on the main thread. -/
theorem parameterIn_main (h : c.Readable) :
    parameterIn .android
      ((if c.parameter.isSome then parameterText c ++ ", " else "") ++ onlyResult) =
        c.parameter.map (·.1) := by
  cases hParameter : c.parameter with
  | none =>
    simp only [Option.isSome_none, Bool.false_eq_true, if_false, String.empty_append]
    decide
  | some q =>
    obtain ⟨hWord, hNe⟩ := h.parameter q (by simp [hParameter])
    have hText : parameterText c ++ ", " ++ onlyResult =
        q.1 ++ ": " ++ (q.2 ++ ", " ++ onlyResult) := by
      simp [parameterText, hParameter, String.append_assoc]
    have hLonger : q.1 ++ ": " ++ (q.2 ++ ", " ++ onlyResult) ≠ onlyResult := by
      intro hSame
      have hLength := congrArg String.length hSame
      simp only [String.length_append] at hLength
      have hColon : ": ".length = 2 := rfl
      omega
    simp only [Option.isSome_some, if_true, hText, Option.map_some]
    exact parameterIn_android hWord hNe hLonger

theorem reads_main (h : c.Readable) (hAsync : c.isAsync = false) :
    Reads keep .android (mainLines c) [.wrapper c.wrapper] := by
  have hFunction : Mentions (lineMarks .android) ("    fun " ++ c.identifier ++ "(") c.identifier
      [(.function, [])] := .start h.identifier (by decide)
  have hHead := readLine_function hFunction
    ((if c.parameter.isSome then parameterText c ++ ", " else "") ++ onlyResult)
    "        viewModelScope.launch(Dispatchers.Main) \x7b"
  have hStarts : startsBody "        viewModelScope.launch(Dispatchers.Main) \x7b" = true := by
    decide
  rw [← String.append_assoc, if_pos hStarts, String.ofList_nil, String.empty_append,
    parameterIn_main h] at hHead
  have hResult : Unmarked (lineMarks .android) "            onResult(" := .literal (by decide)
  have hBody : Reads keep .android
      ["        viewModelScope.launch(Dispatchers.Main) \x7b",
        "            onResult(" ++ callText c ++ ")",
        "        \x7d",
        "    \x7d"] [] :=
    .skip (by decide) <| .skip ((hResult.more _).more _).mentions_eq <| .silent (by decide)
  simpa [mainLines, onlyResult, CommandView.wrapper, hAsync] using Reads.above hHead hBody

theorem reads_inline (h : c.Readable) (hAsync : c.isAsync = false) :
    Reads keep .android (inlineLines c) [.wrapper c.wrapper] := by
  have hFunction : Mentions (lineMarks .android) ("    fun " ++ c.identifier ++ "(") c.identifier
      [(.function, [])] := .start h.identifier (by decide)
  have hParameter : parameterIn .android (parameterText c ++ "): Result<Unit> =") =
      c.parameter.map (·.1) :=
    parameterIn_parameterText h (by decide) fun s => append_ne_of_clashes (by decide)
  have hStarts : startsBody ("        " ++ callText c) = true := by
    rw [startsBody_indent (by decide)]
    unfold callText
    rw [String.append_assoc, String.append_assoc, String.append_assoc]
    exact startsBody_literal (by decide)
  have hHead := readLine_function hFunction (parameterText c ++ "): Result<Unit> =")
    ("        " ++ callText c)
  rw [← String.append_assoc, if_pos hStarts, String.ofList_nil, String.empty_append,
    hParameter] at hHead
  have hBody : Reads keep .android ["        " ++ callText c] [] :=
    .skip ((unmarked_callText c).indent (by decide)).mentions_eq .nil
  simpa [inlineLines, CommandView.wrapper, hAsync] using Reads.above hHead hBody

theorem reads_command (h : c.Readable) :
    Reads keep .android (commandLines c) [.wrapper c.wrapper] := by
  have hWrapper : Reads keep .android _ [.wrapper c.wrapper] :=
    .dispatched (reads_async h) (reads_main h) (reads_inline h)
  exact ((Reads.skip (mentions_blank _) .nil).append (reads_notes c.warning none)).append hWrapper

/-! ## All lines -/

theorem reads_opening (c : Content) : Reads keep .android (openingLines c) [] := by
  have hPackage : Unmarked (lineMarks .android) "package " := .literal (by decide)
  have hImport : Unmarked (lineMarks .android) "import " := .literal (by decide)
  have hClass : Unmarked (lineMarks .android) "class " := .literal (by decide)
  have hSource : Unmarked (lineMarks .android) "    private val source: " := .literal (by decide)
  have hImports : ∀ line ∈ c.imports.items.map ("import " ++ ·),
      mentions (lineMarks .android) line = [] := by
    simp only [List.forall_mem_map]
    exact fun s _ => (hImport.more s).mentions_eq
  refine .silent ?_
  simp only [openingLines, List.forall_mem_append, List.forall_mem_cons]
  exact ⟨⟨⟨(hPackage.more _).mentions_eq, by decide, by simp⟩, hImports⟩, by decide,
    ((hClass.more _).more _).mentions_eq, (hSource.more _).mentions_eq, by decide, by simp⟩

/-- What the lines behind the header say. -/
theorem reads_lines {c : Content} (h : c.Readable keep) :
    Reads keep .android (lines c) (c.properties.flatMap (·.declaredItems) ++ c.accessorItems ++
      c.bindingItems ++ c.wrapperItems) := by
  have hDeclared : Reads keep .android (c.properties.flatMap propertyLines)
      (c.properties.flatMap (·.declaredItems)) :=
    .flatMap fun p hp => reads_property (h.properties p hp)
  have hAccessors : Reads keep .android
      ((c.commands.filter (·.exposesCanExecute)).flatMap canExecuteLines) c.accessorItems :=
    .each fun q hq => reads_canExecute (h.commands q (List.mem_filter.1 hq).1)
  have hBindings : Reads keep .android (if c.properties.isEmpty then [] else initLines c)
      c.bindingItems := by
    split
    · rename_i hEmpty
      rw [Content.bindingItems_of_isEmpty hEmpty]
      exact .nil
    · exact reads_init h.properties
  have hWrappers : Reads keep .android (c.commands.flatMap commandLines)
      c.wrapperItems := .each fun q hq => reads_command (h.commands q hq)
  have hClosing : Reads keep .android closingLines [] := .silent (by decide)
  simpa [lines] using
    ((((reads_opening c).append hDeclared).append hAccessors).append hBindings).append
      (hWrappers.append hClosing)

end Kotlin
end ViewAdapters
