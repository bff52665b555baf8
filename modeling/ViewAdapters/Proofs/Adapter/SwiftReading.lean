import ViewAdapters.Proofs.Adapter.MarkedLines

/-!
# Reading of Swift adapters

What the lines of a Swift adapter say of the members that are shown, part by part.

* `Swift.reads_declaration`, `Swift.reads_command`, `Swift.reads_bindings`: the parts that say
  something.
* `Swift.reads_lines`: all lines behind the header.
-/

namespace ViewAdapters

/-! ## Parameters and endings of functions -/

/-- Behind the underscore stands the name of the parameter. -/
theorem parameterIn_ios {name r : String} (hName : IsWord name) (hNe : name ≠ "") :
    parameterIn .ios ("_ " ++ name ++ ": " ++ r) = some name := by
  have hBreak : ": ".toList.head?.any (!Target.isWordPart ·) = true := by decide
  have hDrop : ("_ " ++ name ++ ": " ++ r).toList.dropPrefix? "_ ".toList =
      some (name.toList ++ (": ".toList ++ r.toList)) := by
    simp only [String.toList_append, List.append_assoc, dropPrefix?_append]
  have hEmpty : name.toList.isEmpty = false := by
    simpa [List.isEmpty_eq_false_iff] using hNe
  simp only [parameterIn, hDrop, Option.map_some, (takeWhile_word hName hBreak).1,
    Option.bind_some, hEmpty, String.ofList_toList, Bool.false_eq_true, if_false]

theorem parameterIn_ios_of_clashes {cs : List Char} {s : String}
    (h : clashes cs "_ ".toList = true) : parameterIn .ios (String.ofList cs ++ s) = none := by
  simp only [parameterIn, String.toList_append, String.toList_ofList, dropPrefix?_of_clashes h,
    Option.map_none, Option.bind_none]

/-- An asynchronous wrapper is told by the end of its first line. -/
theorem isAsyncIn_ending (s : String) : isAsyncIn (s ++ asyncEnding) = true := by
  rw [isAsyncIn, String.toList_append]
  exact List.isSuffixOf_iff_suffix.2 (List.suffix_append _ _)

theorem isAsyncIn_of_clashes {s t : String}
    (h : clashes asyncEnding.toList.reverse t.toList.reverse = true) :
    isAsyncIn (s ++ t) = false := by
  rw [Bool.eq_false_iff]
  intro hSuffix
  obtain ⟨r, hSplit⟩ := List.isSuffixOf_iff_suffix.1 hSuffix
  have hReversed := congrArg List.reverse hSplit
  rw [String.toList_append, List.reverse_append, List.reverse_append] at hReversed
  exact ne_of_clashes (clashes_append h) hReversed

namespace Swift

variable {keep : LineItem → Bool} {p : PropertyView} {c : CommandView}

/-! ## Properties -/

/-- A warning says nothing about the members. -/
theorem mentions_warning (warning : Option String) :
    ∀ line ∈ (warning.map ("    // WARNING: " ++ ·)).toList,
      mentions (lineMarks .ios) line = [] := by
  have hComment : Unmarked (lineMarks .ios) "    // WARNING: " := .literal (by decide)
  simp only [Option.mem_toList, Option.map_eq_some_iff]
  rintro _ ⟨s, -, rfl⟩
  exact (hComment.more s).mentions_eq

/-- The declaration of a property says its container and its accessor. -/
theorem reads_declaration (h : p.Readable keep) :
    Reads keep .ios (declarationLines p) p.declaredItems := by
  have hComment : Unmarked (lineMarks .ios) "    // " := .literal (by decide)
  have hNote : ∀ line ∈ (p.batchNote.map ("    // " ++ ·)).toList,
      mentions (lineMarks .ios) line = [] := by
    simp only [Option.mem_toList, Option.map_eq_some_iff]
    rintro _ ⟨s, -, rfl⟩
    exact (hComment.more s).mentions_eq
  have hDeclares : Gives .ios ("    @Published " ++
      (if p.isTwoWay then "var " else "private(set) var ") ++ p.identifier ++ ": ")
      p.declaredItems := by
    split
    · have hVariable : Mentions (lineMarks .ios) ("    @Published var " ++ p.identifier ++ ": ")
          p.identifier [(.container, []), (.published, [])] := .start h.identifier (by decide)
      exact .of_mentions hVariable fun _ _ => rfl
    · have hVariable : Mentions (lineMarks .ios)
          ("    @Published private(set) var " ++ p.identifier ++ ": ")
          p.identifier [(.container, []), (.published, [])] := .start h.identifier (by decide)
      exact .of_mentions hVariable fun _ _ => rfl
  exact ((Reads.silent (mentions_warning p.warning)).append (.silent hNote)).append
    (.give (hDeclares.more _) .nil)

/-- An assignment to a property of the adapter is none to the source. -/
theorem unmarked_assignment {cs : List Char} (h : p.Readable keep)
    (hSelf : lineHits? (lineMarks .ios) cs " = ".toList = some []) :
    Unmarked (lineMarks .ios) (String.ofList cs ++ p.identifier ++ " = ") :=
  .of_mentions (.start h.identifier hSelf)

theorem reads_storage (c : Content) : Reads keep .ios (storageLines c) [] := by
  have hSource : Unmarked (lineMarks .ios) "    private let source: " := .literal (by decide)
  have hFirst : Reads keep .ios (if c.properties.isEmpty then [] else [""]) [] := by
    split
    · exact .nil
    · exact .skip (mentions_blank _) .nil
  have hFlag : Reads keep .ios (if c.twoWayProperties.isEmpty then []
      else ["    private var isApplyingSourceChange = false"]) [] := by
    split
    · exact .nil
    · exact .silent (by decide)
  have hStored : Reads keep .ios
      ["    private let source: " ++ c.sourceType,
        "    private var cancellables = Set<AnyCancellable>()"] [] :=
    .skip (hSource.more _).mentions_eq <| .silent (by decide)
  exact (hFirst.append hStored).append hFlag

/-- The initializer says nothing that the bindings do not say. -/
theorem reads_init {c : Content} (h : ∀ p ∈ c.properties, p.Readable keep) :
    Reads keep .ios (initLines c) [] := by
  have hInit : Unmarked (lineMarks .ios) "    init(source: " := .literal (by decide)
  have hStart : Reads keep .ios
      ["",
        "    init(source: " ++ c.sourceType ++ ") \x7b",
        "        self.source = source"] [] :=
    .skip (mentions_blank _) <| .skip ((hInit.more _).more _).mentions_eq <| .silent (by decide)
  have hSeeds :
      ∀ line ∈ c.properties.map (fun p => "        self." ++ p.identifier ++ " = " ++ p.seed),
        mentions (lineMarks .ios) line = [] := by
    simp only [List.forall_mem_map]
    exact fun p hp => ((unmarked_assignment (h p hp) (by decide)).more _).mentions_eq
  have hSetup : Reads keep .ios
      (if c.properties.isEmpty then [] else ["        setupBindings()"]) [] := by
    split
    · exact .nil
    · exact .silent (by decide)
  have hEnd : Reads keep .ios ["    \x7d"] [] := .silent (by decide)
  exact ((hStart.append (.silent hSeeds)).append hSetup).append hEnd

/-! ## Commands -/

theorem reads_canExecute (h : c.Readable) :
    Reads keep .ios (canExecuteLines c) [.accessor c.canName] := by
  have hAccessor : Mentions (lineMarks .ios) ("    var " ++ c.canName ++ ": Bool \x7b") c.canName
      [(.accessor, [])] := .start h.canName (by decide)
  have hTells : Gives .ios ("    var " ++ c.canName ++ ": Bool \x7b") [.accessor c.canName] :=
    .of_mentions hAccessor fun _ _ => rfl
  have hSource : Mentions (lineMarks .ios) ("        source." ++ c.name ++ ".canExecute()") c.name
      [] := .start h.name (by decide)
  exact .skip (mentions_blank _) <| .give hTells <| .skip hSource.mentions_eq <| .silent (by decide)

theorem parameterIn_parameterText (h : c.Readable) {cs : List Char}
    (hClosing : clashes cs "_ ".toList = true) :
    parameterIn .ios (parameterText c ++ String.ofList cs) = c.parameter.map (·.1) := by
  unfold parameterText
  cases hParameter : c.parameter with
  | none =>
    have hNone := parameterIn_ios_of_clashes (s := "") hClosing
    simpa using hNone
  | some q =>
    obtain ⟨hWord, hNe⟩ := h.parameter q (by simp [hParameter])
    simp only [Option.map_some, Option.getD_some]
    rw [@String.append_assoc ("_ " ++ q.1 ++ ": ")]
    exact parameterIn_ios hWord hNe

/-- A function is a wrapper, with what follows its name in the line. -/
theorem readLine_function {head name : String}
    (h : Mentions (lineMarks .ios) head name [(.function, [])]) (more below : String) :
    readLine .ios (head ++ more) below =
      [.wrapper ⟨name, isAsyncIn more, parameterIn .ios more⟩] := by
  rw [readLine, h more]
  simp [itemsOf]

theorem mentions_head (h : c.Readable) :
    Mentions (lineMarks .ios) ("    func " ++ c.identifier ++ "(") c.identifier [(.function, [])] :=
  .start h.identifier (by decide)

theorem reads_async (h : c.Readable) (hAsync : c.isAsync = true) :
    Reads keep .ios (asyncLines c) [.wrapper c.wrapper] := by
  have hParameter : parameterIn .ios (parameterText c ++ ") async -> Result<Void, Error> \x7b") =
      c.parameter.map (·.1) := parameterIn_parameterText h (by decide)
  have hSuspends : isAsyncIn (parameterText c ++ ") async -> Result<Void, Error> \x7b") = true := by
    have hEnding := isAsyncIn_ending (parameterText c ++ ")")
    rwa [String.append_assoc] at hEnding
  have hHead := readLine_function (mentions_head h)
    (parameterText c ++ ") async -> Result<Void, Error> \x7b")
  simp only [← String.append_assoc, hParameter, hSuspends] at hHead
  have hTask : Reads keep .ios (taskLines c.dispatch) [] := by
    unfold taskLines
    split
    · exact .silent (by decide)
    · exact .silent (by decide)
  have hCall : Unmarked (lineMarks .ios) "                try await source." := .literal (by decide)
  have hBody : Reads keep .ios
      ["            do \x7b",
        "                try await source." ++ c.name ++ ".executeAsync(" ++ c.argument ++ ")",
        "                return .success(())",
        "            \x7d catch \x7b",
        "                return .failure(error)",
        "            \x7d",
        "        \x7d.value",
        "    \x7d"] [] :=
    .skip (by decide) <| .skip ((((hCall.more _).more _).more _).more _).mentions_eq <|
      .silent (by decide)
  simpa [asyncLines, CommandView.wrapper, hAsync] using
    ((Reads.read hHead .nil).append hTask).append hBody

theorem unmarked_callText (c : CommandView) : Unmarked (lineMarks .ios) (callText c) :=
  ((((Unmarked.literal (by decide)).more _).more _).more _).more _

/-- The last parameter of a function on the main thread, and what follows it. -/
def completionText : String :=
  "completion: @escaping (Result<Void, Error>) -> Void = \x7b _ in \x7d) \x7b"

/-- The completion of a wrapper is not read as its parameter. -/
theorem parameterIn_main (h : c.Readable) :
    parameterIn .ios
      ((if c.parameter.isSome then parameterText c ++ ", " else "") ++ completionText) =
        c.parameter.map (·.1) := by
  cases hParameter : c.parameter with
  | none =>
    simp only [Option.isSome_none, Bool.false_eq_true, if_false, String.empty_append]
    decide
  | some q =>
    obtain ⟨hWord, hNe⟩ := h.parameter q (by simp [hParameter])
    simp only [Option.isSome_some, if_true, parameterText, hParameter, Option.map_some,
      Option.getD_some]
    rw [String.append_assoc, @String.append_assoc ("_ " ++ q.1 ++ ": ")]
    exact parameterIn_ios hWord hNe

theorem reads_main (h : c.Readable) (hAsync : c.isAsync = false) :
    Reads keep .ios (mainLines c) [.wrapper c.wrapper] := by
  have hSuspends : isAsyncIn
      ((if c.parameter.isSome then parameterText c ++ ", " else "") ++ completionText) = false :=
    isAsyncIn_of_clashes (by decide)
  have hHead := readLine_function (mentions_head h)
    ((if c.parameter.isSome then parameterText c ++ ", " else "") ++ completionText)
  simp only [parameterIn_main h, hSuspends] at hHead
  have hBody : Reads keep .ios
      ["        DispatchQueue.main.async \x7b [source] in",
        "            completion(" ++ callText c ++ ")",
        "        \x7d",
        "    \x7d"] [] := by
    have hCompletes : Unmarked (lineMarks .ios) "            completion(" := .literal (by decide)
    exact .skip (by decide) <| .skip ((hCompletes.more _).more _).mentions_eq <|
      .silent (by decide)
  simpa [mainLines, completionText, String.append_assoc, CommandView.wrapper, hAsync] using
    Reads.read hHead hBody

theorem reads_inline (h : c.Readable) (hAsync : c.isAsync = false) :
    Reads keep .ios (inlineLines c) [.wrapper c.wrapper] := by
  have hParameter : parameterIn .ios (parameterText c ++ ") -> Result<Void, Error> \x7b") =
      c.parameter.map (·.1) := parameterIn_parameterText h (by decide)
  have hSuspends : isAsyncIn (parameterText c ++ ") -> Result<Void, Error> \x7b") = false :=
    isAsyncIn_of_clashes (by decide)
  have hHead := readLine_function (mentions_head h)
    (parameterText c ++ ") -> Result<Void, Error> \x7b")
  simp only [← String.append_assoc, hParameter, hSuspends] at hHead
  have hBody : Reads keep .ios ["        " ++ callText c, "    \x7d"] [] :=
    .skip ((unmarked_callText c).indent (by decide)).mentions_eq <| .silent (by decide)
  simpa [inlineLines, CommandView.wrapper, hAsync] using Reads.read hHead hBody

/-- The lines of a command say its wrapper once, whichever thread it runs on. -/
theorem reads_command (h : c.Readable) : Reads keep .ios (commandLines c) [.wrapper c.wrapper] := by
  have hWrapper : Reads keep .ios _ [.wrapper c.wrapper] :=
    .dispatched (reads_async h) (reads_main h) (reads_inline h)
  exact ((Reads.skip (mentions_blank _) .nil).append (.silent (mentions_warning c.warning))).append
    hWrapper

/-! ## Bindings -/

/-- A case says which property it updates. -/
theorem reads_changedCase (h : p.Readable keep) :
    Reads keep .ios (changedCase p) [.changed p.name] := by
  have hCase : Mentions (lineMarks .ios) ("                    case \"" ++ p.name ++ "\":") p.name
      [(.changed, [])] := .start h.name (by decide)
  have hHandles : Gives .ios ("                    case \"" ++ p.name ++ "\":") [.changed p.name] :=
    .of_mentions hCase fun _ _ => rfl
  exact .give hHandles <| .skip ((unmarked_assignment h (by decide)).more _).mentions_eq .nil

/-- A listener says which collection it listens to. -/
theorem reads_listener (h : p.Readable keep) :
    Reads keep .ios (collectionListener p) [.listener p.name] := by
  have hSource : Mentions (lineMarks .ios) ("        source." ++ p.name ++ ".CollectionChanged")
      p.name [(.listener, [])] := .start h.name (by decide)
  have hListens : Gives .ios ("        source." ++ p.name ++ ".CollectionChanged")
      [.listener p.name] := .of_mentions hSource fun _ _ => rfl
  exact .skip (mentions_blank _) <| .give hListens <| .skip (by decide) <| .skip (by decide) <|
    .skip (by decide) <| .skip ((unmarked_assignment h (by decide)).more _).mentions_eq <|
    .silent (by decide)

theorem startsAtSource : StartsAtSource .ios "                self.source.".toList := by
  constructor <;> decide

/-- A write-back says what is written and what is called behind it. -/
theorem reads_writeBack (h : p.Readable keep) :
    Reads keep .ios (writeBackLines p) [.writeBack p.writeBack] := by
  have hPublisher : Unmarked (lineMarks .ios) "        $" := .literal (by decide)
  have hEnd : Reads keep .ios ["            \x7d", "            .store(in: &cancellables)"] [] :=
    .silent (by decide)
  have hWritten : Reads keep .ios
      (["                self.source." ++ p.name ++ " = " ++ p.toSource] ++
        (afterWriteLines p.afterWrite ++
          ["            \x7d", "            .store(in: &cancellables)"]))
      [.writeBack p.writeBack] :=
    reads_written startsAtSource h rfl (fun _ => rfl) rfl (by decide) (by decide) (by decide) hEnd
  exact .skip (mentions_blank _) <| .skip (hPublisher.more _).mentions_eq <| .skip (by decide) <|
    .skip (by decide) <| .skip (by decide) hWritten

/-- The bindings say all cases, then all listeners and write-backs. -/
theorem reads_bindings {c : Content} (h : ∀ p ∈ c.properties, p.Readable keep) :
    Reads keep .ios (bindingLines c) c.bindingItems := by
  have hCases : Reads keep .ios (c.properties.flatMap changedCase)
      (c.properties.map (.changed ·.name)) :=
    .each fun p hp => reads_changedCase (h p hp)
  have hListeners : Reads keep .ios (c.collections.flatMap collectionListener)
      (c.collections.map (.listener ·.name)) :=
    .each fun p hp => reads_listener (h p (List.mem_filter.1 hp).1)
  have hWriteBacks : Reads keep .ios (c.twoWayProperties.flatMap writeBackLines)
      (c.twoWayProperties.map (.writeBack ·.writeBack)) :=
    .each fun p hp => reads_writeBack (h p (List.mem_filter.1 hp).1)
  have hStart : Reads keep .ios
      ["",
        "    private func setupBindings() \x7b",
        "        source.PropertyChanged",
        "            .subscribe \x7b [weak self] args in",
        "                Task \x7b @MainActor in",
        "                    guard let self = self else \x7b return \x7d"] [] := .silent (by decide)
  have hGuard : Reads keep .ios (if c.twoWayProperties.isEmpty then [] else guardLines) [] := by
    split
    · exact .nil
    · exact .silent (by decide)
  have hSwitch : Reads keep .ios ["                    switch args.PropertyName \x7b"] [] :=
    .silent (by decide)
  have hDefault : Reads keep .ios
      ["                    default:",
        "                        break",
        "                    \x7d",
        "                \x7d",
        "            \x7d",
        "            .store(in: &cancellables)"] [] := .silent (by decide)
  have hEnd : Reads keep .ios ["    \x7d"] [] := .silent (by decide)
  simpa [bindingLines, Content.bindingItems] using
    ((((((hStart.append hGuard).append hSwitch).append hCases).append hDefault).append
      hListeners).append hWriteBacks).append hEnd

/-! ## All lines -/

theorem reads_opening (c : Content) : Reads keep .ios (openingLines c) [] := by
  have hImport : Unmarked (lineMarks .ios) "import " := .literal (by decide)
  have hClass : Unmarked (lineMarks .ios) "final class " := .literal (by decide)
  have hImports : ∀ line ∈ c.imports.items.map ("import " ++ ·),
      mentions (lineMarks .ios) line = [] := by
    simp only [List.forall_mem_map]
    exact fun s _ => (hImport.more s).mentions_eq
  exact (Reads.silent hImports).append <| .skip (mentions_blank _) <|
    .skip ((hClass.more _).more _).mentions_eq .nil

/-- What the lines behind the header say. -/
theorem reads_lines {c : Content} (h : c.Readable keep) :
    Reads keep .ios (lines c) (c.properties.flatMap (·.declaredItems) ++ c.accessorItems ++
      c.wrapperItems ++ c.bindingItems) := by
  have hDeclared : Reads keep .ios (c.properties.flatMap declarationLines)
      (c.properties.flatMap (·.declaredItems)) :=
    .flatMap fun p hp => reads_declaration (h.properties p hp)
  have hAccessors : Reads keep .ios
      ((c.commands.filter (·.exposesCanExecute)).flatMap canExecuteLines) c.accessorItems :=
    .each fun q hq => reads_canExecute (h.commands q (List.mem_filter.1 hq).1)
  have hWrappers : Reads keep .ios (c.commands.flatMap commandLines)
      c.wrapperItems := .each fun q hq => reads_command (h.commands q hq)
  have hBindings : Reads keep .ios (if c.properties.isEmpty then [] else bindingLines c)
      c.bindingItems := by
    split
    · rename_i hEmpty
      rw [Content.bindingItems_of_isEmpty hEmpty]
      exact .nil
    · exact reads_bindings h.properties
  have hClosing : Reads keep .ios closingLines [] := .silent (by decide)
  simpa [lines] using
    ((((((reads_opening c).append hDeclared).append (reads_storage c)).append
      (reads_init h.properties)).append hAccessors).append hWrappers).append
      (hBindings.append hClosing)

end Swift
end ViewAdapters
