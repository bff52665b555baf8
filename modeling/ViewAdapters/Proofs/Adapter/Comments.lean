import ViewAdapters.Metadata.Reader
import ViewAdapters.Proofs.Adapter.TextStructure
import ViewAdapters.Proofs.Text.Marks

/-!
# Comments of adapters

Warnings are notes: they are written behind the marks of comments, in the header by the names of
their members and in the body by their texts. A warning of several lines leaves its comment behind
its first line.

* `AddsCode`: lines have the code of others and some more.
* `Content.addsCode_lines`: what warnings add to the code of an adapter.
* `Backend.comments_of_generate`: the header is a comment, and warnings add no code exactly if
  their lines behind the first are none.
* `Backend.warning_addsCode`: a document whose warning adds code.
-/

namespace ViewAdapters

/-! ## Code -/

namespace Text

/-- Whether a line is a comment behind its indentation. -/
def isComment (line : String) : Bool := "//".toList.isPrefixOf (trimStartChars line.toList)

/-- Whether a line has a text that is no comment. -/
def isCode (line : String) : Bool := !(trimStartChars line.toList).isEmpty && !isComment line

/-- The lines of a text that are code. -/
def codeLines (s : String) : List String := (lines s).filter isCode

/-- The code of a text behind its first line. -/
def laterCode (s : String) : List String := (lines s).tail.filter isCode

end Text

/-- The code of the text that is made from lines. -/
def codeOf (ls : List String) : List String := ls.flatMap Text.codeLines

section Code

variable {s : String} {cs : List Char}

/-- The code of lines behind each other is that of both. -/
theorem codeOf_append (ls ls' : List String) : codeOf (ls ++ ls') = codeOf ls ++ codeOf ls' :=
  List.flatMap_append

/-- A text of lines has the code of the lines, whether or not they hold line breaks. -/
theorem Text.codeLines_textOfLines (ls : List String) : codeLines (textOfLines ls) = codeOf ls := by
  have hEnd : [""].filter isCode = [] := by decide
  rw [codeLines, lines_textOfLines, List.filter_append, hEnd, List.append_nil, codeOf,
    List.filter_flatMap]
  rfl

/-- What follows a literal on its line belongs to that line. -/
theorem Text.lines_ofList_append (hFeed : '\n' ∉ cs) (s : String) :
    ∃ first rest, lines s = first :: rest ∧
      lines (String.ofList cs ++ s) = (String.ofList cs ++ first) :: rest := by
  obtain ⟨first, rest, hSplit⟩ : ∃ first rest, s.toList.splitOn '\n' = first :: rest :=
    List.exists_cons_of_ne_nil (List.splitOn_ne_nil _ _)
  have hWhole : (cs ++ s.toList).splitOn '\n' = (cs ++ first) :: rest := by
    induction cs with
    | nil => exact hSplit
    | cons c cs ih =>
      rw [List.mem_cons, not_or] at hFeed
      have hOther : (c == '\n') = false := beq_eq_false_iff_ne.2 (Ne.symm hFeed.1)
      rw [List.cons_append, List.splitOn_cons_eq_if_modifyHead, ih hFeed.2, hOther]
      rfl
  refine ⟨String.ofList first, rest.map String.ofList, by rw [lines, hSplit]; rfl, ?_⟩
  rw [lines, String.toList_append, String.toList_ofList, hWhole, List.map_cons,
    String.ofList_append]

theorem Text.isComment_of_isPrefixOf (h : "//".toList.isPrefixOf s.toList = true) :
    isComment s = true := by
  obtain ⟨rest, hRest⟩ := List.isPrefixOf_iff_prefix.1 h
  have hTrim : trimStartChars s.toList = s.toList := by
    rw [← hRest]
    exact trimStartChars_cons (by decide)
  rwa [isComment, hTrim]

/-- What follows a comment mark in a line is part of the comment. -/
theorem Text.isComment_ofList_append (h : "//".toList.isPrefixOf (trimStartChars cs) = true)
    (s : String) : isComment (String.ofList cs ++ s) = true := by
  have hLead : trimStartChars cs ≠ [] := by
    intro hNil
    rw [hNil] at h
    contradiction
  have hTrim : trimStartChars (String.ofList cs ++ s).toList = trimStartChars cs ++ s.toList := by
    rw [String.toList_append, String.toList_ofList, Text.trimStartChars_append hLead]
  rw [isComment, hTrim]
  exact isPrefixOf_append h _

/-- A comment has the code of its text behind the first line. -/
theorem Text.codeLines_comment (hFeed : '\n' ∉ cs)
    (h : "//".toList.isPrefixOf (trimStartChars cs) = true) (s : String) :
    codeLines (String.ofList cs ++ s) = laterCode s := by
  obtain ⟨first, rest, hLines, hWhole⟩ := lines_ofList_append hFeed s
  have hFirst : isCode (String.ofList cs ++ first) = false := by
    rw [isCode, isComment_ofList_append h]
    simp
  rw [codeLines, laterCode, hWhole, hLines, List.filter_cons, hFirst]
  rfl

end Code

/-- Lines have the code of others and some more. -/
structure AddsCode (more ls ls' : List String) : Prop where
  sublist : (codeOf ls').Sublist (codeOf ls)
  length : (codeOf ls).length = (codeOf ls').length + more.length

namespace AddsCode

variable {more more' ls ls' ks ks' : List String}

theorem of_eq (h : codeOf ls = codeOf ls') : AddsCode [] ls ls' :=
  ⟨h ▸ List.Sublist.refl _, congrArg List.length h⟩

theorem refl (ls : List String) : AddsCode [] ls ls := .of_eq rfl

/-- Lines with only the code that is added add it to nothing. -/
theorem of_codeOf (h : codeOf ls = more) : AddsCode more ls [] :=
  ⟨List.nil_sublist _, by rw [h, codeOf, List.flatMap_nil, List.length_nil, Nat.zero_add]⟩

theorem append (h : AddsCode more ls ls') (h' : AddsCode more' ks ks') :
    AddsCode (more ++ more') (ls ++ ks) (ls' ++ ks') := by
  refine ⟨?_, ?_⟩
  · rw [codeOf_append, codeOf_append]
    exact h.sublist.append h'.sublist
  · simp only [codeOf_append, List.length_append, h.length, h'.length]
    omega

theorem before (ks : List String) (h : AddsCode more ls ls') :
    AddsCode more (ks ++ ls) (ks ++ ls') :=
  (refl ks).append h

theorem behind (h : AddsCode more ls ls') (ks : List String) :
    AddsCode more (ls ++ ks) (ls' ++ ks) := by
  simpa using h.append (.refl ks)

/-- Lines that come from items add what each item adds. -/
theorem flatMap {α : Type} {xs : List α} {more f g : α → List String}
    (h : ∀ x ∈ xs, AddsCode (more x) (f x) (g x)) :
    AddsCode (xs.flatMap more) (xs.flatMap f) (xs.flatMap g) := by
  induction xs with
  | nil => exact .refl []
  | cons x xs ih =>
    rw [List.forall_mem_cons] at h
    exact h.1.append (ih h.2)

/-- Code is the same exactly if there is no more of it. -/
theorem eq_iff (h : AddsCode more ls ls') : codeOf ls = codeOf ls' ↔ more = [] := by
  constructor
  · intro hSame
    have hLength := h.length
    rw [hSame] at hLength
    exact List.length_eq_zero_iff.1 (by omega)
  · rintro rfl
    exact (h.sublist.eq_of_length h.length.symm).symm

end AddsCode

/-! ## Members without warnings -/

def Property.withoutWarning (p : Property) : Property := { p with warning := none }

def Command.withoutWarning (c : Command) : Command := { c with warning := none }

def ViewModel.withoutWarnings (v : ViewModel) : ViewModel :=
  { v with
    properties := v.properties.map (·.withoutWarning)
    commands := v.commands.map (·.withoutWarning) }

/-- The warnings that an adapter shows. -/
def ViewModel.shownWarnings (v : ViewModel) (platform : Platform) : List String :=
  (v.propertiesFor platform).filterMap (shown ·.warning) ++
    (v.commandsFor platform).filterMap (shown ·.warning)

def PropertyView.withoutWarning (p : PropertyView) : PropertyView :=
  { p with declaredWarning := none }

def CommandView.withoutWarning (c : CommandView) : CommandView :=
  { c with declaredWarning := none }

namespace Content

def withoutWarnings (c : Content) : Content :=
  { c with
    viewModel := c.viewModel.withoutWarnings
    properties := c.properties.map (·.withoutWarning)
    commands := c.commands.map (·.withoutWarning) }

/-- The code that warnings bring into the body of an adapter. -/
def warningCode (c : Content) : List String :=
  (c.properties.flatMap fun p => p.warning.toList.flatMap Text.laterCode) ++
    c.commands.flatMap fun d => d.warning.toList.flatMap Text.laterCode

end Content

/-! ## Bodies of adapters -/

/-- The comment of a warning adds the code of its later lines. -/
theorem addsCode_warning (warning : Option String) :
    AddsCode (warning.toList.flatMap Text.laterCode)
      (warning.map ("    // WARNING: " ++ ·)).toList [] := by
  refine .of_codeOf ?_
  cases warning with
  | none => rfl
  | some w =>
    have hCode : Text.codeLines ("    // WARNING: " ++ w) = Text.laterCode w :=
      Text.codeLines_comment (by decide) (by decide) w
    simpa [codeOf] using hCode

theorem Content.properties_withoutWarnings (c : Content) :
    c.withoutWarnings.properties = c.properties.map (·.withoutWarning) := rfl

theorem Content.twoWayProperties_withoutWarnings (c : Content) :
    c.withoutWarnings.twoWayProperties = c.twoWayProperties.map (·.withoutWarning) :=
  List.filter_map

theorem Content.collections_withoutWarnings (c : Content) :
    c.withoutWarnings.collections = c.collections.map (·.withoutWarning) :=
  List.filter_map

theorem Content.isEmpty_withoutWarnings (c : Content) :
    c.withoutWarnings.properties.isEmpty = c.properties.isEmpty :=
  List.isEmpty_map

/-- Lines that show no warning are the same without warnings. -/
theorem Content.flatMap_exposing_withoutWarnings {f : CommandView → List String}
    (h : ∀ d : CommandView, f d.withoutWarning = f d) (c : Content) :
    (c.withoutWarnings.commands.filter (·.exposesCanExecute)).flatMap f =
      (c.commands.filter (·.exposesCanExecute)).flatMap f := by
  have hExposing : c.withoutWarnings.commands.filter (·.exposesCanExecute) =
      (c.commands.filter (·.exposesCanExecute)).map (·.withoutWarning) := List.filter_map
  rw [hExposing, List.flatMap_map]
  simp only [h]

/-- Two contents have the same lines in the parts of bodies that show no warnings. -/
structure Content.SameSilentLines (c d : Content) : Prop where
  kotlinInit : Kotlin.initLines c = Kotlin.initLines d
  swiftStorage : Swift.storageLines c = Swift.storageLines d
  swiftInit : Swift.initLines c = Swift.initLines d
  swiftBinding : Swift.bindingLines c = Swift.bindingLines d

/-- The parts of an adapter that show no warning do not change without them. -/
theorem Content.sameSilentLines_withoutWarnings (c : Content) :
    c.withoutWarnings.SameSilentLines c := by
  refine ⟨?_, ?_, ?_, ?_⟩ <;>
    simp only [Kotlin.initLines, Swift.storageLines, Swift.initLines, Swift.bindingLines,
      properties_withoutWarnings, twoWayProperties_withoutWarnings, collections_withoutWarnings,
      List.isEmpty_map, List.map_map, List.flatMap_map] <;> rfl

/-- Where each property adds the code of its warning, the properties add that of all. -/
theorem Content.addsCode_properties {f : PropertyView → List String}
    (h : ∀ p, AddsCode (p.warning.toList.flatMap Text.laterCode) (f p) (f p.withoutWarning))
    (c : Content) :
    AddsCode (c.properties.flatMap fun p => p.warning.toList.flatMap Text.laterCode)
      (c.properties.flatMap f) (c.withoutWarnings.properties.flatMap f) := by
  rw [withoutWarnings, List.flatMap_map]
  exact .flatMap fun p _ => h p

/-- Where each command adds the code of its warning, the commands add that of all. -/
theorem Content.addsCode_commands {f : CommandView → List String}
    (h : ∀ d, AddsCode (d.warning.toList.flatMap Text.laterCode) (f d) (f d.withoutWarning))
    (c : Content) :
    AddsCode (c.commands.flatMap fun d => d.warning.toList.flatMap Text.laterCode)
      (c.commands.flatMap f) (c.withoutWarnings.commands.flatMap f) := by
  rw [withoutWarnings, List.flatMap_map]
  exact .flatMap fun d _ => h d

namespace Kotlin

theorem addsCode_property (p : PropertyView) :
    AddsCode (p.warning.toList.flatMap Text.laterCode) (propertyLines p)
      (propertyLines p.withoutWarning) := by
  have hNotes : AddsCode (p.warning.toList.flatMap Text.laterCode) (notes p.warning p.batchNote)
      (notes none p.batchNote) := (addsCode_warning p.warning).behind _
  exact ((hNotes.before _).behind _).behind _

theorem addsCode_command (c : CommandView) :
    AddsCode (c.warning.toList.flatMap Text.laterCode) (commandLines c)
      (commandLines c.withoutWarning) := by
  have hNotes : AddsCode (c.warning.toList.flatMap Text.laterCode) (notes c.warning none)
      (notes none none) := (addsCode_warning c.warning).behind _
  exact (hNotes.before _).behind _

theorem addsCode_lines (c : Content) :
    AddsCode c.warningCode (lines c) (lines c.withoutWarnings) := by
  have hProperties := c.addsCode_properties addsCode_property
  have hCommands := c.addsCode_commands addsCode_command
  have hAccessors := c.flatMap_exposing_withoutWarnings (f := canExecuteLines) fun _ => rfl
  unfold lines
  rw [hAccessors, c.isEmpty_withoutWarnings, c.sameSilentLines_withoutWarnings.kotlinInit]
  exact ((((hProperties.before _).behind _).behind _).append hCommands).behind _

end Kotlin

namespace Swift

theorem addsCode_declaration (p : PropertyView) :
    AddsCode (p.warning.toList.flatMap Text.laterCode) (declarationLines p)
      (declarationLines p.withoutWarning) :=
  ((addsCode_warning p.warning).behind _).behind _

theorem addsCode_command (c : CommandView) :
    AddsCode (c.warning.toList.flatMap Text.laterCode) (commandLines c)
      (commandLines c.withoutWarning) :=
  ((addsCode_warning c.warning).before _).behind _

theorem addsCode_lines (c : Content) :
    AddsCode c.warningCode (lines c) (lines c.withoutWarnings) := by
  have hProperties := c.addsCode_properties addsCode_declaration
  have hCommands := c.addsCode_commands addsCode_command
  have hAccessors := c.flatMap_exposing_withoutWarnings (f := canExecuteLines) fun _ => rfl
  have hSilent := c.sameSilentLines_withoutWarnings
  unfold lines
  rw [hAccessors, c.isEmpty_withoutWarnings, hSilent.swiftStorage, hSilent.swiftInit,
    hSilent.swiftBinding]
  exact (((((((hProperties.before _).behind _).behind _).behind _).append hCommands).behind
    _).behind _)

end Swift

/-! ## Headers of adapters -/

/-- The names that are written in the header of an adapter. -/
def ViewModel.headerNames (v : ViewModel) (platform : Platform) : List String :=
  [v.qualifiedName, v.originModule] ++ (v.propertiesFor platform).map (·.name) ++
    (v.commandsFor platform).map (·.name)

namespace Content

def headerNames (c : Content) : List String :=
  [c.viewModel.qualifiedName, c.viewModel.originModule] ++ c.properties.map (·.name) ++
    c.commands.map (·.name)

/-- The header loses the names of the warned members, which are no code of their own. -/
theorem headerNames_withoutWarnings (c : Content) :
    c.withoutWarnings.headerNames = c.headerNames := by
  simp only [headerNames, withoutWarnings, List.map_map]
  rfl

end Content

namespace Header

/-- The line that ends a header. -/
def endMark : String := "// </auto-generated>"

/-- The lines of a text up to the end of its header are comments without indentation. -/
def IsComment (ls : List String) : Prop :=
  ∃ header body, ls = header ++ endMark :: body ∧
    ∀ line ∈ header ++ [endMark], "//".toList.isPrefixOf line.toList = true

variable {c : Content}

/-- Every line of the header starts with a comment mark. -/
theorem isPrefixOf_lines (c : Content) :
    ∀ line ∈ lines c, "//".toList.isPrefixOf line.toList = true := by
  have hLiteral {cs : List Char} (h : "//".toList.isPrefixOf cs = true) (s : String) :
      "//".toList.isPrefixOf (String.ofList cs ++ s).toList = true := by
    have hChars : (String.ofList cs ++ s).toList = cs ++ s.toList := by
      rw [String.toList_append, String.toList_ofList]
    rw [hChars]
    exact isPrefixOf_append h _
  have hNote : ∀ text members, ∀ line ∈ note text members,
      "//".toList.isPrefixOf line.toList = true := by
    intro text members
    unfold note
    split
    · simp
    · rw [List.forall_mem_singleton, String.append_assoc, String.append_assoc]
      exact hLiteral (by decide) _
  have hOrigin : ∀ line ∈
      ["// <auto-generated>", "// " ++ disclaimer,
        "// Generated from: " ++ c.viewModel.qualifiedName,
        "// Source module: " ++ c.viewModel.originModule,
        "// Generated at: " ++ c.time.headerText],
      "//".toList.isPrefixOf line.toList = true := by
    simp only [List.forall_mem_cons]
    exact ⟨by decide, hLiteral (by decide) _, hLiteral (by decide) _, hLiteral (by decide) _,
      hLiteral (by decide) _, by simp⟩
  exact List.forall_mem_append.2 ⟨List.forall_mem_append.2 ⟨List.forall_mem_append.2
    ⟨hOrigin, hNote _ _⟩, hNote _ _⟩, by decide⟩

/-- The lines of the header break only where a name in them does. -/
theorem noFeed_lines (h : ∀ s ∈ c.headerNames, '\n' ∉ s.toList) :
    ∀ line ∈ lines c, '\n' ∉ line.toList := by
  simp only [Content.headerNames, List.forall_mem_append, List.forall_mem_cons,
    List.forall_mem_map] at h
  obtain ⟨⟨⟨hQualified, hModule, -⟩, hProperties⟩, hCommands⟩ := h
  have hTime : NoFeed c.time.headerText := inherited_noFeed.of_structural (lacks_headerText c.time)
  exact (composed_lines inherited_noFeed hQualified hModule hTime hProperties hCommands).noFeed
    List.not_mem_nil

/-- A header without line breaks in its names has no code. -/
theorem codeOf_lines (h : ∀ s ∈ c.headerNames, '\n' ∉ s.toList) : codeOf (lines c) = [] := by
  refine List.flatMap_eq_nil_iff.2 fun line hLine => ?_
  have hComment : Text.isComment line = true :=
    Text.isComment_of_isPrefixOf (isPrefixOf_lines c line hLine)
  rw [Text.codeLines, Text.lines_of_not_mem (noFeed_lines h line hLine)]
  simp [Text.isCode, hComment]

end Header

/-- The first lines of a text are those of the header. -/
theorem Header.isComment_lines {c : Content} (h : ∀ s ∈ c.headerNames, '\n' ∉ s.toList) :
    IsComment (Text.lines (textOfLines c.lines)) := by
  obtain ⟨header, hHeader⟩ : ∃ header, lines c = header ++ [endMark] :=
    ⟨_, List.append_cons _ _ [endMark]⟩
  have hMarked := isPrefixOf_lines c
  rw [hHeader] at hMarked
  refine ⟨header, (UserTemplate.bodyLines c.platform c).flatMap Text.lines ++ [""], ?_, hMarked⟩
  rw [Text.lines_textOfLines, Content.lines, List.flatMap_append,
    Text.flatMap_lines_of_not_mem (noFeed_lines h), hHeader]
  simp

/-- A whole adapter adds the code of its warnings to that of the adapter without them. -/
theorem Content.addsCode_lines {c : Content} (h : ∀ s ∈ c.headerNames, '\n' ∉ s.toList) :
    AddsCode c.warningCode c.lines c.withoutWarnings.lines := by
  have hNames : ∀ s ∈ c.withoutWarnings.headerNames, '\n' ∉ s.toList := by
    rwa [headerNames_withoutWarnings]
  have hHeader : AddsCode [] (Header.lines c) (Header.lines c.withoutWarnings) :=
    .of_eq ((Header.codeOf_lines h).trans (Header.codeOf_lines hNames).symm)
  have hBody : AddsCode c.warningCode (UserTemplate.bodyLines c.platform c)
      (UserTemplate.bodyLines c.platform c.withoutWarnings) := by
    cases c.platform with
    | android => exact Kotlin.addsCode_lines c
    | ios => exact Swift.addsCode_lines c
  exact hHeader.append hBody

/-! ## Adapters without warnings -/

theorem ViewModel.propertiesFor_withoutWarnings (v : ViewModel) (platform : Platform) :
    v.withoutWarnings.propertiesFor platform =
      (v.propertiesFor platform).map (·.withoutWarning) :=
  List.filter_map

theorem ViewModel.commandsFor_withoutWarnings (v : ViewModel) (platform : Platform) :
    v.withoutWarnings.commandsFor platform = (v.commandsFor platform).map (·.withoutWarning) :=
  List.filter_map

namespace Assembly

variable {t : Target} {package : String} {time : Calendar.UtcSecond} {v : ViewModel}

/-- A property without its warning resolves in the same way. -/
theorem propertyPart_withoutWarning {p : Property} {part : PropertyPart}
    (h : propertyPart t p = .ok part) :
    propertyPart t p.withoutWarning = .ok (part.1.withoutWarning, part.2) := by
  obtain ⟨r, element, view, hType, hElement, hView, rfl⟩ := propertyPart_eq_ok.1 h
  obtain ⟨batchNote, hNote, rfl⟩ := map_eq_ok.1 hView
  have hView : PropertyView.of t.platform p.withoutWarning r.1.name (element.map (·.1.name)) =
      .ok _ := map_eq_ok.2 ⟨batchNote, hNote, rfl⟩
  exact propertyPart_eq_ok.2 ⟨r, element, _, hType, hElement, hView, rfl⟩

/-- A command without its warning resolves in the same way. -/
theorem commandPart_withoutWarning {c : Command} {part : CommandPart}
    (h : commandPart t c = .ok part) :
    commandPart t c.withoutWarning = .ok (part.1.withoutWarning, part.2) := by
  obtain ⟨r, hType, rfl⟩ := commandPart_eq_ok.1 h
  exact commandPart_eq_ok.2 ⟨r, hType, rfl⟩

/-- No import is there for a warning. -/
theorem structuralImports_withoutWarning (platform : Platform) (properties : List PropertyView)
    (commands : List CommandView) :
    structuralImports platform (properties.map (·.withoutWarning))
      (commands.map (·.withoutWarning)) = structuralImports platform properties commands := by
  cases platform with
  | android =>
    simp only [structuralImports, kotlinImports, List.any_map, List.isEmpty_map]
    rfl
  | ios => rfl

/-- Parts without warnings are put together to an adapter without warnings. -/
theorem content_ofParts_withoutWarnings (properties : List PropertyPart)
    (commands : List CommandPart) :
    (ofParts t package time v.withoutWarnings
      (properties.map fun part => (part.1.withoutWarning, part.2))
      (commands.map fun part => (part.1.withoutWarning, part.2))).content =
        (ofParts t package time v properties commands).content.withoutWarnings := by
  have hImports := structuralImports_withoutWarning t.platform (properties.map (·.1))
    (commands.map (·.1))
  simp only [List.map_map] at hImports
  simp only [ofParts, Content.withoutWarnings, List.map_map, List.any_map, Function.comp_def]
    at hImports ⊢
  rw [hImports]
  rfl

/-- Making an adapter without warnings succeeds whenever making it with them does. -/
theorem make_withoutWarnings {assembly : Assembly} (h : make t package time v = .ok assembly) :
    ∃ assembly', make t package time v.withoutWarnings = .ok assembly' ∧
      assembly'.content = assembly.content.withoutWarnings := by
  obtain ⟨properties, commands, hProperties, hCommands, rfl⟩ := make_eq_ok.1 h
  refine ⟨_, make_eq_ok.2 ⟨_, _, mapM_eq_ok.2 ?_, mapM_eq_ok.2 ?_, rfl⟩,
    content_ofParts_withoutWarnings properties commands⟩
  · rw [ViewModel.propertiesFor_withoutWarnings, List.forall₂_map_left_iff,
      List.forall₂_map_right_iff]
    exact (mapM_eq_ok.1 hProperties).imp fun _ _ => propertyPart_withoutWarning
  · rw [ViewModel.commandsFor_withoutWarnings, List.forall₂_map_left_iff,
      List.forall₂_map_right_iff]
    exact (mapM_eq_ok.1 hCommands).imp fun _ _ => commandPart_withoutWarning

end Assembly

namespace Assembly

section Warnings

variable {t : Target} {package : String} {time : Calendar.UtcSecond} {v : ViewModel}
  {assembly : Assembly}

/-- The names in a header come from the view-model alone. -/
theorem headerNames_of_make (h : make t package time v = .ok assembly) :
    assembly.content.headerNames = v.headerNames t.platform := by
  obtain ⟨properties, commands, hProperties, hCommands, rfl⟩ := make_eq_ok.1 h
  have hPropertyNames : properties.map (·.1.name) = (v.propertiesFor t.platform).map (·.name) :=
    map_eq_map_of_forall₂ (mapM_eq_ok.1 hProperties) propertyPart_name
  have hCommandNames : commands.map (·.1.name) = (v.commandsFor t.platform).map (·.name) :=
    map_eq_map_of_forall₂ (mapM_eq_ok.1 hCommands) fun hPart => by
      obtain ⟨r, -, rfl⟩ := commandPart_eq_ok.1 hPart
      rfl
  simp only [Content.headerNames, ViewModel.headerNames, ofParts, List.map_map]
  exact congrArg₂ (fun names names' => [v.qualifiedName, v.originModule] ++ names ++ names')
    hPropertyNames hCommandNames

/-- The code of the warnings comes from the view-model alone. -/
theorem warningCode_of_make (h : make t package time v = .ok assembly) :
    assembly.content.warningCode = (v.shownWarnings t.platform).flatMap Text.laterCode := by
  obtain ⟨properties, commands, hProperties, hCommands, rfl⟩ := make_eq_ok.1 h
  have hPropertyWarnings : properties.map (·.1.warning) =
      (v.propertiesFor t.platform).map (shown ·.warning) :=
    map_eq_map_of_forall₂ (mapM_eq_ok.1 hProperties) fun hPart => by
      obtain ⟨r, element, view, -, -, hView, rfl⟩ := propertyPart_eq_ok.1 hPart
      obtain ⟨batchNote, -, rfl⟩ := map_eq_ok.1 hView
      rfl
  have hCommandWarnings : commands.map (·.1.warning) =
      (v.commandsFor t.platform).map (shown ·.warning) :=
    map_eq_map_of_forall₂ (mapM_eq_ok.1 hCommands) fun hPart => by
      obtain ⟨r, -, rfl⟩ := commandPart_eq_ok.1 hPart
      rfl
  have hProperty := congrArg (List.flatMap fun w => w.toList.flatMap Text.laterCode)
    hPropertyWarnings
  have hCommand := congrArg (List.flatMap fun w => w.toList.flatMap Text.laterCode)
    hCommandWarnings
  simp only [List.flatMap_map] at hProperty hCommand
  simp only [Content.warningCode, ofParts, List.flatMap_map, ViewModel.shownWarnings,
    List.flatMap_append, List.filterMap_eq_flatMap_toList, List.flatMap_assoc]
  rw [hProperty, hCommand]

end Warnings

end Assembly

namespace Backend

variable {b : Backend} {v : ViewModel} {a : Adapter}

/-- The header of an adapter is a comment. Its warnings add no code exactly if their lines behind
the first one are none. -/
theorem comments_of_generate (hStandard : b.templates = [])
    (hNames : ∀ s ∈ v.headerNames b.platform, '\n' ∉ s.toList) (h : b.generate v = .ok a) :
    Header.IsComment (Text.lines a.text) ∧
      ∃ a', b.generate v.withoutWarnings = .ok a' ∧
        (Text.codeLines a.text = Text.codeLines a'.text ↔
          ∀ w ∈ v.shownWarnings b.platform, ∀ line ∈ (Text.lines w).tail,
            Text.isCode line = false) := by
  obtain ⟨assembly, hMake, hText, -⟩ := exists_assembly_of_generate hStandard h
  obtain ⟨assembly', hMake', hContent⟩ := Assembly.make_withoutWarnings hMake
  have hHeaderNames : ∀ s ∈ assembly.content.headerNames, '\n' ∉ s.toList := by
    rwa [Assembly.headerNames_of_make hMake]
  have hRender := UserTemplate.render_eq_textOfLines assembly'.content
  rw [← hStandard] at hRender
  refine ⟨?_, _, generate_eq_ok.2 ⟨assembly', _, hMake', hRender, rfl⟩, ?_⟩
  · rw [hText]
    exact Header.isComment_lines hHeaderNames
  · have hAdds := (Content.addsCode_lines hHeaderNames).eq_iff
    rw [Assembly.warningCode_of_make hMake, List.flatMap_eq_nil_iff] at hAdds
    rw [hText, adapterOf, hContent, Text.codeLines_textOfLines, Text.codeLines_textOfLines, hAdds]
    simp only [Text.laterCode, List.filter_eq_nil_iff, Bool.not_eq_true]
    rfl

theorem comments_journey :
    ∃ a a', (standard .ios).generate journey = .ok a ∧ Header.IsComment (Text.lines a.text) ∧
      (standard .ios).generate journey.withoutWarnings = .ok a' ∧
      Text.codeLines a.text = Text.codeLines a'.text := by
  obtain ⟨a, ha⟩ := exists_generate_journey .ios
  obtain ⟨hHeader, a', ha', hCode⟩ := comments_of_generate rfl (by decide) ha
  exact ⟨a, a', ha, hHeader, ha', hCode.2 (by decide)⟩

/-! ## A warning of two lines -/

def warnedDocument : Document.Value := .list [
  .mapping [(.text "name", .text "X"), (.text "commands", .list [
    .mapping [(.text "name", .text "Reset"),
      (.text "warning", .text "Clears all stops\nfor good")]])]]

/-- The view-model of `warnedDocument`. -/
def warned : ViewModel where
  name := "X"
  qualifiedName := "X"
  originModule := ViewModel.unknownModule
  properties := []
  commands := [{ Command.plain "Reset" with warning := some "Clears all stops\nfor good" }]
  excluded := Exclusion.none

theorem exists_generate_warned : ∃ a, (standard .android).generate warned = .ok a := by
  refine (exists_generate_of_isTyped rfl ⟨by decide, by decide⟩).2 ?_
  intro p hp
  exact absurd (ViewModel.mem_propertiesFor.1 hp).1 List.not_mem_nil

/-- A Kotlin adapter has the code of a command's warning. -/
theorem mem_codeLines_of_warning {c : Content} {d : CommandView} (hKotlin : c.platform = .android)
    (hd : d ∈ c.commands) {w line : String} (hWarning : d.warning = some w)
    (hLine : line ∈ Text.codeLines ("    // WARNING: " ++ w)) :
    line ∈ Text.codeLines (textOfLines c.lines) := by
  have hNotes : "    // WARNING: " ++ w ∈ Kotlin.commandLines d := by
    simp [Kotlin.commandLines, Kotlin.notes, hWarning]
  have hCommands : "    // WARNING: " ++ w ∈ c.commands.flatMap Kotlin.commandLines :=
    List.mem_flatMap.2 ⟨d, hd, hNotes⟩
  have hBody : "    // WARNING: " ++ w ∈ UserTemplate.bodyLines c.platform c := by
    rw [hKotlin]
    exact List.mem_append_left _ (List.mem_append_right _ hCommands)
  rw [Text.codeLines_textOfLines]
  exact List.mem_flatMap.2 ⟨_, List.mem_append_right _ hBody, hLine⟩

/-- The second line of the warning is code. -/
theorem warning_addsCode :
    Metadata.readViewModels warnedDocument = .ok [warned] ∧
      "Clears all stops\nfor good" ∈ warned.shownWarnings .android ∧
      "for good" ∈ Text.lines "Clears all stops\nfor good" ∧
      ∃ a, (standard .android).generate warned = .ok a ∧ "for good" ∈ Text.codeLines a.text := by
  refine ⟨by decide, by decide, by decide, ?_⟩
  obtain ⟨a, ha⟩ := exists_generate_warned
  obtain ⟨assembly, hMake, hText, -⟩ := exists_assembly_of_generate rfl ha
  obtain ⟨properties, commands, -, hCommands, rfl⟩ := Assembly.make_eq_ok.1 hMake
  obtain ⟨part, rest, hPart, -, rfl⟩ := List.forall₂_cons_left_iff.1 (mapM_eq_ok.1 hCommands)
  obtain ⟨r, -, rfl⟩ := Assembly.commandPart_eq_ok.1 hPart
  refine ⟨a, ha, ?_⟩
  rw [hText]
  exact mem_codeLines_of_warning rfl List.mem_cons_self rfl (by decide)

end Backend
end ViewAdapters
