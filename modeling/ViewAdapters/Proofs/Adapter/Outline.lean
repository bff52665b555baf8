import ViewAdapters.Proofs.Adapter.KotlinReading
import ViewAdapters.Proofs.Adapter.SwiftReading
import ViewAdapters.Proofs.Adapter.TextStructure

/-!
# Outlines of adapters

An outline is all that the lines of a text say of members, kind by kind. The outline that is read
off a standard text is that of the members which the text is made from.

* `Content.reads_lines`, `Content.ofItems_items`: what the lines of a content say.
* `Assembly.readable_of_make`: members with identifiers for names can be read.
* `Backend.items_of_generate`: what is read off a standard text.
-/

namespace ViewAdapters

/-! ## Outlines -/

namespace LineItem

def container? : LineItem → Option String
  | .container identifier => some identifier
  | _ => none

def published? : LineItem → Option String
  | .published identifier => some identifier
  | _ => none

def accessor? : LineItem → Option String
  | .accessor name => some name
  | _ => none

def changed? : LineItem → Option String
  | .changed name => some name
  | _ => none

def listener? : LineItem → Option String
  | .listener name => some name
  | _ => none

def writeBack? : LineItem → Option WriteBack
  | .writeBack w => some w
  | _ => none

def wrapper? : LineItem → Option Wrapper
  | .wrapper w => some w
  | _ => none

end LineItem

/-- What the lines of a text say of members. Every list is in the order of the lines. -/
structure Outline where
  /-- The identifiers of the properties whose values are contained. -/
  containers : List String
  /-- The identifiers of the properties that are published. -/
  published : List String
  /-- The names of the accessors that tell whether a command can run. -/
  accessors : List String
  /-- The names of the properties whose changes are handled. -/
  changed : List String
  /-- The names of the collections that are listened to. -/
  listeners : List String
  writeBacks : List WriteBack
  wrappers : List Wrapper
  deriving DecidableEq

namespace Outline

def ofItems (items : List LineItem) : Outline where
  containers := items.filterMap (·.container?)
  published := items.filterMap (·.published?)
  accessors := items.filterMap (·.accessor?)
  changed := items.filterMap (·.changed?)
  listeners := items.filterMap (·.listener?)
  writeBacks := items.filterMap (·.writeBack?)
  wrappers := items.filterMap (·.wrapper?)

/-- The outline that is read off the lines of a platform. -/
def read (platform : Platform) (lines : List String) : Outline :=
  .ofItems (readLines platform lines)

end Outline

namespace Content

variable {c : Content}

/-- The outline of what is shown of the members. -/
def outline (c : Content) : Outline where
  containers := c.properties.map (·.identifier)
  published := c.properties.map (·.identifier)
  accessors := (c.commands.filter (·.exposesCanExecute)).map (·.canName)
  changed := c.properties.map (·.name)
  listeners := c.collections.map (·.name)
  writeBacks := c.twoWayProperties.map (·.writeBack)
  wrappers := c.commands.map (·.wrapper)

/-- What the lines behind the header say; Swift binds properties behind its commands. -/
def items (c : Content) : List LineItem :=
  match c.platform with
  | .android =>
    c.properties.flatMap (·.declaredItems) ++ c.accessorItems ++ c.bindingItems ++ c.wrapperItems
  | .ios =>
    c.properties.flatMap (·.declaredItems) ++ c.accessorItems ++ c.wrapperItems ++ c.bindingItems

theorem ofItems_items (c : Content) : Outline.ofItems c.items = c.outline := by
  have hDeclared : ∀ p : PropertyView, p.declaredItems =
      [.container p.identifier, .published p.identifier] := fun _ => rfl
  unfold items
  cases c.platform <;>
    simp [Outline.ofItems, outline, accessorItems, bindingItems, wrapperItems, hDeclared,
      List.filterMap_flatMap, ← List.map_eq_flatMap, LineItem.container?, LineItem.published?,
      LineItem.accessor?, LineItem.changed?, LineItem.listener?, LineItem.writeBack?,
      LineItem.wrapper?]

/-- The lines of a header are comments. -/
theorem mentions_header (platform : Platform) (c : Content) :
    ∀ line ∈ Header.lines c, mentions (lineMarks platform) line = [] := by
  have hComment : Unmarked (lineMarks platform) "// " := by
    cases platform <;> exact .literal (by decide)
  have hFrom : Unmarked (lineMarks platform) "// Generated from: " := by
    cases platform <;> exact .literal (by decide)
  have hModule : Unmarked (lineMarks platform) "// Source module: " := by
    cases platform <;> exact .literal (by decide)
  have hTime : Unmarked (lineMarks platform) "// Generated at: " := by
    cases platform <;> exact .literal (by decide)
  have hNote : ∀ text members, ∀ line ∈ Header.note text members,
      mentions (lineMarks platform) line = [] := by
    intro text members
    unfold Header.note
    split
    · simp
    · rw [List.forall_mem_singleton]
      exact (((hComment.more text).more _).more _).mentions_eq
  have hFirst : mentions (lineMarks platform) "// <auto-generated>" = [] := by
    cases platform <;> decide
  have hEnd : ∀ line ∈
      ["// Do not edit by hand; changes are overwritten on the next generation run.",
        "// </auto-generated>"], mentions (lineMarks platform) line = [] := by
    cases platform <;> decide
  have hOrigin : ∀ line ∈
      ["// <auto-generated>", "// " ++ Header.disclaimer,
        "// Generated from: " ++ c.viewModel.qualifiedName,
        "// Source module: " ++ c.viewModel.originModule,
        "// Generated at: " ++ c.time.headerText], mentions (lineMarks platform) line = [] := by
    simp only [List.forall_mem_cons]
    exact ⟨hFirst, (hComment.more _).mentions_eq, (hFrom.more _).mentions_eq,
      (hModule.more _).mentions_eq, (hTime.more _).mentions_eq, by simp⟩
  exact List.forall_mem_append.2 ⟨List.forall_mem_append.2 ⟨List.forall_mem_append.2
    ⟨hOrigin, hNote _ _⟩, hNote _ _⟩, hEnd⟩

theorem reads_lines {keep : LineItem → Bool} (h : c.Readable keep) :
    Reads keep c.platform (c.lines ++ [""]) c.items := by
  have hHeader : Reads keep c.platform (Header.lines c) [] := .silent (mentions_header c.platform c)
  have hBody : Reads keep c.platform (UserTemplate.bodyLines c.platform c) c.items := by
    unfold items
    cases c.platform with
    | android => exact Kotlin.reads_lines h
    | ios => exact Swift.reads_lines h
  have hEnd : Reads keep c.platform [""] [] := .skip (mentions_blank _) .nil
  simpa [lines] using (hHeader.append hBody).append hEnd

end Content

/-! ## Members with identifiers for names -/

/-- The names of the members are identifiers, and a type of a command's parameter has a dotted name
if the source program defines it. -/
structure ViewModel.NamedByIdentifiers (v : ViewModel) : Prop where
  properties : ∀ p ∈ v.properties, isIdentifier p.name = true
  commands : ∀ c ∈ v.commands, isIdentifier c.name = true
  parameters : ∀ c ∈ v.commands, ∀ d ∈ c.parameter, d.isDotted = true

instance (v : ViewModel) : Decidable v.NamedByIdentifiers :=
  decidable_of_iff ((∀ p ∈ v.properties, isIdentifier p.name = true) ∧
      (∀ c ∈ v.commands, isIdentifier c.name = true) ∧
      ∀ c ∈ v.commands, ∀ d ∈ c.parameter, d.isDotted = true)
    ⟨fun h => ⟨h.1, h.2.1, h.2.2⟩, fun h => ⟨h.properties, h.commands, h.parameters⟩⟩

/-- The method that validates a new value, if there is one to call. -/
def Property.validatorOnSet (p : Property) : Option String := do
  let validation ← p.validation
  if validation.validateOnSet then shown validation.validator else none

namespace PropertyView

theorem validator?_afterWriteOf (p : Property) :
    (afterWriteOf p).validator? = if isTwoWayProperty p then p.validatorOnSet else none := by
  unfold afterWriteOf Property.validatorOnSet
  cases p.validation with
  | none => simp [AfterWrite.validator?]
  | some v =>
    cases hTwoWay : isTwoWayProperty p <;> cases hOnSet : v.validateOnSet <;>
      cases hShown : shown v.validator <;> simp [AfterWrite.validator?, hOnSet, hShown]

theorem readable_of_of {keep : LineItem → Bool} {platform : Platform} {p : Property}
    {typeName : String} {elementTypeName : Option String} {view : PropertyView}
    (hName : isIdentifier p.name = true)
    (hValidator : (∀ s ∈ p.validatorOnSet, isIdentifier s = true) ∨
      ∀ item : LineItem, item.isOfSource = true → keep item = false)
    (hView : of platform p typeName elementTypeName = .ok view) : view.Readable keep := by
  obtain ⟨batchNote, -, rfl⟩ := map_eq_ok.1 hView
  have hWord := isWord_of_isIdentifier hName
  have hSetter : IsWord "update" := by
    unfold IsWord
    decide
  have hCalled (hIdentifiers : ∀ s ∈ p.validatorOnSet, isIdentifier s = true) :
      ∀ s ∈ (afterWriteOf p).validator?, IsWord s := by
    rw [validator?_afterWriteOf]
    split
    · exact fun s hs => isWord_of_isIdentifier (hIdentifiers s hs)
    · simp
  exact {
    name := hWord
    identifier := hWord.decapitalize
    setter := hSetter.append hWord.decapitalize.capitalize
    validator := hValidator.imp_left hCalled }

end PropertyView

theorem CommandView.readable_of {c : Command} (hName : isIdentifier c.name = true)
    (hParameter : ∀ d ∈ c.parameter, d.isDotted = true) (typeName : Option String) :
    (CommandView.of c typeName).Readable := by
  have hWord := isWord_of_isIdentifier hName
  have hIdentifier := isWord_identifierOf hWord
  have hCan : IsWord "can" := by
    unfold IsWord
    decide
  exact {
    name := hWord
    identifier := hIdentifier
    canName := hCan.append hIdentifier.capitalize
    parameter := fun q hq => by
      obtain ⟨t, -, rfl⟩ := Option.map_eq_some_iff.1 (Option.filter_eq_some_iff.1 hq).1
      exact isWord_parameterName hParameter }

section Generation

variable {keep : LineItem → Bool} {v : ViewModel}

theorem Assembly.readable_of_make {t : Target} {package : String} {time : Calendar.UtcSecond}
    {assembly : Assembly} (hNames : v.NamedByIdentifiers)
    (hValidators : (∀ p ∈ v.properties, ∀ s ∈ p.validatorOnSet, isIdentifier s = true) ∨
      ∀ item : LineItem, item.isOfSource = true → keep item = false)
    (h : make t package time v = .ok assembly) : assembly.content.Readable keep := by
  obtain ⟨properties, commands, hProperties, hCommands, rfl⟩ := make_eq_ok.1 h
  refine ⟨List.forall_mem_map.2 fun part hPart => ?_, List.forall_mem_map.2 fun part hPart => ?_⟩
  · obtain ⟨p, hp, hOk⟩ := exists_of_mem_mapM hProperties hPart
    obtain ⟨r, element, view, -, -, hView, rfl⟩ := propertyPart_eq_ok.1 hOk
    have hIn : p ∈ v.properties := (ViewModel.mem_propertiesFor.1 hp).1
    exact PropertyView.readable_of_of (hNames.properties p hIn)
      (hValidators.imp_left fun hAll => hAll p hIn) hView
  · obtain ⟨c, hc, hOk⟩ := exists_of_mem_mapM hCommands hPart
    obtain ⟨r, -, rfl⟩ := commandPart_eq_ok.1 hOk
    have hIn : c ∈ v.commands := (ViewModel.mem_commandsFor.1 hc).1
    exact CommandView.readable_of (hNames.commands c hIn) (hNames.parameters c hIn) _

/-- What is kept of the items of a standard text are those of the content which it is made from. -/
theorem Backend.items_of_generate {b : Backend} {a : Adapter} (hStandard : b.templates = [])
    (hNames : v.NamedByIdentifiers)
    (hValidators : (∀ p ∈ v.properties, ∀ s ∈ p.validatorOnSet, isIdentifier s = true) ∨
      ∀ item : LineItem, item.isOfSource = true → keep item = false)
    (hFeeds : ∀ s ∈ b.texts ++ v.texts, '\n' ∉ s.toList) (h : b.generate v = .ok a) :
    ∃ assembly, Assembly.make b.target b.package b.time v = .ok assembly ∧
      (readLines b.platform (Text.lines a.text)).filter keep =
        assembly.content.items.filter keep := by
  obtain ⟨assembly, hMake, hLines⟩ := lines_of_generate hStandard hFeeds h
  have hPlatform : assembly.content.platform = b.platform := by
    obtain ⟨properties, commands, -, -, rfl⟩ := Assembly.make_eq_ok.1 hMake
    rfl
  have hReads := Content.reads_lines (Assembly.readable_of_make hNames hValidators hMake)
  rw [hPlatform] at hReads
  exact ⟨assembly, hMake, hLines ▸ hReads.readLines_eq⟩

end Generation
end ViewAdapters
