import ViewAdapters.Proofs.Adapter.Bindings
import ViewAdapters.Proofs.Target.ResolvedTypes

/-!
# Shared programming interface

The adapters of both platforms show the members that are excluded on neither of them alike:
properties under the same identifiers, and commands with wrappers of the same form.

* `Target.name_ne_empty_of_resolve`: a type is never left out for an empty name.
* `CommandView.IsViewOf`: the form of a wrapper does not depend on the platform.
* `Backend.sharesApi_of_generate`: standard texts show shared members alike.
* `Backend.not_sharesApi_sized`: a line break in the name of a type shows one more property.
-/

namespace ViewAdapters

/-! ## Names of types -/

theorem append_ne_empty_left {s t : String} (h : s ≠ "") : s ++ t ≠ "" :=
  fun hEmpty => h (String.append_eq_empty_iff.1 hEmpty).1

theorem append_ne_empty_right {s t : String} (h : t ≠ "") : s ++ t ≠ "" :=
  fun hEmpty => h (String.append_eq_empty_iff.1 hEmpty).2

namespace Target

/-- A type has a name on the platform unless its namespace is replaced by nothing. -/
theorem name_ne_empty_of_reference {t : Target} (hTargets : ∀ e ∈ t.namespaces, e.2 ≠ "")
    {name : String} (hName : isDotted name = true) : (t.reference name).name ≠ "" := by
  have hSimple : Descriptor.simpleName name ≠ "" :=
    ne_empty_of_isIdentifier (isIdentifier_lastSegment hName)
  unfold reference
  split
  · exact hSimple
  · rename_i source target hLongest
    have hTarget : target ≠ "" := hTargets _ (NamespaceTable.longest?_covers hLongest).2
    have hNotEmpty : target.isEmpty = false := by simpa using hTarget
    simp only [replaced, hNotEmpty, Bool.false_eq_true, if_false]
    split
    · dsimp only [Resolved.plain]
      split
      · exact hTarget
      · exact append_ne_empty_left (append_ne_empty_left hTarget)
    · exact append_ne_empty_right hSimple

theorem name_ne_empty_of_scalar (platform : Platform) (semantics : Option DateSemantics)
    (member kind : String) : (resolveScalar platform semantics member kind).1.name ≠ "" := by
  have hTable : ∀ e ∈ scalars platform, e.2 ≠ "" := by cases platform <;> decide
  refine resolveScalar_induction (motive := (·.name ≠ "")) (fun date => ?_) hTable (by decide)
    semantics member kind
  cases platform <;> cases date <;> decide

/-- Every resolved type has a name. -/
theorem name_ne_empty_of_resolve {t : Target} (hTargets : ∀ e ∈ t.namespaces, e.2 ≠ "")
    {semantics : Option DateSemantics} {member : String} {d : Descriptor} {r : Resolution}
    (hDotted : d.isDotted = true) (h : t.resolve semantics member d = .ok r) : r.1.name ≠ "" := by
  induction d generalizing r with
  | primitive kind =>
    cases h
    exact name_ne_empty_of_scalar t.platform semantics member kind
  | nullable d ih =>
    obtain ⟨inner, hInner, rfl⟩ := map_eq_ok.1 h
    have hName := ih hDotted hInner
    simp only [Resolution.inLayer, Resolved.wrap, layerName, optionalOf]
    split
    · exact hName
    · exact append_ne_empty_left hName
  | collection d ih =>
    obtain ⟨inner, hInner, rfl⟩ := map_eq_ok.1 h
    have hName := ih hDotted hInner
    simp only [Resolution.inLayer, Resolved.wrap, layerName, listOf]
    split <;> exact append_ne_empty_left (append_ne_empty_right hName)
  | reference qualifiedName =>
    cases h
    exact name_ne_empty_of_reference hTargets hDotted
  | foreign literal => cases h

end Target

/-! ## Wrappers of commands -/

/-- The form of a command's wrapper. -/
def Command.wrapper (c : Command) : Wrapper where
  identifier := CommandView.identifierOf c.name
  isAsync := c.isAsync
  parameter := c.parameter.map fun _ => CommandView.parameterName c.parameter

/-- The name of the accessor that tells whether a command can run. -/
def Command.canName (c : Command) : String :=
  "can" ++ Text.capitalize (CommandView.identifierOf c.name)

/-- The form of a wrapper is that of a command. -/
structure CommandView.IsViewOf (c : Command) (view : CommandView) : Prop where
  wrapper : view.wrapper = c.wrapper
  canName : view.canName = c.canName
  exposesCanExecute : view.exposesCanExecute = c.exposesCanExecute

namespace Assembly

theorem isViewOf_of_commandPart {t : Target} (hTargets : ∀ e ∈ t.namespaces, e.2 ≠ "")
    {c : Command} {part : CommandPart} (hDotted : ∀ d ∈ c.parameter, d.isDotted = true)
    (h : commandPart t c = .ok part) : part.1.IsViewOf c := by
  obtain ⟨r, hType, rfl⟩ := commandPart_eq_ok.1 h
  refine ⟨?_, rfl, rfl⟩
  have hShown : (CommandView.of c (r.map (·.1.name))).parameter.map (·.1) =
      c.parameter.map fun _ => CommandView.parameterName c.parameter := by
    obtain ⟨hNone, rfl⟩ | ⟨d, resolved, hSome, hResolved, rfl⟩ :=
      Target.parameterType_eq_ok.1 hType
    · rw [hNone]
      rfl
    · have hName := Target.name_ne_empty_of_resolve hTargets (hDotted d hSome) hResolved
      simp [CommandView.parameter, CommandView.of, hSome, hName]
  unfold CommandView.wrapper Command.wrapper
  rw [hShown]
  rfl

theorem isViewOf_of_make_commands {t : Target} (hTargets : ∀ e ∈ t.namespaces, e.2 ≠ "")
    {package : String} {time : Calendar.UtcSecond} {v : ViewModel} {assembly : Assembly}
    (hNames : v.NamedByIdentifiers) (h : make t package time v = .ok assembly) :
    List.Forall₂ CommandView.IsViewOf (v.commandsFor t.platform) assembly.content.commands := by
  obtain ⟨properties, commands, -, hCommands, rfl⟩ := make_eq_ok.1 h
  have hDotted : ∀ c ∈ v.commandsFor t.platform, ∀ d ∈ c.parameter, d.isDotted = true :=
    fun c hc => hNames.parameters c (ViewModel.mem_commandsFor.1 hc).1
  have hParts := (List.forall₂_and_left _ _).2 ⟨hDotted, mapM_eq_ok.1 hCommands⟩
  exact List.forall₂_map_right_iff.2
    (hParts.imp fun c part hPart => isViewOf_of_commandPart hTargets hPart.1 hPart.2)

end Assembly

/-! ## Members that are exposed -/

/-- An outline exposes properties and commands in their order. -/
structure Outline.Exposes (properties : List Property) (commands : List Command) (o : Outline) :
    Prop where
  published : o.published = properties.map fun p => Text.decapitalize p.name
  wrappers : o.wrappers = commands.map (·.wrapper)
  accessors : o.accessors = (commands.filter (·.exposesCanExecute)).map (·.canName)

/-- What is not asked of the source can be read from the items that are left. -/
theorem filterMap_filter_of_isOfSource {ι : Type} {f : LineItem → Option ι}
    (hf : ∀ item : LineItem, item.isOfSource = true → f item = none) (items : List LineItem) :
    (items.filter (!·.isOfSource)).filterMap f = items.filterMap f := by
  rw [List.filterMap_filter]
  refine List.filterMap_congr fun item _ => ?_
  cases hSource : item.isOfSource with
  | true => simp [hf item hSource]
  | false => simp

/-- What is exposed is read off items that are not about the source. -/
theorem Outline.exposes_of_filter {properties : List Property} {commands : List Command}
    {items items' : List LineItem}
    (hSame : items.filter (!·.isOfSource) = items'.filter (!·.isOfSource))
    (h : (ofItems items').Exposes properties commands) :
    (ofItems items).Exposes properties commands := by
  have hRead {ι : Type} {f : LineItem → Option ι}
      (hf : ∀ item : LineItem, item.isOfSource = true → f item = none) :
      items.filterMap f = items'.filterMap f := by
    rw [← filterMap_filter_of_isOfSource hf, hSame, filterMap_filter_of_isOfSource hf]
  have hPublished : ∀ item : LineItem, item.isOfSource = true → item.published? = none := by
    rintro ⟨⟩ <;> simp [LineItem.isOfSource, LineItem.published?]
  have hWrapper : ∀ item : LineItem, item.isOfSource = true → item.wrapper? = none := by
    rintro ⟨⟩ <;> simp [LineItem.isOfSource, LineItem.wrapper?]
  have hAccessor : ∀ item : LineItem, item.isOfSource = true → item.accessor? = none := by
    rintro ⟨⟩ <;> simp [LineItem.isOfSource, LineItem.accessor?]
  exact ⟨(hRead hPublished).trans h.published, (hRead hWrapper).trans h.wrappers,
    (hRead hAccessor).trans h.accessors⟩

/-- The outline of an adapter exposes the members of its view-model. -/
theorem Content.exposes_outline {platform : Platform} {properties : List Property}
    {commands : List Command} {c : Content}
    (hProperties : List.Forall₂ (PropertyView.IsViewOf platform) properties c.properties)
    (hCommands : List.Forall₂ CommandView.IsViewOf commands c.commands) :
    c.outline.Exposes properties commands where
  published := map_eq_map_of_forall₂ hProperties fun hView => hView.identifier
  wrappers := map_eq_map_of_forall₂ hCommands fun hView => hView.wrapper
  accessors := map_filter_eq_of_forall₂ hCommands (fun hView => hView.exposesCanExecute)
    fun hView _ => hView.canName

namespace Backend

variable {b : Backend} {v : ViewModel} {a : Adapter}

/-- The text of an adapter exposes the members that it was generated for. -/
theorem exposes_of_generate (hStandard : b.templates = []) (hNames : v.NamedByIdentifiers)
    (hTargets : ∀ e ∈ b.target.namespaces, e.2 ≠ "")
    (hFeeds : ∀ s ∈ b.texts ++ v.texts, '\n' ∉ s.toList) (h : b.generate v = .ok a) :
    (Outline.read b.platform (Text.lines a.text)).Exposes (v.propertiesFor b.platform)
      (v.commandsFor b.platform) := by
  have hUnkept : ∀ item : LineItem, item.isOfSource = true → (!item.isOfSource) = false := by
    simp
  obtain ⟨assembly, hMake, hItems⟩ :=
    items_of_generate hStandard hNames (.inr hUnkept) hFeeds h
  refine Outline.exposes_of_filter hItems ?_
  rw [Content.ofItems_items]
  exact Content.exposes_outline (Assembly.isViewOf_of_make hMake)
    (Assembly.isViewOf_of_make_commands hTargets hNames hMake)

end Backend

/-! ## Members that are shown alike -/

section ShowAlike

variable {μ ι : Type}

/-- The items of kept members, where the items are those of members in their order. -/
def itemsOfKept (isKept : μ → Bool) (members : List μ) (items : List ι) : List ι :=
  ((members.zip items).filter (isKept ·.1)).map (·.2)

/-- There is one item for each member on both sides, and those of kept members are the same. -/
structure ShowAlike (isKept : μ → Bool) (members members' : List μ) (items items' : List ι) :
    Prop where
  length : items.length = members.length
  length' : items'.length = members'.length
  kept : itemsOfKept isKept members items = itemsOfKept isKept members' items'

variable {isKept : μ → Bool} {f : μ → ι}

theorem itemsOfKept_map (members : List μ) :
    itemsOfKept isKept members (members.map f) = (members.filter isKept).map f := by
  induction members with
  | nil => rfl
  | cons m members ih =>
    unfold itemsOfKept at ih ⊢
    cases hKept : isKept m <;> simp [hKept, ih]

/-- Items that come from the same kept members show alike. -/
theorem showAlike_of_map {members members' : List μ} {items items' : List ι}
    (h : items = members.map f) (h' : items' = members'.map f)
    (hKept : members.filter isKept = members'.filter isKept) :
    ShowAlike isKept members members' items items' := by
  subst h h'
  exact ⟨by simp, by simp, by rw [itemsOfKept_map, itemsOfKept_map, hKept]⟩

end ShowAlike

/-- Whether a member is excluded on neither platform. -/
def Property.isShared (p : Property) : Bool := !p.excluded.get .android && !p.excluded.get .ios

def Command.isShared (c : Command) : Bool := !c.excluded.get .android && !c.excluded.get .ios

namespace ViewModel

/-- Outlines of a Kotlin and a Swift text show the shared members of a view-model alike. -/
structure SharesApi (v : ViewModel) (kotlin swift : Outline) : Prop where
  properties : ShowAlike Property.isShared (v.propertiesFor .android) (v.propertiesFor .ios)
    kotlin.published swift.published
  commands : ShowAlike Command.isShared (v.commandsFor .android) (v.commandsFor .ios)
    kotlin.wrappers swift.wrappers
  accessors : ShowAlike Command.isShared
    ((v.commandsFor .android).filter (·.exposesCanExecute))
    ((v.commandsFor .ios).filter (·.exposesCanExecute)) kotlin.accessors swift.accessors

/-- Two outlines that expose the same view-model share their interface. -/
theorem sharesApi_of_exposes {v : ViewModel} {kotlin swift : Outline}
    (h : kotlin.Exposes (v.propertiesFor .android) (v.commandsFor .android))
    (h' : swift.Exposes (v.propertiesFor .ios) (v.commandsFor .ios)) :
    v.SharesApi kotlin swift := by
  have hProperties : (v.propertiesFor .android).filter Property.isShared =
      (v.propertiesFor .ios).filter Property.isShared := by
    simp only [propertiesFor, List.filter_filter]
    refine List.filter_congr fun p _ => ?_
    cases hAndroid : p.excluded.get .android <;> cases hIos : p.excluded.get .ios <;>
      simp [Property.isShared, hAndroid, hIos]
  have hCommands : (v.commandsFor .android).filter Command.isShared =
      (v.commandsFor .ios).filter Command.isShared := by
    simp only [commandsFor, List.filter_filter]
    refine List.filter_congr fun c _ => ?_
    cases hAndroid : c.excluded.get .android <;> cases hIos : c.excluded.get .ios <;>
      simp [Command.isShared, hAndroid, hIos]
  have hAccessors : ((v.commandsFor .android).filter (·.exposesCanExecute)).filter
      Command.isShared =
        ((v.commandsFor .ios).filter (·.exposesCanExecute)).filter Command.isShared := by
    rw [List.filter_comm, hCommands, List.filter_comm]
  exact ⟨showAlike_of_map h.published h'.published hProperties,
    showAlike_of_map h.wrappers h'.wrappers hCommands,
    showAlike_of_map h.accessors h'.accessors hAccessors⟩

end ViewModel

namespace Backend

/-- The adapters of both platforms show the members alike that are excluded on neither. -/
theorem sharesApi_of_generate {b b' : Backend} {v : ViewModel} {a a' : Adapter}
    (hAndroid : b.platform = .android) (hIos : b'.platform = .ios)
    (hStandard : b.templates = []) (hStandard' : b'.templates = [])
    (hNames : v.NamedByIdentifiers)
    (hTargets : ∀ e ∈ b.target.namespaces ++ b'.target.namespaces, e.2 ≠ "")
    (hFeeds : ∀ s ∈ b.texts ++ b'.texts ++ v.texts, '\n' ∉ s.toList)
    (h : b.generate v = .ok a) (h' : b'.generate v = .ok a') :
    v.SharesApi (Outline.read .android (Text.lines a.text))
      (Outline.read .ios (Text.lines a'.text)) := by
  simp only [List.forall_mem_append] at hTargets hFeeds
  have hKotlin := exposes_of_generate hStandard hNames hTargets.1
    (List.forall_mem_append.2 ⟨hFeeds.1.1, hFeeds.2⟩) h
  have hSwift := exposes_of_generate hStandard' hNames hTargets.2
    (List.forall_mem_append.2 ⟨hFeeds.1.2, hFeeds.2⟩) h'
  rw [hAndroid] at hKotlin
  rw [hIos] at hSwift
  exact ViewModel.sharesApi_of_exposes hKotlin hSwift

theorem sharesApi_journey :
    ∃ a a', (standard .android).generate journey = .ok a ∧
      (standard .ios).generate journey = .ok a' ∧
      journey.SharesApi (Outline.read .android (Text.lines a.text))
        (Outline.read .ios (Text.lines a'.text)) := by
  obtain ⟨a, ha⟩ := exists_generate_journey .android
  obtain ⟨a', ha'⟩ := exists_generate_journey .ios
  exact ⟨a, a', ha, ha', sharesApi_of_generate rfl rfl rfl rfl (by decide) (by decide) (by decide)
    ha ha'⟩

end Backend

/-! ## A line break in the name of a type -/

/-- A name that some line publishes is in the outline. -/
theorem mem_published_of_mem_lines {platform : Platform} {ls : List String}
    {line name rest : String} (hLine : line ∈ ls)
    (h : ⟨.published, name, rest⟩ ∈ mentions (lineMarks platform) line) :
    name ∈ (Outline.read platform ls).published := by
  refine List.mem_filterMap.2 ⟨.published name, ?_, rfl⟩
  induction ls with
  | nil => contradiction
  | cons first ls ih =>
    rw [readLines, List.mem_append]
    rcases List.mem_cons.1 hLine with rfl | hIn
    · exact .inl (List.mem_flatMap.2 ⟨_, h, by simp [itemsOf]⟩)
    · exact .inr (ih hIn)

theorem Kotlin.mem_lines_of_mem_properties {c : Content} {p : PropertyView} {line : String}
    (hp : p ∈ c.properties) (hLine : line ∈ Kotlin.propertyLines p) : line ∈ Kotlin.lines c := by
  have hDeclared : line ∈ c.properties.flatMap Kotlin.propertyLines :=
    List.mem_flatMap.2 ⟨p, hp, hLine⟩
  exact List.mem_append_left _ <| List.mem_append_left _ <| List.mem_append_left _ <|
    List.mem_append_left _ <| List.mem_append_right _ hDeclared

namespace Backend

/-- A property whose type has two lines in Kotlin. -/
def sizeProperty : Property :=
  { Property.plain "Size" (.primitive "int") with
    typeOverride := some ⟨some "Int>\n    val extra: StateFlow<Int", none⟩ }

def sized : ViewModel where
  name := "SizeViewModel"
  qualifiedName := "SizeViewModel"
  originModule := ViewModel.unknownModule
  properties := [sizeProperty]
  commands := []
  excluded := Exclusion.none

theorem exists_generate_sized (platform : Platform) :
    ∃ a, (standard platform).generate sized = .ok a := by
  refine (exists_generate_of_isTyped rfl ⟨by decide, by decide⟩).2 ?_
  intro p hp b hb
  rw [List.mem_singleton.1 (ViewModel.mem_propertiesFor.1 hp).1] at hb
  contradiction

/-- The declaration of the only property has two lines. -/
theorem mem_lines_sized {a : Adapter} (h : (standard .android).generate sized = .ok a) :
    ∀ line ∈ ["    val size: StateFlow<Int>",
      "    val extra: StateFlow<Int> = _size.asStateFlow()"], line ∈ Text.lines a.text := by
  have hTexts : ((Assembly.propertyPart (standard .android).target sizeProperty).toOption.map
      fun part => (part.1.identifier, part.1.typeName)) =
        some ("size", "Int>\n    val extra: StateFlow<Int") := by decide
  have hSplit : Text.lines
      "    val size: StateFlow<Int>\n    val extra: StateFlow<Int> = _size.asStateFlow()" =
        ["    val size: StateFlow<Int>",
          "    val extra: StateFlow<Int> = _size.asStateFlow()"] := by
    decide
  obtain ⟨assembly, hMake, hText, -⟩ := exists_assembly_of_generate rfl h
  obtain ⟨properties, commands, hProperties, -, rfl⟩ := Assembly.make_eq_ok.1 hMake
  obtain ⟨part, rest, hPart, -, rfl⟩ := List.forall₂_cons_left_iff.1 (mapM_eq_ok.1 hProperties)
  rw [hPart] at hTexts
  obtain ⟨hIdentifier, hType⟩ := Prod.mk.inj (Option.some.inj hTexts)
  have hDeclared :
      "    val size: StateFlow<Int>\n    val extra: StateFlow<Int> = _size.asStateFlow()" ∈
        Kotlin.propertyLines part.1 := by
    have hLine : "    val " ++ part.1.identifier ++ ": StateFlow<" ++ part.1.typeName ++ "> = " ++
        Kotlin.backing part.1 ++ ".asStateFlow()" ∈ Kotlin.propertyLines part.1 := by
      simp [Kotlin.propertyLines]
    rw [Kotlin.backing, hIdentifier, hType] at hLine
    exact hLine
  intro line hLine
  rw [hText, Text.lines_textOfLines]
  refine List.mem_append_left _
    (List.mem_flatMap.2 ⟨_, List.mem_append_right _ ?_, hSplit ▸ hLine⟩)
  exact Kotlin.mem_lines_of_mem_properties List.mem_cons_self hDeclared

theorem not_sharesApi_sized :
    ∃ a a', (standard .android).generate sized = .ok a ∧
      (standard .ios).generate sized = .ok a' ∧ sized.NamedByIdentifiers ∧
      (∀ e ∈ (standard .android).target.namespaces ++ (standard .ios).target.namespaces,
        e.2 ≠ "") ∧
      ¬ sized.SharesApi (Outline.read .android (Text.lines a.text))
        (Outline.read .ios (Text.lines a'.text)) := by
  obtain ⟨a, ha⟩ := exists_generate_sized .android
  obtain ⟨a', ha'⟩ := exists_generate_sized .ios
  refine ⟨a, a', ha, ha', by decide, by decide, fun hShares => ?_⟩
  have hLines := mem_lines_sized ha
  simp only [List.forall_mem_cons] at hLines
  have hSize := mem_published_of_mem_lines hLines.1
    (by decide : ⟨.published, "size", "Int>"⟩ ∈ mentions (lineMarks .android) _)
  have hExtra := mem_published_of_mem_lines hLines.2.1
    (by decide : ⟨.published, "extra", "Int> = _size.asStateFlow()"⟩ ∈
      mentions (lineMarks .android) _)
  obtain ⟨only, hOnly⟩ := List.length_eq_one_iff.1 hShares.properties.length
  rw [hOnly, List.mem_singleton] at hSize hExtra
  exact absurd (hSize.trans hExtra.symm) (by decide)

end Backend
end ViewAdapters
