import ViewAdapters.Proofs.Adapter.Imports
import ViewAdapters.Proofs.Adapter.TextLines

/-!
# Added members

A member adds lines and imports to the adapter of its view-model and leaves all others as
they are and in their order. This holds for members that the header does not name: the notes
there list all members with a warning or a type of their own in one line each.

* `Content.IsWithin.kotlin`, `Content.IsWithin.swift`: what shows more has more lines.
* `Assembly.isWithin_of_adds`: the content of a view-model with one more member shows more.
* `Backend.sublist_of_adds`: the adapters of a view-model without and with a member.
-/

namespace ViewAdapters

/-! ## Members -/

inductive Member where
  | property (p : Property)
  | command (c : Command)

namespace Member

/-- The header of an adapter does not name the member. -/
def IsUnnoted (platform : Platform) : Member → Prop
  | .property p =>
    shown p.warning = none ∧ p.overrideFor platform = none ∧ p.dateSemantics = none
  | .command c => shown c.warning = none

/-- The second view-model is the first with the member among those of its kind. -/
inductive Adds : Member → ViewModel → ViewModel → Prop
  | property {v : ViewModel} {front rest : List Property} (p : Property)
      (h : v.properties = front ++ rest) :
      Adds (.property p) v { v with properties := front ++ p :: rest }
  | command {v : ViewModel} {front rest : List Command} (c : Command)
      (h : v.commands = front ++ rest) :
      Adds (.command c) v { v with commands := front ++ c :: rest }

/-- An adapter can show the member or leaves it out. -/
def Fits (t : Target) : Member → Prop
  | .property p => p.excluded.get t.platform = false → ∃ part, Assembly.propertyPart t p = .ok part
  | .command c => c.excluded.get t.platform = false → ∃ part, Assembly.commandPart t c = .ok part

end Member

/-! ## Contents that show more -/

/-- A content shows what another one does, in the same order, and its header says the same. -/
structure Content.IsWithin (c c' : Content) : Prop where
  platform : c'.platform = c.platform
  header : Header.lines c' = Header.lines c
  adapterName : c'.adapterName = c.adapterName
  sourceType : c'.sourceType = c.sourceType
  package : c'.package = c.package
  imports : c.imports.items.Sublist c'.imports.items
  properties : c.properties.Sublist c'.properties
  commands : c.commands.Sublist c'.commands

/-- A block of lines that is there for the items of a list. -/
theorem sublist_block {α : Type} {xs xs' : List α} {ls ls' : List String}
    (hItems : xs.Sublist xs') (hLines : ls.Sublist ls') :
    (if xs.isEmpty then [] else ls).Sublist (if xs'.isEmpty then [] else ls') := by
  cases xs with
  | nil => exact List.nil_sublist _
  | cons x rest =>
    cases xs' with
    | nil => cases hItems
    | cons x' rest' => exact hLines

namespace Content.IsWithin

variable {c c' : Content} (h : c.IsWithin c')

include h

theorem twoWayProperties : c.twoWayProperties.Sublist c'.twoWayProperties :=
  h.properties.filter _

theorem collections : c.collections.Sublist c'.collections := h.properties.filter _

theorem kotlinOpening : (Kotlin.openingLines c).Sublist (Kotlin.openingLines c') := by
  unfold Kotlin.openingLines
  rw [h.package, h.adapterName, h.sourceType]
  exact ((List.Sublist.refl _).append (h.imports.map _)).append (List.Sublist.refl _)

theorem kotlinInit : (Kotlin.initLines c).Sublist (Kotlin.initLines c') := by
  unfold Kotlin.initLines
  refine .append (.append (.append (.append (.append ?_ ?_) ?_) ?_) ?_) ?_
  · exact List.Sublist.refl _
  · exact h.properties.map _
  · exact List.Sublist.refl _
  · exact h.collections.flatMap _
  · exact h.twoWayProperties.flatMap _
  · exact List.Sublist.refl _

theorem kotlin : (Kotlin.lines c).Sublist (Kotlin.lines c') := by
  unfold Kotlin.lines
  refine .append (.append (.append (.append (.append ?_ ?_) ?_) ?_) ?_) ?_
  · exact h.kotlinOpening
  · exact h.properties.flatMap _
  · exact (h.commands.filter _).flatMap _
  · exact sublist_block h.properties h.kotlinInit
  · exact h.commands.flatMap _
  · exact List.Sublist.refl _

theorem swiftOpening : (Swift.openingLines c).Sublist (Swift.openingLines c') := by
  unfold Swift.openingLines
  rw [h.adapterName]
  exact (h.imports.map _).append (List.Sublist.refl _)

theorem swiftStorage : (Swift.storageLines c).Sublist (Swift.storageLines c') := by
  unfold Swift.storageLines
  rw [h.sourceType]
  refine .append (.append ?_ ?_) ?_
  · exact sublist_block h.properties (List.Sublist.refl _)
  · exact List.Sublist.refl _
  · exact sublist_block h.twoWayProperties (List.Sublist.refl _)

theorem swiftInit : (Swift.initLines c).Sublist (Swift.initLines c') := by
  unfold Swift.initLines
  rw [h.sourceType]
  refine .append (.append (.append ?_ ?_) ?_) ?_
  · exact List.Sublist.refl _
  · exact h.properties.map _
  · exact sublist_block h.properties (List.Sublist.refl _)
  · exact List.Sublist.refl _

theorem swiftBinding : (Swift.bindingLines c).Sublist (Swift.bindingLines c') := by
  unfold Swift.bindingLines
  refine .append (.append (.append (.append (.append (.append (.append ?_ ?_) ?_) ?_) ?_) ?_) ?_) ?_
  · exact List.Sublist.refl _
  · exact sublist_block h.twoWayProperties (List.Sublist.refl _)
  · exact List.Sublist.refl _
  · exact h.properties.flatMap _
  · exact List.Sublist.refl _
  · exact h.collections.flatMap _
  · exact h.twoWayProperties.flatMap _
  · exact List.Sublist.refl _

theorem swift : (Swift.lines c).Sublist (Swift.lines c') := by
  unfold Swift.lines
  refine .append (.append (.append (.append (.append (.append (.append ?_ ?_) ?_) ?_) ?_) ?_) ?_) ?_
  · exact h.swiftOpening
  · exact h.properties.flatMap _
  · exact h.swiftStorage
  · exact h.swiftInit
  · exact (h.commands.filter _).flatMap _
  · exact h.commands.flatMap _
  · exact sublist_block h.properties h.swiftBinding
  · exact List.Sublist.refl _

theorem lines : c.lines.Sublist c'.lines := by
  unfold Content.lines UserTemplate.bodyLines
  rw [h.header, h.platform]
  refine (List.Sublist.refl _).append ?_
  cases c.platform with
  | android => exact h.kotlin
  | ios => exact h.swift

end Content.IsWithin

/-! ## Parts of one more member -/

theorem mapM_append_eq_ok {ε α β : Type} {f : α → Except ε β} {xs ys : List α} {zs : List β} :
    (xs ++ ys).mapM f = .ok zs ↔
      ∃ as bs, xs.mapM f = .ok as ∧ ys.mapM f = .ok bs ∧ zs = as ++ bs := by
  simp only [List.mapM_append, bind_eq_ok]
  constructor
  · rintro ⟨as, hAs, bs, hBs, hEnd⟩
    exact ⟨as, bs, hAs, hBs, (Except.ok.inj hEnd).symm⟩
  · rintro ⟨as, bs, hAs, hBs, rfl⟩
    exact ⟨as, hAs, bs, hBs, rfl⟩

/-- The results of a list with one more item are those of the list with that of the item. -/
theorem exists_parts_of_insert {ε α β : Type} {f : α → Except ε β} {keep : α → Bool}
    {front rest : List α} {x : α} {zs : List β}
    (h : ((front ++ x :: rest).filter keep).mapM f = .ok zs) :
    ∃ as bs new, ((front ++ rest).filter keep).mapM f = .ok (as ++ bs) ∧ zs = as ++ (new ++ bs) ∧
      ∀ z ∈ new, f x = .ok z := by
  have hFilter : (front ++ x :: rest).filter keep =
      front.filter keep ++ ([x].filter keep ++ rest.filter keep) := by
    rw [← List.filter_append, ← List.filter_append]
    rfl
  rw [hFilter] at h
  obtain ⟨as, others, hAs, hOthers, rfl⟩ := mapM_append_eq_ok.1 h
  obtain ⟨new, bs, hNew, hBs, rfl⟩ := mapM_append_eq_ok.1 hOthers
  refine ⟨as, bs, new, ?_, rfl, fun z hz => ?_⟩
  · rw [List.filter_append]
    exact mapM_append_eq_ok.2 ⟨as, bs, hAs, hBs, rfl⟩
  · obtain ⟨k, hk, rfl⟩ := List.getElem_of_mem hz
    have hPairs := mapM_eq_ok.1 hNew
    have hAt := hPairs.get (hPairs.length_eq ▸ hk) hk
    have hItem := List.mem_filter.1 (List.get_mem ([x].filter keep) ⟨k, hPairs.length_eq ▸ hk⟩)
    rw [List.mem_singleton.1 hItem.1] at hAt
    exact hAt

namespace Assembly

variable {t : Target}

theorem unnoted_of_propertyPart {p : Property} {part : PropertyPart}
    (hUnnoted : (Member.property p).IsUnnoted t.platform) (h : propertyPart t p = .ok part) :
    part.1.isCustom = false ∧ part.1.warning.isSome = false := by
  obtain ⟨hWarning, hOverride, hDates⟩ := hUnnoted
  obtain ⟨r, element, view, -, -, hView, rfl⟩ := propertyPart_eq_ok.1 h
  obtain ⟨note, -, rfl⟩ := map_eq_ok.1 hView
  refine ⟨by simp [hOverride, hDates], ?_⟩
  change (shown p.warning).isSome = false
  rw [hWarning]
  rfl

theorem unnoted_of_commandPart {c : Command} {part : CommandPart}
    (hUnnoted : (Member.command c).IsUnnoted t.platform) (h : commandPart t c = .ok part) :
    part.1.warning.isSome = false := by
  obtain ⟨r, -, rfl⟩ := commandPart_eq_ok.1 h
  change (shown c.warning).isSome = false
  rw [show shown c.warning = none from hUnnoted]
  rfl

/-- Views among which a filter leaves the new ones out. -/
theorem filter_insert {α β : Type} {g : α → β} {keep : β → Bool} {as bs new : List α}
    (h : ∀ z ∈ new, keep (g z) = false) :
    ((as ++ (new ++ bs)).map g).filter keep = ((as ++ bs).map g).filter keep := by
  have hNone : (new.map g).filter keep = [] := by
    rw [List.filter_eq_nil_iff]
    intro y hy
    obtain ⟨z, hz, rfl⟩ := List.mem_map.1 hy
    simp [h z hz]
  simp [List.map_append, List.filter_append, hNone]

theorem header_congr {c c' : Content} (hQualified : c'.viewModel.qualifiedName =
      c.viewModel.qualifiedName) (hModule : c'.viewModel.originModule = c.viewModel.originModule)
    (hTime : c'.time = c.time) (hCustom : c'.customMembers = c.customMembers)
    (hWarned : c'.warnedMembers = c.warnedMembers) : Header.lines c' = Header.lines c := by
  unfold Header.lines
  rw [hQualified, hModule, hTime, hCustom, hWarned]

theorem imports_subset {package : String} {time : Calendar.UtcSecond} {v w : ViewModel}
    (hName : w.qualifiedName = v.qualifiedName) {ps ps' : List PropertyPart}
    {cs cs' : List CommandPart} (hProperties : ps ⊆ ps') (hCommands : cs ⊆ cs') :
    ∀ x ∈ (ofParts t package time v ps cs).content.imports,
      x ∈ (ofParts t package time w ps' cs').content.imports := by
  intro x hx
  rw [mem_imports_ofParts] at hx ⊢
  rw [hName]
  rcases hx with ⟨p, hp, hx⟩ | ⟨c, hc, hx⟩ | hx | ⟨hDispatch, hx⟩ | hx
  · exact .inl ⟨p, hProperties hp, hx⟩
  · exact .inr (.inl ⟨c, hCommands hc, hx⟩)
  · exact .inr (.inr (.inl hx))
  · refine .inr (.inr (.inr (.inl ⟨?_, hx⟩)))
    unfold isDispatching at hDispatch ⊢
    obtain ⟨c, hc, hIs⟩ := List.any_eq_true.1 hDispatch
    exact List.any_eq_true.2 ⟨c, List.map_subset _ hCommands hc, hIs⟩
  · exact .inr (.inr (.inr (.inr (structuralImports_subset (List.map_subset _ hProperties)
      (List.map_subset _ hCommands) hx))))

/-- The content of a view-model with one more member shows more. -/
theorem isWithin_of_adds {package : String} {time : Calendar.UtcSecond} {m : Member}
    {v w : ViewModel} (hUnnoted : m.IsUnnoted t.platform) (hAdds : m.Adds v w) {a' : Assembly}
    (h : make t package time w = .ok a') :
    ∃ a, make t package time v = .ok a ∧ a.content.IsWithin a'.content := by
  obtain ⟨properties, commands, hProperties, hCommands, rfl⟩ := make_eq_ok.1 h
  cases hAdds with
  | @property _ front rest p hMembers =>
    obtain ⟨as, bs, new, hBefore, rfl, hNew⟩ := exists_parts_of_insert hProperties
    rw [← hMembers] at hBefore
    have hSublist : (as ++ bs).Sublist (as ++ (new ++ bs)) :=
      (List.Sublist.refl as).append (List.sublist_append_right new bs)
    refine ⟨_, make_eq_ok.2 ⟨as ++ bs, commands, hBefore, hCommands, rfl⟩, ?_⟩
    have hUnnotedParts := fun z hz => unnoted_of_propertyPart hUnnoted (hNew z hz)
    refine ⟨rfl, header_congr rfl rfl rfl ?_ ?_, rfl, rfl, rfl, ?_, hSublist.map _,
      List.Sublist.refl _⟩
    · exact congrArg (List.map _) (filter_insert fun z hz => (hUnnotedParts z hz).1)
    · exact congrArg (List.map _ · ++ _) (filter_insert fun z hz => (hUnnotedParts z hz).2)
    · exact SortedSet.sublist_of_subset
        (imports_subset rfl hSublist.subset (List.Subset.refl commands))
  | @command _ front rest c hMembers =>
    obtain ⟨as, bs, new, hBefore, rfl, hNew⟩ := exists_parts_of_insert hCommands
    rw [← hMembers] at hBefore
    have hSublist : (as ++ bs).Sublist (as ++ (new ++ bs)) :=
      (List.Sublist.refl as).append (List.sublist_append_right new bs)
    refine ⟨_, make_eq_ok.2 ⟨properties, as ++ bs, hProperties, hBefore, rfl⟩, ?_⟩
    have hWarned : ((as ++ (new ++ bs)).map (·.1)).filter (·.warning.isSome) =
        ((as ++ bs).map (·.1)).filter (·.warning.isSome) :=
      filter_insert fun z hz => unnoted_of_commandPart hUnnoted (hNew z hz)
    refine ⟨rfl, header_congr rfl rfl rfl rfl ?_, rfl, rfl, rfl, ?_, List.Sublist.refl _,
      hSublist.map _⟩
    · exact congrArg (_ ++ List.map _ ·) hWarned
    · exact SortedSet.sublist_of_subset
        (imports_subset rfl (List.Subset.refl properties) hSublist.subset)

end Assembly

/-! ## Adapters with one more member -/

/-- What holds of the items that a filter keeps, with one more item in the list. -/
theorem forall_filter_insert {α : Type} {keep : α → Bool} {P : α → Prop} {front rest : List α}
    {x : α} :
    (∀ y ∈ (front ++ x :: rest).filter keep, P y) ↔
      (∀ y ∈ (front ++ rest).filter keep, P y) ∧ (keep x = true → P x) := by
  simp only [List.mem_filter, List.mem_append, List.mem_cons]
  constructor
  · intro h
    refine ⟨fun y hy => h y ⟨hy.1.imp_right .inr, hy.2⟩, fun hKeep => ?_⟩
    exact h x ⟨.inr (.inl rfl), hKeep⟩
  · rintro ⟨hOthers, hNew⟩ y ⟨hy | rfl | hy, hKeep⟩
    · exact hOthers y ⟨.inl hy, hKeep⟩
    · exact hNew hKeep
    · exact hOthers y ⟨.inr hy, hKeep⟩

theorem Assembly.exists_make_iff_of_adds {t : Target} {package : String}
    {time : Calendar.UtcSecond} {m : Member} {v w : ViewModel} (hAdds : m.Adds v w) :
    (∃ a, make t package time w = .ok a) ↔
      (∃ a, make t package time v = .ok a) ∧ m.Fits t := by
  rw [exists_make_iff, exists_make_iff]
  unfold ViewModel.propertiesFor ViewModel.commandsFor Member.Fits
  cases hAdds with
  | property p hMembers =>
    rw [hMembers, forall_filter_insert]
    simp only [Bool.not_eq_true']
    exact and_right_comm
  | command c hMembers =>
    rw [hMembers, forall_filter_insert]
    simp only [Bool.not_eq_true']
    exact and_assoc.symm

namespace Backend

/-- With one more member, an adapter has the lines and the imports that it has without it, in
the same order, and others besides. It is there if the one without is and the member fits. -/
theorem sublist_of_adds {b : Backend} (hStandard : b.templates = []) {m : Member}
    {v w : ViewModel} (hUnnoted : m.IsUnnoted b.platform) (hAdds : m.Adds v w) :
    ((∃ a', b.generate w = .ok a') ↔ (∃ a, b.generate v = .ok a) ∧ m.Fits b.target) ∧
      ∀ a a', b.generate v = .ok a → b.generate w = .ok a' →
        (Text.lines a.text).Sublist (Text.lines a'.text) ∧
        a.imports.items.Sublist a'.imports.items := by
  refine ⟨?_, fun a a' h h' => ?_⟩
  · rw [exists_generate_iff hStandard, exists_generate_iff hStandard]
    exact Assembly.exists_make_iff_of_adds hAdds
  · obtain ⟨assembly, hMake, hText, hImports⟩ := exists_assembly_of_generate hStandard h
    obtain ⟨assembly', hMake', hText', hImports'⟩ := exists_assembly_of_generate hStandard h'
    obtain ⟨before, hBefore, hWithin⟩ := Assembly.isWithin_of_adds hUnnoted hAdds hMake'
    cases hMake.symm.trans hBefore
    rw [hText, hText', hImports, hImports']
    exact ⟨Text.lines_sublist hWithin.lines, hWithin.imports⟩

/-- A view-model with a command and some properties. -/
def tagList (properties : List Property) : ViewModel where
  name := "TagListViewModel"
  qualifiedName := "App.TagListViewModel"
  originModule := "App"
  properties := properties
  commands := [{ Command.plain "Load" with isAsync := true }]
  excluded := Exclusion.none

/-- An observable collection of texts. -/
def tags : Property :=
  { Property.plain "Tags" (.collection (.primitive "string")) with
    element := some (.primitive "string") }

/-- The first property brings blocks of lines that are not there without it. -/
theorem sublist_firstProperty :
    ∃ a a', (standard .ios).generate (tagList []) = .ok a ∧
      (standard .ios).generate (tagList [tags]) = .ok a' ∧
      (Text.lines a.text).Sublist (Text.lines a'.text) ∧
      a.imports.items.Sublist a'.imports.items := by
  have hUnnoted : (Member.property tags).IsUnnoted .ios := ⟨rfl, rfl, rfl⟩
  have hAdds : (Member.property tags).Adds (tagList []) (tagList [tags]) :=
    @Member.Adds.property (tagList []) [] [] tags rfl
  obtain ⟨hExists, hSublist⟩ := sublist_of_adds (b := standard .ios) rfl hUnnoted hAdds
  have hBefore : ∃ a, (standard .ios).generate (tagList []) = .ok a :=
    (exists_generate_iff rfl).2 ⟨_, rfl⟩
  obtain ⟨a, ha⟩ := hBefore
  obtain ⟨a', ha'⟩ := hExists.2 ⟨⟨a, ha⟩, fun _ => ⟨_, rfl⟩⟩
  exact ⟨a, a', ha, ha', hSublist a a' ha ha'⟩

end Backend
end ViewAdapters
