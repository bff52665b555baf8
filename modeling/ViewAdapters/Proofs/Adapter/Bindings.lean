import ViewAdapters.Proofs.Adapter.Outline

/-!
# Bindings of properties

The text of an adapter keeps the values of properties in both directions: what contains a
property, what handles its changes and what writes new values back are in different places of the
text, but belong to the same properties.

* `PropertyView.IsViewOf`: what the bindings of a view owe to its property.
* `Backend.binds_of_generate`: a standard text binds all properties that are not excluded.
-/

namespace ViewAdapters

/-- The assignment of a new value of a property to the source. -/
def Property.writeBack (platform : Platform) (p : Property) : WriteBack where
  name := p.name
  value := (Target.toSourceExpr platform p PropertyView.newValueName).text platform
  validator := p.validatorOnSet

/-- An outline binds properties in their order: it contains each one and handles its changes,
listens to the observable collections, and writes back what is neither one nor read-only. -/
structure Outline.Binds (platform : Platform) (properties : List Property) (o : Outline) :
    Prop where
  containers : o.containers = properties.map fun p => Text.decapitalize p.name
  changed : o.changed = properties.map (·.name)
  listeners : o.listeners = (properties.filter (·.isObservable)).map (·.name)
  writeBacks : o.writeBacks =
    (properties.filter fun p => !p.isReadOnly && !p.isObservable).map (·.writeBack platform)

/-- The bindings of a view are those of a property. -/
structure PropertyView.IsViewOf (platform : Platform) (p : Property) (view : PropertyView) :
    Prop where
  name : view.name = p.name
  identifier : view.identifier = Text.decapitalize p.name
  isObservable : view.isObservable = p.isObservable
  isTwoWay : view.isTwoWay = (!p.isReadOnly && !p.isObservable)
  writeBack : view.isTwoWay = true → view.writeBack = p.writeBack platform

namespace Assembly

variable {t : Target} {p : Property}

theorem isSome_viewedElement {element : Option Target.Resolution}
    (h : viewedElement t p = .ok element) : element.isSome = p.isObservable := by
  unfold Property.isObservable
  obtain ⟨hElement, rfl⟩ | ⟨d, r, hElement, -, rfl⟩ := viewedElement_eq_ok.1 h
  · rw [hElement]
    rfl
  · rw [hElement]
    rfl

theorem isViewOf_of_propertyPart {part : PropertyPart} (h : propertyPart t p = .ok part) :
    part.1.IsViewOf t.platform p := by
  obtain ⟨r, element, view, -, hElement, hView, rfl⟩ := propertyPart_eq_ok.1 h
  obtain ⟨batchNote, -, rfl⟩ := map_eq_ok.1 hView
  have hObservable : (element.map (·.1.name)).isSome = p.isObservable := by
    rw [Option.isSome_map, isSome_viewedElement hElement]
  have hTwoWay : (!p.isReadOnly && !(element.map (·.1.name)).isSome) =
      PropertyView.isTwoWayProperty p := by rw [hObservable, PropertyView.isTwoWayProperty]
  exact {
    name := rfl
    identifier := rfl
    isObservable := hObservable
    isTwoWay := hTwoWay
    writeBack := fun hWrites => by
      have hProperty : PropertyView.isTwoWayProperty p = true := hTwoWay ▸ hWrites
      simp [PropertyView.writeBack, Property.writeBack, PropertyView.validator?_afterWriteOf,
        hProperty] }

theorem isViewOf_of_make {package : String} {time : Calendar.UtcSecond} {v : ViewModel}
    {assembly : Assembly} (h : make t package time v = .ok assembly) :
    List.Forall₂ (PropertyView.IsViewOf t.platform) (v.propertiesFor t.platform)
      assembly.content.properties := by
  obtain ⟨properties, commands, hProperties, -, rfl⟩ := make_eq_ok.1 h
  exact List.forall₂_map_right_iff.2 ((mapM_eq_ok.1 hProperties).imp fun p part hPart =>
    isViewOf_of_propertyPart hPart)

end Assembly

/-- The outline of views binds the properties that they are of. -/
theorem Content.binds_outline {platform : Platform} {properties : List Property} {c : Content}
    (h : List.Forall₂ (PropertyView.IsViewOf platform) properties c.properties) :
    c.outline.Binds platform properties := by
  exact {
    containers := map_eq_map_of_forall₂ h fun hView => hView.identifier
    changed := map_eq_map_of_forall₂ h fun hView => hView.name
    listeners := map_filter_eq_of_forall₂ h (fun hView => hView.isObservable)
      fun hView _ => hView.name
    writeBacks := map_filter_eq_of_forall₂ h (fun hView => hView.isTwoWay)
      fun hView => hView.writeBack }

namespace Backend

theorem binds_of_generate {b : Backend} {v : ViewModel} {a : Adapter}
    (hStandard : b.templates = []) (hNames : v.NamedByIdentifiers)
    (hValidators : ∀ p ∈ v.properties, ∀ s ∈ p.validatorOnSet, isIdentifier s = true)
    (hFeeds : ∀ s ∈ b.texts ++ v.texts, '\n' ∉ s.toList) (h : b.generate v = .ok a) :
    (Outline.read b.platform (Text.lines a.text)).Binds b.platform
      (v.propertiesFor b.platform) := by
  obtain ⟨assembly, hMake, hItems⟩ :=
    @items_of_generate (fun _ => true) v b a hStandard hNames (.inl hValidators) hFeeds h
  rw [List.filter_true, List.filter_true] at hItems
  rw [Outline.read, hItems, Content.ofItems_items]
  exact Content.binds_outline (Assembly.isViewOf_of_make hMake)

theorem binds_journey :
    ∃ a, (standard .android).generate journey = .ok a ∧
      (Outline.read .android (Text.lines a.text)).Binds .android
        (journey.propertiesFor .android) ∧
      (Outline.read .android (Text.lines a.text)).writeBacks =
        [⟨"Due", "newValue?.let \x7b it.toString() \x7d", some "CheckDue"⟩] := by
  obtain ⟨a, ha⟩ := exists_generate_journey .android
  have hBinds := binds_of_generate rfl (by decide) (by decide) (by decide) ha
  exact ⟨a, ha, hBinds, hBinds.writeBacks.trans (by decide)⟩

end Backend
end ViewAdapters
